import InjectingProxy.Gate

/-!
# Which ordinals a gate picks

A gate picks an ordinal if it leaves the same remainder as 1, that is, if the modulus divides what
comes after the first (`injects_iff_dvd`).  This holds for the modulus 1, too, which divides
everything, and for ordinals below 1.
-/

set_option autoImplicit false

namespace InjectingProxy
namespace Gate

theorem injects_iff (g : Gate) (ordinal : Int) :
    g.injects ordinal = true ↔ ordinal % g.modulus = 1 % g.modulus := by
  rw [injects, beq_iff_eq]

theorem injects_iff_dvd (g : Gate) (ordinal : Int) :
    g.injects ordinal = true ↔ g.modulus ∣ ordinal - 1 := by
  rw [injects_iff, Int.emod_eq_emod_iff_emod_sub_eq_zero, Int.dvd_iff_emod_eq_zero]

/-- Counting from zero, the gate picks what comes after each multiple of its modulus. -/
theorem injects_add_one_iff (g : Gate) (before : Nat) :
    g.injects (before + 1) = true ↔ (before : Int) % g.modulus = 0 := by
  rw [injects_iff_dvd, Int.add_sub_cancel, Int.dvd_iff_emod_eq_zero]

end Gate
end InjectingProxy
