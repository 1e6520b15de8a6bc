/-!
# Checks in a row

A row of checks succeeds exactly if each of them does, and what a check is made of its results.
-/

set_option autoImplicit false

namespace InjectingProxy

theorem bind_eq_ok {ε α β : Type} {x : Except ε α} {f : α → Except ε β} {b : β} :
    (x >>= f) = .ok b ↔ ∃ a, x = .ok a ∧ f a = .ok b := by
  cases x with
  | error e => exact ⟨nofun, nofun⟩
  | ok a => exact ⟨fun h ↦ ⟨a, rfl, h⟩, fun ⟨_, h, hf⟩ ↦ Except.ok.inj h ▸ hf⟩

/-- A row of checks is refused with what the first check is refused with, or those after it. -/
theorem bind_eq_error {ε α β : Type} {x : Except ε α} {f : α → Except ε β} {e : ε} :
    (x >>= f) = .error e ↔ x = .error e ∨ ∃ a, x = .ok a ∧ f a = .error e := by
  cases x with
  | error e' => exact ⟨.inl ∘ congrArg Except.error ∘ Except.error.inj, fun h ↦ by
      rcases h with ⟨⟨⟩⟩ | ⟨_, ⟨⟩, -⟩
      rfl⟩
  | ok a => exact ⟨fun h ↦ .inr ⟨a, rfl, h⟩, fun h ↦ by
      rcases h with ⟨⟨⟩⟩ | ⟨_, ⟨⟩, h⟩
      exact h⟩

theorem mapError_eq_ok {ε ε' α : Type} {x : Except ε α} {f : ε → ε'} {a : α} :
    x.mapError f = .ok a ↔ x = .ok a := by
  cases x with
  | error e => exact ⟨nofun, nofun⟩
  | ok b => exact ⟨fun h ↦ congrArg _ (Except.ok.inj h), fun h ↦ congrArg _ (Except.ok.inj h)⟩

theorem toOption_eq_some_iff {ε α : Type} {x : Except ε α} {a : α} :
    x.toOption = some a ↔ x = .ok a := by
  cases x with
  | error e => exact ⟨fun h ↦ (by cases h), fun h ↦ (by cases h)⟩
  | ok b => exact ⟨fun h ↦ congrArg _ (Option.some.inj h), fun h ↦ congrArg _ (Except.ok.inj h)⟩

/-- A check that refuses something is passed by everything else. -/
theorem throw_unless_eq_ok {ε α β : Type} {p : Prop} [Decidable p] {e : ε} {f : α → Except ε β}
    {x : Except ε β} {b : β} : (if p then throw e >>= f else x) = .ok b ↔ ¬ p ∧ x = .ok b := by
  split
  · rename_i hp
    exact ⟨nofun, fun h ↦ absurd hp h.1⟩
  · rename_i hp
    exact ⟨fun h ↦ ⟨hp, h⟩, fun h ↦ h.2⟩

/-- What neither a check nor the checks after it refuse with, their row does not refuse with. -/
theorem bind_ne_error {ε α β : Type} {x : Except ε α} {f : α → Except ε β} {e : ε}
    (hx : x ≠ .error e) (hf : ∀ a, f a ≠ .error e) : (x >>= f) ≠ .error e := by
  cases x with
  | error e' => exact fun h ↦ hx (congrArg Except.error (Except.error.inj h))
  | ok a => exact hf a

theorem mapError_ne_error {ε ε' α : Type} {x : Except ε α} {f : ε → ε'} {e : ε'}
    (h : ∀ e', f e' ≠ e) : x.mapError f ≠ .error e := by
  cases x with
  | error e' => exact fun heq ↦ h e' (Except.error.inj heq)
  | ok a => exact nofun

theorem discard_eq_ok {ε α : Type} {x : Except ε α} : discard x = .ok () ↔ ∃ a, x = .ok a := by
  cases x with
  | error e => exact ⟨nofun, nofun⟩
  | ok a => exact ⟨fun _ ↦ ⟨a, rfl⟩, fun _ ↦ rfl⟩

theorem discard_ne_error {ε α : Type} {x : Except ε α} {e : ε} (h : x ≠ .error e) :
    discard x ≠ .error e := by
  cases x with
  | error e' => exact fun heq ↦ h (congrArg Except.error (Except.error.inj heq))
  | ok a => exact nofun

/-- Each result of a check of many things comes from one of them. -/
theorem mem_of_mapM_eq_ok {ε α β : Type} {f : α → Except ε β} : ∀ {l : List α} {results : List β},
    l.mapM f = .ok results → ∀ b ∈ results, ∃ a ∈ l, f a = .ok b
  | [], _, h => by
    cases h
    exact nofun
  | a :: l, results, h => by
    rw [List.mapM_cons] at h
    obtain ⟨b, hb, h⟩ := bind_eq_ok.1 h
    obtain ⟨rest, hrest, h⟩ := bind_eq_ok.1 h
    cases h
    intro c hc
    rcases List.mem_cons.1 hc with rfl | hc
    · exact ⟨a, List.mem_cons_self, hb⟩
    · obtain ⟨a', ha', hf⟩ := mem_of_mapM_eq_ok hrest c hc
      exact ⟨a', List.mem_cons_of_mem a ha', hf⟩

end InjectingProxy
