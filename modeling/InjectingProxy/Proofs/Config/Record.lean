import Mathlib.Data.List.Nodup
import Mathlib.Data.List.Perm.Basic
import InjectingProxy.Config.Value

/-!
# Fields of a record

A record is looked up by name.  The order of its fields does not matter if no name appears twice,
and neither do fields of names that nobody asks for (`Value.Rearranges.field?_eq`).  A record can
have one field from another one, the rest being its own (`Value.graft`), and each look-up then goes
to the record that the field is from (`Value.field?_graft`).
-/

set_option autoImplicit false

namespace InjectingProxy
namespace Value

variable {fields fields' base : List (String × Value)} {name : String} {v : Value}

/-- What stands at a place in a record: the field of a field, and so on. -/
def at? : Value → List String → Option Value
  | v, [] => some v
  | v, name :: rest => (v.field? name).bind (·.at? rest)

theorem at?_singleton (v : Value) (name : String) : v.at? [name] = v.field? name := by
  rw [at?]
  cases v.field? name <;> rfl

theorem field?_record (fields : List (String × Value)) (name : String) :
    (record fields).field? name = fields.reverse.lookup name := rfl

/-! ## One field from another record -/

theorem lookup_filter_of_pos {p : String → Bool} (h : p name = true) :
    ∀ fields : List (String × Value),
      (fields.filter fun f ↦ p f.1).lookup name = fields.lookup name
  | [] => rfl
  | (key, v) :: fields => by
    rw [List.filter_cons, List.lookup_cons]
    cases hname : name == key with
    | true =>
      rw [← beq_iff_eq.1 hname, if_pos h, List.lookup_cons_self]
    | false =>
      split
      · rw [List.lookup_cons, hname, lookup_filter_of_pos h]
      · exact lookup_filter_of_pos h fields

theorem lookup_filter_of_neg {p : String → Bool} (h : p name = false)
    (fields : List (String × Value)) : (fields.filter fun f ↦ p f.1).lookup name = none := by
  refine List.lookup_eq_none_iff.2 fun f hf ↦ ?_
  have hkept : p f.1 = true := (List.mem_filter.1 hf).2
  refine bne_iff_ne.2 ?_
  rintro rfl
  cases hkept.symm.trans h

/-- A record with one field, or its absence, from other fields. -/
def graft (name : String) (fields base : List (String × Value)) : List (String × Value) :=
  base.filter (fun f ↦ f.1 != name) ++ fields.filter (fun f ↦ f.1 == name)

/-- A record with one field set to a value. -/
def put (name : String) (v : Value) (base : List (String × Value)) : List (String × Value) :=
  graft name [(name, v)] base

/-- **A field is looked up in the record that it is from.** -/
theorem field?_graft (name other : String) (fields base : List (String × Value)) :
    (record (graft name fields base)).field? other =
      if other = name then (record fields).field? name else (record base).field? other := by
  rw [field?_record, graft, List.reverse_append, List.lookup_append, ← List.filter_reverse,
    ← List.filter_reverse]
  split
  · rename_i hother
    have hself : (name == name) = true := beq_self_eq_true name
    rw [hother, lookup_filter_of_pos (p := (· == name)) hself,
      lookup_filter_of_neg (p := (· != name)) (by simp), Option.or_none, field?_record]
  · rename_i hother
    rw [lookup_filter_of_neg (p := (· == name)) (by simpa using hother),
      lookup_filter_of_pos (p := (· != name)) (by simpa using hother), Option.none_or,
      field?_record]

theorem field?_put (name : String) (v : Value) (base : List (String × Value)) :
    (record (put name v base)).field? name = some v := by
  rw [put, field?_graft, if_pos rfl, field?_record, List.reverse_singleton, List.lookup_cons_self]

theorem field?_put_of_ne {other : String} (h : other ≠ name) (v : Value)
    (base : List (String × Value)) :
    (record (put name v base)).field? other = (record base).field? other := by
  rw [put, field?_graft, if_neg h]

/-! ## Order and further fields -/

/-- The same fields of known names, in any order; each name appears once. -/
structure Rearranges (known : List String) (fields fields' : List (String × Value)) : Prop where
  nodup : (fields.map Prod.fst).Nodup
  perm : (fields.filter fun f ↦ known.contains f.1).Perm
    (fields'.filter fun f ↦ known.contains f.1)

theorem lookup_eq_some_iff_of_nodup (h : (fields.map Prod.fst).Nodup) :
    fields.lookup name = some v ↔ (name, v) ∈ fields := by
  induction fields with
  | nil => simp
  | cons f fields ih =>
    obtain ⟨key, w⟩ := f
    rw [List.map_cons, List.nodup_cons] at h
    obtain ⟨hnew, hrest⟩ := h
    rw [List.lookup_cons, List.mem_cons, Prod.mk.injEq]
    cases hname : name == key with
    | true =>
      obtain rfl := beq_iff_eq.1 hname
      have hnot : (name, v) ∉ fields := fun hmem ↦ hnew (List.mem_map.2 ⟨_, hmem, rfl⟩)
      simp [hnot, eq_comm]
    | false =>
      have hne : name ≠ key := ne_of_beq_false hname
      simp [hne, ih hrest]

theorem lookup_eq_of_perm (hnodup : (fields.map Prod.fst).Nodup) (h : fields.Perm fields') :
    fields.lookup name = fields'.lookup name := by
  have hnodup' : (fields'.map Prod.fst).Nodup := (h.map Prod.fst).nodup_iff.1 hnodup
  refine Option.ext fun v ↦ ?_
  rw [lookup_eq_some_iff_of_nodup hnodup, lookup_eq_some_iff_of_nodup hnodup', h.mem_iff]

/-- **Neither the order of the fields nor fields of other names matter** to a look-up. -/
theorem Rearranges.field?_eq {known : List String} (h : Rearranges known fields fields')
    (hname : name ∈ known) : (record fields).field? name = (record fields').field? name := by
  let p (key : String) : Bool := known.contains key
  have hp : p name = true := List.contains_iff_mem.2 hname
  have hnodup : ((fields.reverse.filter fun f ↦ p f.1).map Prod.fst).Nodup := by
    rw [List.filter_reverse, List.map_reverse, List.nodup_reverse]
    exact h.nodup.sublist (List.filter_sublist.map Prod.fst)
  have hperm : (fields.reverse.filter fun f ↦ p f.1).Perm
      (fields'.reverse.filter fun f ↦ p f.1) := by
    rw [List.filter_reverse, List.filter_reverse]
    exact (List.reverse_perm _).trans (h.perm.trans (List.reverse_perm _).symm)
  rw [field?_record, field?_record, ← lookup_filter_of_pos hp, lookup_eq_of_perm hnodup hperm,
    lookup_filter_of_pos hp]

end Value
end InjectingProxy
