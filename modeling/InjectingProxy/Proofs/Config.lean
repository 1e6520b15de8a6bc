import InjectingProxy.Config.Basic

/-!
# Readings of a whole configuration

A configuration is read field by field, and is there exactly if each of its fields can be read
(`Config.ofValue_eq_ok_iff`).  Of the host of the backend, the check asks only that it is not empty
and has no slash (`Config.readBackendHost_eq_ok_iff`).
-/

set_option autoImplicit false

namespace InjectingProxy

namespace Checked

variable {α β : Type} {a : Checked α} {b : Checked β}

theorem both_eq_ok_iff {p : α × β} : a.both b = .ok p ↔ a = .ok p.1 ∧ b = .ok p.2 := by
  obtain ⟨x, y⟩ := p
  cases a <;> cases b <;> simp [both]

end Checked

namespace Field

variable {α : Type} {record : Value} {name : String} {read : Reader α}

theorem required_eq_ok_iff {x : α} :
    required record name read = .ok x ↔ ∃ v, record.field? name = some v ∧ read v = .ok x := by
  rw [required]
  cases record.field? name with
  | none => simp
  | some v => cases hread : read v <;> simp [hread]

/-! A field that is there is read. -/

theorem required_of_field? {v : Value} (h : record.field? name = some v) {x : α} :
    required record name read = .ok x ↔ read v = .ok x := by
  simp [required_eq_ok_iff, h]

theorem withDefault_eq_required {v : Value} (h : record.field? name = some v) (other : α) :
    withDefault record name read other = required record name read := by
  rw [withDefault, required, h]

theorem withDefault_of_field? {v : Value} (h : record.field? name = some v) {x other : α} :
    withDefault record name read other = .ok x ↔ read v = .ok x := by
  rw [withDefault_eq_required h, required_of_field? h]

theorem wholeWithin_eq_ok_iff {low high n : Int} {v : Value} :
    wholeWithin (some low) (some high) v = .ok n ↔ whole v = .ok n ∧ low ≤ n ∧ n ≤ high := by
  rw [wholeWithin]
  cases whole v with
  | error e => simp
  | ok m =>
    by_cases hhigh : high < m
    · simp [hhigh]
      omega
    · by_cases hlow : m < low
      · simp [hhigh, hlow]
        omega
      · simp [hhigh, hlow]
        omega

end Field

namespace Config

theorem readBackendHost_eq_ok_iff {v : Value} {s : String} :
    readBackendHost v = .ok s ↔ v = .text s ∧ s.toList ≠ [] ∧ '/' ∉ s.toList := by
  cases v with
  | text t =>
    simp only [readBackendHost, Field.text]
    by_cases h : t.toList = [] ∨ '/' ∈ t.toList
    · rw [if_pos (by simpa using h)]
      refine ⟨fun hok ↦ (by cases hok), ?_⟩
      rintro ⟨⟨⟩, hne, hslash⟩
      exact (h.elim hne hslash).elim
    · rw [if_neg (by simpa using h)]
      obtain ⟨hne, hslash⟩ := not_or.1 h
      simp only [Except.ok.injEq, Value.text.injEq]
      exact ⟨fun heq ↦ ⟨heq, heq ▸ hne, heq ▸ hslash⟩, fun heq ↦ heq.1⟩
  | _ => exact ⟨fun h ↦ (by cases h), fun h ↦ (by cases h.1)⟩

/-- A gate is its modulus. -/
theorem readGate_eq_ok_iff {v : Value} {g : Gate} :
    readGate v = .ok g ↔ Field.whole v = .ok g.modulus := by
  obtain ⟨m, hm⟩ := g
  rw [readGate]
  cases Field.whole v with
  | error e => simp
  | ok n =>
    by_cases hn : 1 ≤ n
    · simp [hn]
    · have hne : n ≠ m := fun h ↦ hn (h ▸ hm)
      simp [hn, hne]

/-- **A record is a configuration exactly if each of its fields can be read.** -/
theorem ofValue_eq_ok_iff {record : Value} {c : Config} :
    ofValue record = .ok c ↔
      Field.required record "port" (Field.wholeWithin (some 0) (some maxPort)) = .ok c.port ∧
      Field.withDefault record "host" Field.text defaultHost = .ok c.host ∧
      Field.withDefault record "backend_scheme" Field.text defaultScheme = .ok c.backendScheme ∧
      Field.required record "backend_host" readBackendHost = .ok c.backendHost ∧
      readStatus record = .ok c.errorStatus ∧
      Field.required record "error_mod" readGate = .ok c.gate ∧
      Field.withDefault record "backend_timeout" (Field.orNull Field.real) (some defaultTimeout) =
        .ok c.backendTimeout ∧
      Field.withDefault record "embedded" Field.bool false = .ok c.embedded := by
  rw [ofValue]
  constructor
  · intro h
    split at h
    · cases h
    · rename_i heq
      cases h
      simpa only [Checked.both_eq_ok_iff] using heq
  · rintro ⟨hport, hhost, hscheme, hbackend, hstatus, hgate, htimeout, hembedded⟩
    simp only [hport, hhost, hscheme, hbackend, hstatus, hgate, htimeout, hembedded, Checked.both]

theorem backendHost_of_ofValue {record : Value} {c : Config} (h : ofValue record = .ok c) :
    c.backendHost.toList ≠ [] ∧ '/' ∉ c.backendHost.toList := by
  obtain ⟨-, -, -, hhost, -⟩ := ofValue_eq_ok_iff.1 h
  obtain ⟨v, -, hread⟩ := Field.required_eq_ok_iff.1 hhost
  exact (readBackendHost_eq_ok_iff.1 hread).2

end Config
end InjectingProxy
