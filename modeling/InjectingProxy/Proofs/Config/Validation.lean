import InjectingProxy.Proofs.Config
import InjectingProxy.Proofs.Config.Record
import InjectingProxy.Proofs.Text.Basic

/-!
# Errors field by field

A record that is no configuration is refused with the errors of all its fields.  Each field reports
on itself alone, whatever the others are (`AreFieldwise`): an error says where the field is and what
is wrong with it (`FieldError.told`), and shows the value that was found there, or the record in
which it is missing (`FieldError.Shows`).  So the errors of a record can be found one field at a
time, in a record of which all other fields are valid, and neither the order of the fields nor
further ones change anything (`Config.ReportsByField`).

A configuration that has been read keeps to the limits, is read again from its own values, and
refuses every assignment (`Config.IsSettled`).

`Config.validated_field_by_field` says this of every record.
-/

set_option autoImplicit false

namespace InjectingProxy

/-- What is told of an error: where it is and what is wrong. -/
def FieldError.told (e : FieldError) : List String × Flaw := (e.place, e.flaw)

/-- An error shows the value at its place, or the record in which there is none. -/
def FieldError.Shows (e : FieldError) (record : Value) : Prop :=
  record.at? e.place = some e.given ∨
    e.flaw = .missing ∧ record.at? e.place = none ∧ record.at? e.place.dropLast = some e.given

namespace Checked

variable {α β : Type} {a a' : Checked α} {b b' : Checked β}

/-- The errors of a reading. -/
def errors : Checked α → List FieldError
  | .ok _ => []
  | .error es => es

/-- What is told of a reading: what has been read, or what is told of the errors. -/
def report (a : Checked α) : Except (List (List String × Flaw)) α :=
  a.mapError (List.map FieldError.told)

/-- What is told of the errors of a reading. -/
def complaints (a : Checked α) : List (List String × Flaw) := a.errors.map FieldError.told

/-- A reading that fails has an error. -/
def SaysWhy (a : Checked α) : Prop := a.errors = [] → ∃ x, a = .ok x

theorem errors_both : (a.both b).errors = a.errors ++ b.errors := by
  cases a <;> cases b <;> simp [both, errors]

theorem SaysWhy.both (ha : a.SaysWhy) (hb : b.SaysWhy) : (a.both b).SaysWhy := by
  intro h
  rw [errors_both, List.append_eq_nil_iff] at h
  obtain ⟨x, rfl⟩ := ha h.1
  obtain ⟨y, rfl⟩ := hb h.2
  exact ⟨(x, y), rfl⟩

theorem complaints_of_report (h : a.report = a'.report) : a.complaints = a'.complaints := by
  cases a <;> cases a' <;> simp_all [report, complaints, errors, Except.mapError]

/-- What is told of two readings is known from what is told of each. -/
theorem report_both (ha : a.report = a'.report) (hb : b.report = b'.report) :
    (a.both b).report = (a'.both b').report := by
  cases a <;> cases a' <;> cases b <;> cases b' <;>
    simp_all [report, Checked.both, Except.mapError]

/-! What is made of a reading changes nothing about its errors. -/

theorem errors_map (f : α → β) : errors (Except.map f a) = a.errors := by
  cases a <;> rfl

theorem SaysWhy.map (f : α → β) (ha : a.SaysWhy) : SaysWhy (Except.map f a) := by
  intro h
  obtain ⟨x, rfl⟩ := ha ((errors_map f).symm.trans h)
  exact ⟨f x, rfl⟩

theorem report_map (f : α → β) (h : a.report = a'.report) :
    report (Except.map f a) = report (Except.map f a') := by
  cases a <;> cases a' <;> simp_all [report, Except.mapError, Except.map]

end Checked

/-! ## One field -/

namespace Field

variable {α : Type} {record record' : Value} {name : String} {read : Reader α}

theorem report_required (h : record.field? name = record'.field? name) :
    (required record name read).report = (required record' name read).report := by
  rw [required, required, h]
  cases record'.field? name <;> rfl

theorem withDefault_congr (h : record.field? name = record'.field? name) (other : α) :
    withDefault record name read other = withDefault record' name read other := by
  rw [withDefault, withDefault, h]

theorem saysWhy_required : (required record name read).SaysWhy := by
  rw [required]
  cases record.field? name with
  | none => exact fun h ↦ absurd h (List.cons_ne_nil _ _)
  | some v =>
    cases hread : read v with
    | ok x => exact fun _ ↦ ⟨x, by simp only [hread]⟩
    | error f => simp [Checked.SaysWhy, Checked.errors, hread]

theorem saysWhy_withDefault (other : α) : (withDefault record name read other).SaysWhy := by
  cases hfield : record.field? name with
  | none =>
    rw [withDefault, hfield]
    exact fun _ ↦ ⟨other, rfl⟩
  | some v =>
    rw [withDefault_eq_required hfield]
    exact saysWhy_required

/-- The one error of a field is that it is missing or that its value is refused. -/
theorem placed_of_mem_required {e : FieldError} (h : e ∈ (required record name read).errors) :
    e.place = [name] ∧ e.Shows record := by
  rw [required] at h
  cases hfield : record.field? name with
  | none =>
    rw [hfield] at h
    obtain rfl := List.mem_singleton.1 h
    exact ⟨rfl, .inr ⟨rfl, (record.at?_singleton name).trans hfield, rfl⟩⟩
  | some v =>
    cases hread : read v with
    | ok x => simp [Checked.errors, hfield, hread] at h
    | error f =>
      obtain rfl : e = ⟨[name], f, v⟩ := by simpa [Checked.errors, hfield, hread] using h
      exact ⟨rfl, .inl ((record.at?_singleton name).trans hfield)⟩

theorem placed_of_mem_withDefault {e : FieldError} {other : α}
    (h : e ∈ (withDefault record name read other).errors) :
    e.place = [name] ∧ e.Shows record := by
  cases hfield : record.field? name with
  | none => simp [withDefault, Checked.errors, hfield] at h
  | some v =>
    rw [withDefault_eq_required hfield] at h
    exact placed_of_mem_required h

theorem errors_inside (c : Checked α) :
    (inside name c).errors = c.errors.map fun e ↦ { e with place := name :: e.place } := by
  cases c <;> rfl

/-- What is told of a part is told of the whole, with the name of the part before each place. -/
theorem told_inside (es : List FieldError) :
    (es.map fun e ↦ { e with place := name :: e.place }).map FieldError.told =
      (es.map FieldError.told).map fun t ↦ (name :: t.1, t.2) := by
  rw [List.map_map, List.map_map]
  rfl

theorem complaints_inside (c : Checked α) :
    (inside name c).complaints = c.complaints.map fun t ↦ (name :: t.1, t.2) := by
  rw [Checked.complaints, errors_inside, told_inside, Checked.complaints]

theorem report_inside {c c' : Checked α} (h : c.report = c'.report) :
    (inside name c).report = (inside name c').report := by
  cases c <;> cases c' <;> simp_all [Checked.report, inside, Except.mapError, -List.map_map,
    told_inside]

theorem saysWhy_inside {c : Checked α} (h : c.SaysWhy) : (inside name c).SaysWhy := by
  intro hnil
  rw [errors_inside, List.map_eq_nil_iff] at hnil
  obtain ⟨x, rfl⟩ := h hnil
  exact ⟨x, rfl⟩

/-- An error of a part is one of the whole, with the name of the part before its place. -/
theorem shows_inside {part : Value} (hpart : record.field? name = some part) {e : FieldError}
    (h : e.Shows part) : FieldError.Shows { e with place := name :: e.place } record := by
  have hat (place : List String) : record.at? (name :: place) = part.at? place := by
    rw [Value.at?, hpart, Option.bind_some]
  rcases h with h | ⟨hflaw, hnone, hgiven⟩
  · exact .inl ((hat _).trans h)
  · have hne : e.place ≠ [] := by
      rintro hnil
      rw [hnil, Value.at?] at hnone
      cases hnone
    refine .inr ⟨hflaw, (hat _).trans hnone, ?_⟩
    rw [List.dropLast_cons_of_ne_nil hne]
    exact (hat _).trans hgiven

/-- The fields of a frozen record stay; an assignment to a field is refused. -/
theorem assign_of_frozen {settings : RecordSettings} (h : settings.frozen = true)
    (fields : List (String × Value)) (name : String) (v : Value) :
    assign settings fields name v =
      (fields,
        if name.toList.head? == some '_' then none else some ⟨[name], .frozen, v⟩) := by
  rw [assign, h]
  split <;> rfl

end Field

/-! ## Several fields -/

/-- Fields, each with what it reports: on itself, and depending on its own value alone. -/
structure AreFieldwise (parts : List (String × (Value → List FieldError))) : Prop where
  nodup : (parts.map Prod.fst).Nodup
  alone : ∀ p ∈ parts, ∀ record record' : Value, record.field? p.1 = record'.field? p.1 →
    (p.2 record).map FieldError.told = (p.2 record').map FieldError.told
  placed : ∀ p ∈ parts, ∀ record, ∀ e ∈ p.2 record,
    e.place.head? = some p.1 ∧ e.Shows record

namespace AreFieldwise

variable {parts : List (String × (Value → List FieldError))}
  {p : String × (Value → List FieldError)} {fields base : List (String × Value)}

/-- **A field reports the same where all others are valid**, and then nothing else is reported. -/
theorem told_graft (h : AreFieldwise parts) (hp : p ∈ parts)
    (hbase : parts.flatMap (·.2 (.record base)) = []) :
    (parts.flatMap (·.2 (.record (Value.graft p.1 fields base)))).map FieldError.told =
      (p.2 (.record fields)).map FieldError.told := by
  let grafted : Value := .record (Value.graft p.1 fields base)
  have hself : (p.2 grafted).map FieldError.told = (p.2 (.record fields)).map FieldError.told := by
    refine h.alone p hp _ _ ?_
    rw [Value.field?_graft, if_pos rfl]
  have hothers : ∀ q ∈ parts, q.1 ≠ p.1 → (q.2 grafted).map FieldError.told = [] := by
    intro q hq hne
    have hsame := h.alone q hq grafted (.record base) (by rw [Value.field?_graft, if_neg hne])
    rw [hsame, List.flatMap_eq_nil_iff.1 hbase q hq, List.map_nil]
  obtain ⟨before, after, rfl⟩ := List.append_of_mem hp
  have hnodup := h.nodup
  rw [List.map_append, List.map_cons, List.nodup_middle, List.nodup_cons] at hnodup
  -- no other field has the name of this one
  have hnil {q : String × (Value → List FieldError)} (hq : q ∈ before ++ after) :
      (q.2 grafted).map FieldError.told = [] := by
    refine hothers q ?_ fun heq ↦ ?_
    · simp only [List.mem_append, List.mem_cons] at hq ⊢
      tauto
    · rw [← List.map_append] at hnodup
      exact hnodup.1 (heq ▸ List.mem_map_of_mem hq)
  have hbefore : before.flatMap (fun q ↦ (q.2 grafted).map FieldError.told) = [] :=
    List.flatMap_eq_nil_iff.2 fun q hq ↦ hnil (List.mem_append_left _ hq)
  have hafter : after.flatMap (fun q ↦ (q.2 grafted).map FieldError.told) = [] :=
    List.flatMap_eq_nil_iff.2 fun q hq ↦ hnil (List.mem_append_right _ hq)
  rw [List.map_flatMap, List.flatMap_append, List.flatMap_cons, hbefore, hafter, hself,
    List.nil_append, List.append_nil]

/-- **What is told of a record is what each field tells**, one after the other. -/
theorem told_eq (h : AreFieldwise parts) (hbase : parts.flatMap (·.2 (.record base)) = [])
    (fields : List (String × Value)) :
    (parts.flatMap (·.2 (.record fields))).map FieldError.told =
      (parts.map Prod.fst).flatMap fun name ↦
        (parts.flatMap (·.2 (.record (Value.graft name fields base)))).map FieldError.told := by
  rw [List.flatMap_map, List.map_flatMap]
  exact List.flatMap_congr fun p hp ↦ (h.told_graft hp hbase).symm

end AreFieldwise

/-! ## The fields of a status -/

namespace Status

/-- The names of the fields, in their order. -/
def fieldNames : List String := ["code", "description"]

/-- What each field reports. -/
def fieldErrors : List (String × (Value → List FieldError)) :=
  [("code", fun v ↦ (Field.required v "code" Field.whole).errors),
    ("description", fun v ↦ (Field.required v "description" Field.text).errors)]

theorem areFieldwise_fieldErrors : AreFieldwise fieldErrors where
  nodup := by decide
  alone := by
    simp only [fieldErrors, List.forall_mem_cons]
    refine ⟨fun r r' h ↦ ?_, fun r r' h ↦ ?_, nofun⟩
    · exact Checked.complaints_of_report (Field.report_required h)
    · exact Checked.complaints_of_report (Field.report_required h)
  placed := by
    simp only [fieldErrors, List.forall_mem_cons]
    refine ⟨fun r e h ↦ ?_, fun r e h ↦ ?_, nofun⟩
    · obtain ⟨hplace, hshows⟩ := Field.placed_of_mem_required h
      exact ⟨congrArg List.head? hplace, hshows⟩
    · obtain ⟨hplace, hshows⟩ := Field.placed_of_mem_required h
      exact ⟨congrArg List.head? hplace, hshows⟩

theorem ofValue_eq (v : Value) :
    ofValue v = ((Field.required v "code" Field.whole).both
      (Field.required v "description" Field.text)).map fun p ↦ ⟨p.1, p.2⟩ := by
  rw [ofValue]
  cases (Field.required v "code" Field.whole).both (Field.required v "description" Field.text) <;>
    rfl

theorem errors_ofValue (v : Value) : (ofValue v).errors = fieldErrors.flatMap (·.2 v) := by
  rw [ofValue_eq, Checked.errors_map, Checked.errors_both]
  simp [fieldErrors]

theorem saysWhy_ofValue (v : Value) : (ofValue v).SaysWhy := by
  rw [ofValue_eq]
  exact (Field.saysWhy_required.both Field.saysWhy_required).map _

theorem report_ofValue {v v' : Value} (h : ∀ name ∈ fieldNames, v.field? name = v'.field? name) :
    (ofValue v).report = (ofValue v').report := by
  rw [ofValue_eq, ofValue_eq]
  exact Checked.report_map _ (Checked.report_both
    (Field.report_required (h "code" (by decide)))
    (Field.report_required (h "description" (by decide))))

end Status

/-! ## The fields of a configuration -/

namespace Config

/-- The names of the fields, in their order. -/
def fieldNames : List String :=
  ["port", "host", "backend_scheme", "backend_host", "error_status", "error_mod",
    "backend_timeout", "embedded"]

/-- What each field reports. -/
def fieldErrors : List (String × (Value → List FieldError)) :=
  [("port", fun v ↦
      (Field.required v "port" (Field.wholeWithin (some 0) (some maxPort))).errors),
    ("host", fun v ↦ (Field.withDefault v "host" Field.text defaultHost).errors),
    ("backend_scheme", fun v ↦
      (Field.withDefault v "backend_scheme" Field.text defaultScheme).errors),
    ("backend_host", fun v ↦ (Field.required v "backend_host" readBackendHost).errors),
    ("error_status", fun v ↦ (readStatus v).errors),
    ("error_mod", fun v ↦ (Field.required v "error_mod" readGate).errors),
    ("backend_timeout", fun v ↦ (Field.withDefault v "backend_timeout"
      (Field.orNull Field.real) (some defaultTimeout)).errors),
    ("embedded", fun v ↦ (Field.withDefault v "embedded" Field.bool false).errors)]

variable {record record' : Value}

theorem readStatus_of_record {fields : List (String × Value)}
    (h : record.field? "error_status" = some (.record fields)) :
    readStatus record = Field.inside "error_status" (Status.ofValue (.record fields)) := by
  rw [readStatus, h]

theorem report_readStatus (h : record.field? "error_status" = record'.field? "error_status") :
    (readStatus record).report = (readStatus record').report := by
  rw [readStatus, readStatus, h]
  rcases record'.field? "error_status" with _ | v
  · rfl
  · cases v <;> rfl

theorem saysWhy_readStatus (record : Value) : (readStatus record).SaysWhy := by
  rw [readStatus]
  rcases record.field? "error_status" with _ | v
  · exact fun h ↦ absurd h (List.cons_ne_nil _ _)
  · cases v with
    | record fields => exact Field.saysWhy_inside (Status.saysWhy_ofValue _)
    | _ => exact fun h ↦ absurd h (List.cons_ne_nil _ _)

theorem placed_of_mem_readStatus {e : FieldError} (h : e ∈ (readStatus record).errors) :
    e.place.head? = some "error_status" ∧ e.Shows record := by
  have hat := record.at?_singleton "error_status"
  rw [readStatus] at h
  rcases hfield : record.field? "error_status" with _ | v
  · rw [hfield] at h
    obtain rfl := List.mem_singleton.1 h
    exact ⟨rfl, .inr ⟨rfl, hat.trans hfield, rfl⟩⟩
  · rw [hfield] at h
    cases v with
    | record fields =>
      dsimp only at h
      rw [Field.errors_inside, Status.errors_ofValue] at h
      obtain ⟨inner, hinner, rfl⟩ := List.mem_map.1 h
      obtain ⟨p, hp, hmem⟩ := List.mem_flatMap.1 hinner
      exact ⟨rfl, Field.shows_inside hfield
        (Status.areFieldwise_fieldErrors.placed p hp _ inner hmem).2⟩
    | _ =>
      obtain rfl := List.mem_singleton.1 h
      exact ⟨rfl, .inl (hat.trans hfield)⟩

theorem areFieldwise_fieldErrors : AreFieldwise fieldErrors where
  nodup := by decide
  alone := by
    have hrequired {α : Type} (name : String) (read : Field.Reader α) (r r' : Value)
        (h : r.field? name = r'.field? name) :
        (Field.required r name read).complaints = (Field.required r' name read).complaints :=
      Checked.complaints_of_report (Field.report_required h)
    have hdefault {α : Type} (name : String) (read : Field.Reader α) (other : α) (r r' : Value)
        (h : r.field? name = r'.field? name) : (Field.withDefault r name read other).complaints =
          (Field.withDefault r' name read other).complaints := by
      rw [Field.withDefault_congr h]
    simp only [fieldErrors, List.forall_mem_cons]
    exact ⟨hrequired _ _, hdefault _ _ _, hdefault _ _ _, hrequired _ _,
      fun r r' h ↦ Checked.complaints_of_report (report_readStatus h), hrequired _ _,
      hdefault _ _ _, hdefault _ _ _, nofun⟩
  placed := by
    have hrequired {α : Type} (name : String) (read : Field.Reader α) (r : Value) (e : FieldError)
        (h : e ∈ (Field.required r name read).errors) :
        e.place.head? = some name ∧ e.Shows r := by
      obtain ⟨hplace, hshows⟩ := Field.placed_of_mem_required h
      exact ⟨congrArg List.head? hplace, hshows⟩
    have hdefault {α : Type} (name : String) (read : Field.Reader α) (other : α) (r : Value)
        (e : FieldError) (h : e ∈ (Field.withDefault r name read other).errors) :
        e.place.head? = some name ∧ e.Shows r := by
      obtain ⟨hplace, hshows⟩ := Field.placed_of_mem_withDefault h
      exact ⟨congrArg List.head? hplace, hshows⟩
    simp only [fieldErrors, List.forall_mem_cons]
    exact ⟨hrequired _ _, hdefault _ _ _, hdefault _ _ _, hrequired _ _,
      fun r e h ↦ placed_of_mem_readStatus h, hrequired _ _, hdefault _ _ _, hdefault _ _ _, nofun⟩

/-- All fields of a record, one after the other. -/
def readAll (record : Value) :
    Checked (Int × String × String × String × Status × Gate × Option Float × Bool) :=
  (Field.required record "port" (Field.wholeWithin (some 0) (some maxPort))).both
    ((Field.withDefault record "host" Field.text defaultHost).both
      ((Field.withDefault record "backend_scheme" Field.text defaultScheme).both
        ((Field.required record "backend_host" readBackendHost).both
          ((readStatus record).both
            ((Field.required record "error_mod" readGate).both
              ((Field.withDefault record "backend_timeout" (Field.orNull Field.real)
                (some defaultTimeout)).both
                  (Field.withDefault record "embedded" Field.bool false)))))))

theorem ofValue_eq (record : Value) :
    ofValue record = (readAll record).map fun p ↦
      { port := p.1, host := p.2.1, backendScheme := p.2.2.1, backendHost := p.2.2.2.1,
        errorStatus := p.2.2.2.2.1, gate := p.2.2.2.2.2.1, backendTimeout := p.2.2.2.2.2.2.1,
        embedded := p.2.2.2.2.2.2.2 } := by
  rw [readAll]
  unfold ofValue
  dsimp only
  generalize (Field.required record "port" _).both _ = a
  cases a <;> rfl

theorem errors_ofValue (record : Value) :
    (ofValue record).errors = fieldErrors.flatMap (·.2 record) := by
  rw [ofValue_eq, Checked.errors_map, readAll]
  simp [fieldErrors, Checked.errors_both]

theorem saysWhy_ofValue (record : Value) : (ofValue record).SaysWhy := by
  rw [ofValue_eq]
  exact (Field.saysWhy_required.both <| (Field.saysWhy_withDefault _).both <|
    (Field.saysWhy_withDefault _).both <| Field.saysWhy_required.both <|
    (saysWhy_readStatus record).both <| Field.saysWhy_required.both <|
    (Field.saysWhy_withDefault _).both (Field.saysWhy_withDefault _)).map _

/-- What is told of a record depends on what its fields are and on what is told of the status. -/
theorem report_ofValue
    (h : ∀ name ∈ fieldNames, name ≠ "error_status" → record.field? name = record'.field? name)
    (hstatus : (readStatus record).report = (readStatus record').report) :
    (ofValue record).report = (ofValue record').report := by
  have hdefault {α : Type} {name : String} (hname : name ∈ fieldNames)
      (hne : name ≠ "error_status") (read : Field.Reader α) (other : α) :
      (Field.withDefault record name read other).report =
        (Field.withDefault record' name read other).report := by
    rw [Field.withDefault_congr (h name hname hne)]
  have hrequired {α : Type} {name : String} (hname : name ∈ fieldNames)
      (hne : name ≠ "error_status") (read : Field.Reader α) :
      (Field.required record name read).report = (Field.required record' name read).report :=
    Field.report_required (h name hname hne)
  rw [ofValue_eq, ofValue_eq]
  refine Checked.report_map _ ?_
  exact Checked.report_both (hrequired (by decide) (by decide) _) <|
    Checked.report_both (hdefault (by decide) (by decide) _ _) <|
    Checked.report_both (hdefault (by decide) (by decide) _ _) <|
    Checked.report_both (hrequired (by decide) (by decide) _) <|
    Checked.report_both hstatus <|
    Checked.report_both (hrequired (by decide) (by decide) _) <|
    Checked.report_both (hdefault (by decide) (by decide) _ _)
      (hdefault (by decide) (by decide) _ _)

/-! ## Refused records -/

variable {fields base : List (String × Value)} {c : Config}

theorem flatMap_fieldErrors (h : ofValue (.record base) = .ok c) :
    fieldErrors.flatMap (·.2 (.record base)) = [] := by
  rw [← errors_ofValue, h]
  rfl

/-- What one field of a record tells is told of a record in which all others are valid. -/
theorem complaints_graft (h : ofValue (.record base) = .ok c)
    {p : String × (Value → List FieldError)} (hp : p ∈ fieldErrors)
    (fields : List (String × Value)) :
    (ofValue (.record (Value.graft p.1 fields base))).complaints =
      (p.2 (.record fields)).map FieldError.told := by
  rw [Checked.complaints, errors_ofValue]
  exact areFieldwise_fieldErrors.told_graft hp (flatMap_fieldErrors h)

theorem complaints_graft_status (h : ofValue (.record base) = .ok c)
    {part : List (String × Value)}
    (hpart : (Value.record fields).field? "error_status" = some (.record part)) :
    (ofValue (.record (Value.graft "error_status" fields base))).complaints =
      (Status.ofValue (.record part)).complaints.map fun t ↦ ("error_status" :: t.1, t.2) := by
  rw [complaints_graft (p := ("error_status", fun v ↦ (readStatus v).errors)) h
    (by simp [fieldErrors]), ← Field.complaints_inside, ← readStatus_of_record hpart]
  rfl

/-- A record with a status that is a record, in a record in which all other fields are valid. -/
theorem complaints_put_status (h : ofValue (.record base) = .ok c)
    (part : List (String × Value)) :
    (ofValue (.record (Value.put "error_status" (.record part) base))).complaints =
      (Status.ofValue (.record part)).complaints.map fun t ↦ ("error_status" :: t.1, t.2) :=
  complaints_graft_status h rfl

/-- Two records of which the same is told: the same configuration, or the same errors. -/
def TellSame (fields fields' : List (String × Value)) : Prop :=
  (ofValue (.record fields)).report = (ofValue (.record fields')).report

theorem tellSame_of_rearranges {fields' : List (String × Value)}
    (h : Value.Rearranges fieldNames fields fields') : TellSame fields fields' :=
  report_ofValue (fun _ hname _ ↦ h.field?_eq hname)
    (report_readStatus (h.field?_eq (by decide)))

theorem tellSame_of_status {part part' : List (String × Value)}
    (h : Value.Rearranges Status.fieldNames part part') (fields : List (String × Value)) :
    TellSame (Value.put "error_status" (.record part) fields)
      (Value.put "error_status" (.record part') fields) := by
  refine report_ofValue (fun name _ hne ↦ ?_) ?_
  · rw [Value.field?_put_of_ne hne, Value.field?_put_of_ne hne]
  · rw [readStatus_of_record (Value.field?_put _ _ _),
      readStatus_of_record (Value.field?_put _ _ _)]
    exact Field.report_inside (Status.report_ofValue fun _ hname ↦ h.field?_eq hname)

/-- What is told of a record is what each of its fields tells where all other fields are valid. -/
structure ReportsByField (fields : List (String × Value)) : Prop where
  accepted_iff : (∃ c, ofValue (.record fields) = .ok c) ↔
    (ofValue (.record fields)).complaints = []
  fieldwise : ∀ base c, ofValue (.record base) = .ok c →
    (ofValue (.record fields)).complaints = fieldNames.flatMap fun name ↦
      (ofValue (.record (Value.graft name fields base))).complaints
  /-- A status that is a record tells first of the code and then of the description. -/
  statuswise : ∀ base c part valid status, ofValue (.record base) = .ok c →
    (Value.record fields).field? "error_status" = some (.record part) →
    Status.ofValue (.record valid) = .ok status →
      (ofValue (.record (Value.graft "error_status" fields base))).complaints =
        Status.fieldNames.flatMap fun name ↦ (ofValue (.record (Value.put "error_status"
          (.record (Value.graft name part valid)) base))).complaints
  placed : ∀ base c, ofValue (.record base) = .ok c → ∀ name ∈ fieldNames,
    ∀ t ∈ (ofValue (.record (Value.graft name fields base))).complaints, t.1.head? = some name
  shown : ∀ e ∈ (ofValue (.record fields)).errors, e.Shows (.record fields)
  /-- The order of the fields does not matter, and neither do fields of other names, -/
  rearranged : ∀ fields', Value.Rearranges fieldNames fields fields' → TellSame fields fields'
  /-- and this is so inside the status. -/
  statusRearranged : ∀ part part', Value.Rearranges Status.fieldNames part part' →
    TellSame (Value.put "error_status" (.record part) fields)
      (Value.put "error_status" (.record part') fields)

theorem reportsByField (fields : List (String × Value)) : ReportsByField fields where
  accepted_iff := by
    rw [Checked.complaints, List.map_eq_nil_iff]
    refine ⟨fun ⟨c, h⟩ ↦ ?_, saysWhy_ofValue _⟩
    rw [h]
    rfl
  fieldwise := by
    intro base c h
    rw [Checked.complaints, errors_ofValue,
      areFieldwise_fieldErrors.told_eq (flatMap_fieldErrors h) fields]
    simp only [Checked.complaints, errors_ofValue]
    rfl
  statuswise := by
    intro base c part valid status h hpart hvalid
    have hnil : Status.fieldErrors.flatMap (·.2 (.record valid)) = [] := by
      rw [← Status.errors_ofValue, hvalid]
      rfl
    rw [complaints_graft_status h hpart]
    simp only [complaints_put_status h]
    rw [← List.map_flatMap, Checked.complaints, Status.errors_ofValue,
      Status.areFieldwise_fieldErrors.told_eq hnil part]
    simp only [Checked.complaints, Status.errors_ofValue]
    rfl
  placed := by
    intro base c h name hname t ht
    obtain ⟨p, hp, rfl⟩ := List.mem_map.1 (show name ∈ fieldErrors.map Prod.fst from hname)
    rw [complaints_graft h hp] at ht
    obtain ⟨e, he, rfl⟩ := List.mem_map.1 ht
    exact (areFieldwise_fieldErrors.placed p hp _ e he).1
  shown := by
    intro e he
    rw [errors_ofValue] at he
    obtain ⟨p, hp, he⟩ := List.mem_flatMap.1 he
    exact (areFieldwise_fieldErrors.placed p hp _ e he).2
  rearranged := fun _ h ↦ tellSame_of_rearranges h
  statusRearranged := fun _ _ h ↦ tellSame_of_status h fields

/-! ## Accepted records -/

/-- **A configuration is read again from its own values.** -/
theorem ofValue_toValue (hport : 0 ≤ c.port ∧ c.port ≤ maxPort)
    (hhost : c.backendHost.toList ≠ [] ∧ '/' ∉ c.backendHost.toList) :
    ofValue c.toValue = .ok c := by
  refine ofValue_eq_ok_iff.2 ⟨?_, rfl, rfl, ?_, rfl, ?_, ?_, rfl⟩
  · exact Field.required_eq_ok_iff.2 ⟨_, rfl, Field.wholeWithin_eq_ok_iff.2 ⟨rfl, hport⟩⟩
  · exact Field.required_eq_ok_iff.2 ⟨_, rfl, readBackendHost_eq_ok_iff.2 ⟨rfl, hhost⟩⟩
  · exact Field.required_eq_ok_iff.2 ⟨_, rfl, readGate_eq_ok_iff.2 rfl⟩
  · have hfield : c.toValue.field? "backend_timeout" =
        some ((c.backendTimeout.map Value.real).getD .null) := rfl
    rw [Field.withDefault, hfield]
    cases c.backendTimeout <;> rfl

/-- A configuration within the limits, which is read again from its own values and cannot be
changed. -/
structure IsSettled (c : Config) : Prop where
  port : 0 ≤ c.port ∧ c.port ≤ 65535
  modulus : 1 ≤ c.gate.modulus
  backendHost : c.backendHost.toList ≠ [] ∧ '/' ∉ c.backendHost.toList
  again : ofValue c.toValue = .ok c
  refused : ∀ name ∈ fieldNames, ∀ v, (c.assign name v).2 = some ⟨[name], .frozen, v⟩
  kept : ∀ name v, (c.assign name v).1 = c.fields ∧
    ofValue (.record (c.assign name v).1) = .ok c ∧
    (ofValue (.record (c.assign name v).1)).map backendRoot = .ok c.backendRoot

theorem isSettled_of_ofValue {record : Value} (h : ofValue record = .ok c) : c.IsSettled := by
  obtain ⟨hport, -⟩ := ofValue_eq_ok_iff.1 h
  obtain ⟨v, -, hread⟩ := Field.required_eq_ok_iff.1 hport
  obtain ⟨-, hlimits⟩ := Field.wholeWithin_eq_ok_iff.1 hread
  have hhost := backendHost_of_ofValue h
  have hfrozen : settings.frozen = true := rfl
  exact {
    port := hlimits
    modulus := c.gate.one_le_modulus
    backendHost := hhost
    again := ofValue_toValue hlimits hhost
    refused := by
      intro name hname v
      have hfield : (name.toList.head? == some '_') = false :=
        forall_of_all (p := fun n : String ↦ (n.toList.head? == some '_') = false) (by decide)
          name hname
      rw [assign, Field.assign_of_frozen hfrozen, hfield]
      rfl
    kept := by
      intro name v
      have hfields : (c.assign name v).1 = c.fields :=
        congrArg Prod.fst (Field.assign_of_frozen hfrozen c.fields name v)
      have hagain : ofValue (.record (c.assign name v).1) = .ok c :=
        hfields.symm ▸ ofValue_toValue hlimits hhost
      exact ⟨hfields, hagain, congrArg (Except.map backendRoot) hagain⟩ }

/-- **Validation goes field by field.**  A record that is accepted gives a configuration within the
limits, which is read again from its own values and refuses every assignment.  What is told of a
record that is refused is what each of its fields tells where all other fields are valid, in the
order of the fields. -/
theorem validated_field_by_field (fields : List (String × Value)) :
    (∀ c, ofValue (.record fields) = .ok c → c.IsSettled) ∧ ReportsByField fields :=
  ⟨fun _ ↦ isSettled_of_ofValue, reportsByField fields⟩

/-- Five flaws of fields in another order, with a field that nobody asks for. -/
theorem flaws_told_in_order :
    let fields : List (String × Value) :=
      [("error_mod", .whole 0), ("note", .null),
        ("error_status", .record [("description", .whole 1)]), ("port", .whole 70000)]
    let base : List (String × Value) :=
      [("port", .bool true), ("backend_host", .text "backend.test"), ("error_mod", .real 2.0),
        ("error_status", .record [("code", .whole 503), ("description", .text "")])]
    (∃ c, ofValue (.record base) = .ok c ∧ c.IsSettled) ∧
      (ofValue (.record fields)).complaints =
        [(["port"], .above 65535), (["backend_host"], .missing),
          (["error_status", "code"], .missing), (["error_status", "description"], .notText),
          (["error_mod"], .below 1)] ∧
      (ofValue (.record fields)).complaints = (fieldNames.flatMap fun name ↦
        (ofValue (.record (Value.graft name fields base))).complaints) ∧
      TellSame fields (fields.reverse.filter fun f ↦ f.1 != "note") := by
  intro fields base
  obtain ⟨c, hbase⟩ : ∃ c, ofValue (.record base) = .ok c := ⟨_, rfl⟩
  have hrearranged : Value.Rearranges fieldNames fields
      (fields.reverse.filter fun f ↦ f.1 != "note") :=
    ⟨by decide, (List.reverse_perm _).symm⟩
  obtain ⟨-, hreports⟩ := validated_field_by_field fields
  exact ⟨⟨c, hbase, (validated_field_by_field base).1 c hbase⟩, rfl,
    hreports.fieldwise base c hbase, hreports.rearranged _ hrearranged⟩

end Config
end InjectingProxy
