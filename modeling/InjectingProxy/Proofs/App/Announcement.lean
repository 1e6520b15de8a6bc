import InjectingProxy.Proofs.App.Counting
import InjectingProxy.Proofs.App.Follow
import InjectingProxy.Proofs.App.Isolation
import InjectingProxy.Proofs.InjectedError
import InjectingProxy.Proofs.Relay

/-!
# What is recorded as injected, and what is sent

An injected error is recorded before its response is made.  The response holds the description of
the configured status in a header, which has one byte for each character, so it can be made exactly
if all characters of the description are below 256 (`Status.FitsHeader`).  Then a client that takes
everything gets the configured code and description; otherwise it is told that something has gone
wrong, and a fault comes out, although an injected error has been recorded
(`App.announced_iff_fitsHeader`).

A configuration may have any status at all (`Config.exists_ofValue`), so that the condition is not
one that a check of the configuration ensures.  Statuses that are resolved from a code meet it.
-/

set_option autoImplicit false

namespace InjectingProxy

/-! ## Descriptions that fit into a header -/

/-- Each character of the description has a byte of its own. -/
def Status.FitsHeader (s : Status) : Prop := ∀ c ∈ s.description.toList, c.toNat < 256

theorem Status.fitsHeader_of_resolve {code : Int} {s : Status} (h : resolve code = .ok s) :
    s.FitsHeader :=
  fun c hc ↦ Nat.lt_trans (resolve_ascii h c hc) (by decide)

theorem Charset.encode_eq_ok_iff {s : Charset} {t : Text} {bs : Bytes} :
    s.encode t = .ok bs ↔
      (∀ c ∈ t, c.toNat < s.size) ∧ bs = t.map fun c ↦ UInt8.ofNat c.toNat := by
  have hall : t.all s.fits = true ↔ ∀ c ∈ t, c.toNat < s.size := by
    simp only [List.all_eq_true, fits, decide_eq_true_eq]
  rw [encode, ← hall]
  split
  · rename_i h
    rw [Except.ok.injEq, and_iff_right h, eq_comm]
  · rename_i h
    exact ⟨fun h' ↦ (by cases h'), fun h' ↦ absurd h'.1 h⟩

/-- Bytes of characters are read as these characters. -/
theorem Latin.decode_map {t : Text} (h : ∀ c ∈ t, c.toNat < 256) :
    decode (t.map fun c ↦ UInt8.ofNat c.toNat) = t := by
  rw [decode, List.map_map]
  refine (List.map_congr_left fun c hc ↦ ?_).trans (List.map_id t)
  rw [Function.comp_apply, UInt8.toNat_ofNat_of_lt' (h c hc), Char.ofNat_toNat, id]

/-! ## Announcements -/

/-- The headers hold one description, and it is the one of the status. -/
def Status.IsAnnounced (s : Status) (headers : List Header) : Prop :=
  ∃ value, headers.filter (fun h ↦ h.1 == word "x-status-description") =
    [(word "x-status-description", value)] ∧ Latin.decode value = s.description.toList

/-- The client is sent the code and the description of the status, and no fault comes out. -/
structure Exchange.Announces (x : Exchange) (s : Status) : Prop where
  raised : x.raised = none
  start : ∃ headers rest, x.messages = .start s.code headers :: rest ∧ s.IsAnnounced headers

/-- What is true of an exchange for which an injected error of a status has been recorded: the
status is announced if it can be, and otherwise a fault comes out and the client is told so. -/
structure Exchange.TellsInjection (x : Exchange) (s : Status) : Prop where
  announces_iff : x.Announces s ↔ s.FitsHeader
  fails : ¬ s.FitsHeader →
    (∃ f, x.raised = some (.characters f)) ∧ x.messages = Reply.internalError.messages

theorem Exchange.TellsInjection.tell {x : Exchange} {s : Status} (h : x.TellsInjection s)
    (events : List Event) : { x with events }.TellsInjection s := by
  refine ⟨⟨fun ha ↦ h.announces_iff.1 ⟨ha.raised, ha.start⟩, fun hfits ↦ ?_⟩, h.fails⟩
  have ha := h.announces_iff.2 hfits
  exact ⟨ha.raised, ha.start⟩

namespace Reply

theorem injected_of_fitsHeader {s : Status} (h : s.FitsHeader) :
    ∃ r, injected s = .ok r ∧ r.status = s.code ∧ s.IsAnnounced r.headers := by
  have hencode : Charset.latin.encode s.description.toList = .ok _ :=
    Charset.encode_eq_ok_iff.2 ⟨h, rfl⟩
  rw [injected, hencode]
  dsimp only
  split
  · exact ⟨_, rfl, rfl, _, rfl, Latin.decode_map h⟩
  · refine ⟨_, rfl, rfl, _, ?_, Latin.decode_map h⟩
    rw [lengthHeader]
    split <;> rfl

theorem injected_of_not_fitsHeader {s : Status} (h : ¬ s.FitsHeader) :
    ∃ f, injected s = .error f := by
  rw [injected]
  cases hencode : Charset.latin.encode s.description.toList with
  | error f => exact ⟨f, rfl⟩
  | ok bs => exact absurd (Charset.encode_eq_ok_iff.1 hencode).1 h

end Reply

/-! ## The application -/

namespace App

variable {a : App}

/-- If a handling has the result of an injected error, its status is announced if it can be. -/
theorem answer_tellsInjection {h : Handling} (hr : h.result = a.inject.result) {w : Surroundings}
    (hw : w.client.failsAfter = none) : (answer h w).TellsInjection a.config.errorStatus := by
  rw [inject] at hr
  by_cases hfits : a.config.errorStatus.FitsHeader
  · obtain ⟨r, hreply, hcode, hannounced⟩ := Reply.injected_of_fitsHeader hfits
    rw [hreply] at hr
    refine ⟨iff_of_true ⟨?_, r.headers, [.body r.body false], ?_, hannounced⟩ hfits,
      fun hnot ↦ absurd hfits hnot⟩
    · rw [answer_raised_reply w hr, Script.deliver_of_takes hw]
      rfl
    · rw [answer_messages_reply w hr, Client.received, hw, ← hcode]
      rfl
  · obtain ⟨f, hfault⟩ := Reply.injected_of_not_fitsHeader hfits
    rw [hfault] at hr
    have hraised : (answer h w).raised = some (.characters f) := by
      rw [answer_raised_fault w hr, Script.deliver_of_takes hw]
      rfl
    refine ⟨iff_of_false (fun h ↦ ?_) hfits, fun _ ↦ ⟨⟨f, hraised⟩, ?_⟩⟩
    · cases h.raised.symm.trans hraised
    · rw [answer_messages_fault w hr, Client.received, hw]

/-- An injected error is recorded only where one is made. -/
theorem handle_result_of_injected {s : State} {r : Request} {b : Backend}
    (h : .errorInjected ∈ (a.handle s r b).1.recorded) :
    (a.handle s r b).1.result = a.inject.result := by
  cases hreceive : a.receive s.asked r with
  | aside result =>
    rw [handle_of_aside b hreceive] at h
    cases h
  | counted ordinal inject =>
    rw [handle_of_counted b hreceive] at h ⊢
    cases inject with
    | true => rfl
    | false => exact absurd h (Relay.handle_not_injected _ _ _ _ _ _)

theorem serve_tellsInjection {s : State} {r : Request} {w : Surroundings}
    (hw : w.client.failsAfter = none)
    (h : .errorInjected ∈ (a.serve s r w).exchange.recorded) :
    (a.serve s r w).exchange.TellsInjection a.config.errorStatus :=
  (answer_tellsInjection (handle_result_of_injected (serve_recorded w a s r ▸ h)) hw).tell _

end App

/-! ## Requests at the same time -/

/-- A task for which an injected error is recorded sends the one of the status, if its client takes
everything. -/
def Task.TellsInjection (a : App) (t : Task) : Prop :=
  match t.stage with
  | .handled _ h => .errorInjected ∈ h.recorded → h.result = a.inject.result
  | .answered _ x | .over x =>
    t.around.client.failsAfter = none → .errorInjected ∈ x.recorded →
      x.TellsInjection a.config.errorStatus
  | _ => True

namespace App

/-- Each step of a task keeps this, whatever the other tasks have done before it. -/
theorem step_tellsInjection (a : App) (s : State) {t : Task} (h : t.TellsInjection a) :
    (a.step s t).2.TellsInjection a := by
  obtain ⟨r, w, stage, counted, seen⟩ := t
  cases stage with
  | arrived => trivial
  | measured began =>
    rw [step]
    cases hreceive : a.receive s.asked r with
    | aside result => exact fun hrecorded ↦ absurd hrecorded List.not_mem_nil
    | counted ordinal inject =>
      cases inject with
      | true => exact fun _ ↦ rfl
      | false => trivial
  | admitted began told =>
    exact fun hrecorded ↦ absurd hrecorded (Relay.handle_not_injected _ _ _ _ _ _)
  | handled began handled =>
    intro hw hrecorded
    exact answer_tellsInjection (h (answer_recorded handled w ▸ hrecorded)) hw
  | answered began x => exact fun hw hrecorded ↦ (h hw hrecorded).tell _
  | «over» x => exact h

end App

/-! ## Main statement -/

/-- A configuration may have any status. -/
theorem Config.exists_ofValue (status : Status) :
    ∃ record config, Config.ofValue record = .ok config ∧ config.errorStatus = status :=
  ⟨.record [("port", .whole 0), ("backend_host", .text "backend.test"),
    ("error_status", status.toValue), ("error_mod", .whole 1)], _, rfl, rfl⟩

namespace App

/-- **An injected error that is recorded is announced exactly if its description fits into a
header.**  This is so in every application and from every state, for each request whose client takes
everything, one after the other and at the same time.  Every status passes the check of the
configuration, and those that are resolved from a code fit. -/
theorem announced_iff_fitsHeader (a : App) (s : State)
    (requests : List (Request × Surroundings)) :
    (∀ (i : Nat) (r : Request) (w : Surroundings) (served : Served),
      requests[i]? = some (r, w) → (a.run s requests)[i]? = some served →
        w.client.failsAfter = none → .errorInjected ∈ served.exchange.recorded →
          served.exchange.TellsInjection a.config.errorStatus) ∧
      (∀ (schedule : List Nat) (t : Task) (x : Exchange),
        t ∈ (a.follow (s, requests.map fun p ↦ Task.arriving p.1 p.2) schedule).2 →
          t.exchange? = some x → t.around.client.failsAfter = none →
            .errorInjected ∈ x.recorded → x.TellsInjection a.config.errorStatus) ∧
      (∀ status, ∃ record config, Config.ofValue record = .ok config ∧
        config.errorStatus = status) ∧
      ∀ code status, Status.resolve code = .ok status → status.FitsHeader := by
  refine ⟨?_, ?_, Config.exists_ofValue, fun code status ↦ Status.fitsHeader_of_resolve⟩
  · intro i r w served hrequest hserved hw hrecorded
    rw [getElem?_run, hrequest] at hserved
    cases hserved
    exact serve_tellsInjection hw hrecorded
  · intro schedule t x ht hx hw hrecorded
    have htells := follow_arriving (I := fun _ ↦ True) (fun _ _ _ _ ↦ trivial)
      (fun s t _ h ↦ step_tellsInjection a s h) (fun _ _ ↦ trivial) trivial requests schedule t ht
    rw [Task.TellsInjection, Task.exchange?_eq_some_iff.1 hx] at htells
    exact htells hw hrecorded

/-- An application that injects a status of its own into every second request. -/
def withStatus (status : Status) : App :=
  .ofConfig { alternating.config with errorStatus := status }

/-- An accent in the description is announced, with a code that no standard names. -/
theorem accented_description_announced :
    let status : Status := ⟨-7, "défaut"⟩
    let r : Request := ⟨"GET", word "/a", []⟩
    ∃ served, ((withStatus status).run .initial [(r, .calm)])[0]? = some served ∧
      served.exchange.recorded = [.errorInjected] ∧ status.FitsHeader ∧
      served.exchange.Announces status := by
  have hfits : Status.FitsHeader ⟨-7, "défaut"⟩ := forall_of_all (by decide)
  have hrecorded : ((withStatus ⟨-7, "défaut"⟩).serve .initial ⟨"GET", word "/a", []⟩
      .calm).exchange.recorded = [.errorInjected] := rfl
  have htells := (announced_iff_fitsHeader (withStatus ⟨-7, "défaut"⟩) .initial
    [(⟨"GET", word "/a", []⟩, .calm)]).1 0 _ _ _ rfl rfl rfl
      (hrecorded ▸ List.mem_singleton_self _)
  exact ⟨_, rfl, hrecorded, hfits, htells.announces_iff.2 hfits⟩

/-- **A description that does not fit into a header is recorded and not sent**: the configuration is
accepted, the injected error is recorded, and the client gets the page for a fault, which comes out
of the application. -/
theorem wide_description_not_announced :
    ∃ record config, Config.ofValue record = .ok config ∧
      config.errorStatus = ⟨503, "prix: 5 €"⟩ ∧
      ∃ served, (App.ofConfig config).run .initial [(⟨"GET", word "/a", []⟩, .calm)] = [served] ∧
        served.exchange.recorded = [.errorInjected] ∧
        served.exchange.raised = some (.characters ⟨.latin, 8, ['€']⟩) ∧
        served.exchange.messages = Reply.internalError.messages := by
  refine ⟨.record [("port", .whole 0), ("backend_host", .text "backend.test"),
    ("error_status", Status.toValue ⟨503, "prix: 5 €"⟩), ("error_mod", .whole 2)], _, rfl, rfl, _,
    rfl, ?_⟩
  decide

end App
end InjectingProxy
