import InjectingProxy.Proofs.App.Counting
import InjectingProxy.Proofs.Gate
import InjectingProxy.Proofs.InjectedError
import InjectingProxy.Proofs.Relay

/-!
# The schedule of injected errors

In a run of plain requests, the first and then every `modulus`-th gets the injected error, whatever
the backend and the clients do in between (`run_onSchedule`).  All that is carried from one request
to the next and matters here is the count, and every plain request adds one to it, however it ends.

`OnSchedule` says what is true of a single request by its place in the run, and
`serve_onSchedule` that serving it makes this true.
-/

set_option autoImplicit false

namespace InjectingProxy

/-- The path begins with a slash and has no line break, and the query is ASCII. -/
structure Request.IsPlain (r : Request) : Prop where
  rooted : r.path.head? = some '/'
  unbroken : '\n' ∉ r.path
  ascii : ∀ b ∈ r.queryBytes, b.toNat < 0x80

theorem Request.IsPlain.reachesGate {r : Request} (h : r.IsPlain) : r.ReachesGate where
  unbroken := fun hmem ↦ h.unbroken (List.dropLast_subset _ hmem)
  queryText := ⟨_, Utf8.encode_charOfNat_of_ascii h.ascii⟩

/-- The exchange ends with the injected error of a status. -/
structure Exchange.IsInjected (x : Exchange) (s : Status) : Prop where
  recorded : x.recorded = [.errorInjected]
  response : ∃ reply, x.response = some (.reply reply) ∧ reply.messages = s.injectedMessages

/-- The client has received the end of a body. -/
def Exchange.IsFullySent (x : Exchange) : Prop := ∃ piece, Message.body piece false ∈ x.messages

namespace App

/-- What is true of the request that comes after `before` others. -/
structure OnSchedule (config : Config) (before : Nat) (c : Client) (served : Served) : Prop where
  asked : served.state.asked = before + 1
  injected_iff :
    served.exchange.IsInjected config.errorStatus ↔ (before : Int) % config.gate.modulus = 0
  untouched : served.exchange.IsInjected config.errorStatus →
    served.exchange.outbound = [] ∧ served.seenInFlight = []
  messages : served.exchange.IsInjected config.errorStatus →
    served.exchange.messages = c.received config.errorStatus.injectedMessages

/-! ## One request -/

section Serve

variable {a : App} {s : State} {r : Request} {ordinal : Int}

/-- A request that is picked asks nothing of the backend. -/
theorem serve_of_inject (w : Surroundings) (h : a.receive s.asked r = .counted ordinal true) :
    (a.serve s r w).exchange.recorded = [.errorInjected] ∧
      (a.serve s r w).exchange.outbound = [] ∧ (a.serve s r w).seenInFlight = [] := by
  have heq := handle_of_counted (s := s.enter) w.backend h
  refine ⟨by rw [serve_recorded, heq]; rfl, by rw [serve_outbound, heq]; rfl, ?_⟩
  rw [serve_seenInFlight, heq]
  rfl

/-- If its injected error can be made, this is what the client gets a first part of. -/
theorem serve_inject_messages (w : Surroundings) {reply : Reply}
    (h : a.receive s.asked r = .counted ordinal true)
    (hr : Reply.injected a.config.errorStatus = .ok reply) :
    (a.serve s r w).exchange.response = some (.reply reply) ∧
      (a.serve s r w).exchange.messages = w.client.received reply.messages := by
  have hresult : (a.handle s.enter r w.backend).1.result = .ok (.reply reply) := by
    rw [handle_of_counted (s := s.enter) w.backend h, if_pos rfl]
    show ((Reply.injected a.config.errorStatus).map Response.reply).mapError _ = _
    rw [hr]
    rfl
  exact ⟨by rw [serve_response, hresult]; rfl, answer_messages_reply w hresult⟩

theorem serve_of_forward (w : Surroundings) (h : a.receive s.asked r = .counted ordinal false) :
    .errorInjected ∉ (a.serve s r w).exchange.recorded := by
  rw [serve_recorded, handle_of_counted (s := s.enter) w.backend h]
  exact Relay.handle_not_injected _ _ _ _ _ _

end Serve

variable {config : Config} {code : Int}

/-- **A plain request keeps to the schedule**, in every state in which so many were counted. -/
theorem serve_onSchedule (hcode : Status.resolve code = .ok config.errorStatus) (owns : Bool)
    (passed : Cookie.Keeping) {s : State} {before : Nat} (hs : s.asked = before)
    {r : Request} (hr : r.IsPlain) (w : Surroundings) :
    OnSchedule config before w.client
      (App.serve { ofConfig config with ownsBackend := owns, passed } s r w) := by
  let a : App := { ofConfig config with ownsBackend := owns, passed }
  have hreceive : a.receive s.asked r =
      .counted (before + 1) (config.gate.injects (before + 1)) := by
    rw [← hs]
    exact receive_of_reachesGate s.asked hr.rooted hr.reachesGate
  have hasked : (a.serve s r w).state.asked = before + 1 := by
    rw [serve_asked]
    exact handle_asked_of_counted (s := s.enter) w.backend hreceive
  obtain ⟨reply, hreply, hmessages⟩ := Reply.injected_of_resolve hcode
  cases hinjects : config.gate.injects (before + 1) with
  | true =>
    rw [hinjects] at hreceive
    obtain ⟨hrecorded, houtbound, hseen⟩ := serve_of_inject w hreceive
    obtain ⟨hresponse, hsent⟩ := serve_inject_messages w hreceive hreply
    have hinjected : (a.serve s r w).exchange.IsInjected config.errorStatus :=
      ⟨hrecorded, reply, hresponse, hmessages⟩
    exact {
      asked := hasked
      injected_iff := ⟨fun _ ↦ (config.gate.injects_add_one_iff before).1 hinjects,
        fun _ ↦ hinjected⟩
      untouched := fun _ ↦ ⟨houtbound, hseen⟩
      messages := fun _ ↦ hmessages ▸ hsent }
  | false =>
    rw [hinjects] at hreceive
    have hnot : ¬ (a.serve s r w).exchange.IsInjected config.errorStatus :=
      fun h ↦ serve_of_forward w hreceive (h.recorded ▸ List.mem_singleton_self _)
    have hturn : ¬ (before : Int) % config.gate.modulus = 0 := by
      rw [← config.gate.injects_add_one_iff, hinjects]
      exact Bool.false_ne_true
    exact {
      asked := hasked
      injected_iff := ⟨fun h ↦ absurd h hnot, fun h ↦ absurd h hturn⟩
      untouched := fun h ↦ absurd h hnot
      messages := fun h ↦ absurd h hnot }

/-- Two injected errors of which all was sent are the same, message by message. -/
theorem OnSchedule.messages_eq {before : Nat} {c : Client} {served : Served}
    (h : OnSchedule config before c served)
    (hcode : Status.resolve code = .ok config.errorStatus)
    (hi : served.exchange.IsInjected config.errorStatus) (hsent : served.exchange.IsFullySent) :
    served.exchange.messages = config.errorStatus.injectedMessages := by
  obtain ⟨reply, -, hreply⟩ := Reply.injected_of_resolve hcode
  obtain ⟨piece, hpiece⟩ := hsent
  rw [h.messages hi, ← hreply] at hpiece
  rw [h.messages hi, ← hreply, Reply.messages_eq_of_body_mem hpiece]

/-! ## Runs -/

theorem length_run (a : App) (requests : List (Request × Surroundings)) :
    ∀ s : State, (a.run s requests).length = requests.length := by
  induction requests with
  | nil => exact fun _ ↦ rfl
  | cons request requests ih =>
    exact fun s ↦ congrArg (· + 1) (ih _)

/-- The run lemma, from any state in which so many requests were counted. -/
theorem run_onSchedule_from (hcode : Status.resolve code = .ok config.errorStatus) (owns : Bool)
    (passed : Cookie.Keeping) (requests : List (Request × Surroundings)) :
    ∀ {s : State} {before : Nat}, s.asked = before → (∀ p ∈ requests, p.1.IsPlain) →
    ∀ (i : Nat) (r : Request) (w : Surroundings) (served : Served),
      requests[i]? = some (r, w) →
      (App.run { ofConfig config with ownsBackend := owns, passed } s requests)[i]? = some served →
      OnSchedule config (before + i) w.client served := by
  induction requests with
  | nil => exact fun _ _ i r w served h ↦ nomatch h
  | cons request requests ih =>
    intro s before hs hplain i r w served hrequest hserved
    have hstep := serve_onSchedule hcode owns passed hs (hplain _ List.mem_cons_self) request.2
    cases i with
    | zero =>
      cases hrequest
      cases hserved
      exact hstep
    | succ i =>
      have := @ih _ (before + 1) (by rw [hstep.asked]; rfl)
        (fun p hp ↦ hplain p (List.mem_cons_of_mem _ hp)) i r w served hrequest hserved
      rwa [Nat.add_assoc, Nat.add_comm 1 i] at this

/-- **The error schedule of a run.**  Every request of a run of plain requests is on schedule, and
all injected errors that are sent as a whole are the same, message by message. -/
theorem run_onSchedule (hcode : Status.resolve code = .ok config.errorStatus) (owns : Bool)
    (passed : Cookie.Keeping) (requests : List (Request × Surroundings))
    (hplain : ∀ p ∈ requests, p.1.IsPlain) :
    let run := App.run { ofConfig config with ownsBackend := owns, passed } .initial requests
    run.length = requests.length ∧
      (∀ (i : Nat) (r : Request) (w : Surroundings) (served : Served),
        requests[i]? = some (r, w) → run[i]? = some served →
        OnSchedule config i w.client served) ∧
      ∀ served ∈ run, ∀ served' ∈ run,
        served.exchange.IsInjected config.errorStatus → served.exchange.IsFullySent →
        served'.exchange.IsInjected config.errorStatus → served'.exchange.IsFullySent →
        served.exchange.messages = config.errorStatus.injectedMessages ∧
          served'.exchange.messages = served.exchange.messages := by
  intro run
  have hlength : run.length = requests.length := length_run _ _ _
  have hschedule : ∀ (i : Nat) (r : Request) (w : Surroundings) (served : Served),
      requests[i]? = some (r, w) → run[i]? = some served →
      OnSchedule config i w.client served := by
    intro i r w served hrequest hserved
    have := run_onSchedule_from hcode owns passed requests rfl hplain i r w served hrequest hserved
    rwa [Nat.zero_add] at this
  have hmessages : ∀ served ∈ run, served.exchange.IsInjected config.errorStatus →
      served.exchange.IsFullySent →
      served.exchange.messages = config.errorStatus.injectedMessages := by
    intro served hmem hi hsent
    obtain ⟨i, hi', hserved⟩ := List.mem_iff_getElem.1 hmem
    have hrequest := List.getElem?_eq_getElem (hlength ▸ hi')
    exact (hschedule i _ _ served hrequest (by rw [List.getElem?_eq_getElem hi', hserved])
      ).messages_eq hcode hi hsent
  refine ⟨hlength, hschedule, fun served h served' h' hi hsent hi' hsent' ↦ ?_⟩
  rw [hmessages served h hi hsent, hmessages served' h' hi' hsent']
  exact ⟨rfl, rfl⟩

/-- Requests with a client that goes away and a backend that fails leave the third one where it is
on the schedule: it gets the injected error. -/
theorem third_request_injected :
    let gone : Surroundings := { Surroundings.calm with client := ⟨some 0, none⟩ }
    let broken : Surroundings := { Surroundings.calm with backend := .fails (.system "broken") }
    let requests : List (Request × Surroundings) :=
      [(⟨"GET", word "/a", []⟩, gone), (⟨"PUT", word "/b?x=%FF", []⟩, broken),
        (⟨"GET", word "/c", []⟩, .calm)]
    (∀ p ∈ requests, p.1.IsPlain) ∧
      ∃ served, (alternating.run .initial requests)[2]? = some served ∧
        served.state.asked = 3 ∧ served.exchange.IsInjected ⟨503, "Internal server error"⟩ := by
  intro gone broken requests
  have hplain : ∀ p ∈ requests, p.1.IsPlain := by
    intro p hp
    simp only [requests, List.mem_cons, List.not_mem_nil, or_false] at hp
    rcases hp with rfl | rfl | rfl
    · exact ⟨by decide, by decide, forall_of_all (by decide)⟩
    · exact ⟨by decide, by decide, forall_of_all (by decide)⟩
    · exact ⟨by decide, by decide, forall_of_all (by decide)⟩
  obtain ⟨hlength, hschedule, -⟩ :=
    @run_onSchedule alternating.config 503 rfl false alternating.passed requests hplain
  have hthree : (alternating.run .initial requests).length = 3 := hlength
  have hlt : 2 < (alternating.run .initial requests).length := by omega
  have hserved := List.getElem?_eq_getElem hlt
  have hthird := hschedule 2 _ _ _ rfl hserved
  exact ⟨hplain, _, hserved, hthird.asked, hthird.injected_iff.2 rfl⟩

end App
end InjectingProxy
