import InjectingProxy.App.Basic
import InjectingProxy.Proofs.Delivery

/-!
# What serving a request keeps of its handling

A request is first handled and then answered.  The answer decides which messages arrive and what
comes out in the end, but response, outcomes and requests to the backend are those of the handling
(`serve_response`, `serve_recorded`, `serve_outbound`), and so is the count of requests
(`serve_asked`).  The theorems about single requests and about runs speak of these only.

A reply does not listen for its client, so its messages are a first part of those of the reply
(`answer_messages_reply`); a fault before any response is told in the same way
(`answer_messages_fault`).
-/

set_option autoImplicit false

namespace InjectingProxy

namespace Handling

variable (h : Handling) (c : Client) (version : List Nat)

theorem respond_response : (h.respond c version).response = h.result.toOption := by
  rw [respond]
  split <;> rename_i hr <;> rw [hr] <;> rfl

theorem respond_recorded : (h.respond c version).recorded = h.recorded := by
  rw [respond]
  split <;> rfl

theorem respond_outbound : (h.respond c version).outbound = h.outbound := by
  rw [respond]
  split <;> rfl

theorem respond_messages_reply {r : Reply} (hr : h.result = .ok (.reply r)) :
    (h.respond c version).messages = c.received r.messages := by
  rw [respond, hr]
  exact Script.deliver_messages c r.script

theorem respond_fault {f : Fault} (hr : h.result = .error f) :
    (h.respond c version).raised = some f ∧ (h.respond c version).messages = [] := by
  rw [respond, hr]
  exact ⟨rfl, rfl⟩

/-- Where no response listens for its client, it makes no difference that the client goes away. -/
theorem respond_staying {version : List Nat} (hunheard : Response.listens version = false) :
    h.respond c.staying version = h.respond c version := by
  rw [respond, respond]
  cases h.result with
  | error f => rfl
  | ok response =>
    cases response with
    | reply r =>
      dsimp only
      rw [Script.deliver_staying]
    | relayed a =>
      dsimp only
      rw [hunheard, Script.deliver_staying]

end Handling

namespace Exchange

variable (x : Exchange) (c : Client)

theorem recover_response : (x.recover c).response = x.response := by
  rw [recover]
  split <;> rfl

theorem recover_recorded : (x.recover c).recorded = x.recorded := by
  rw [recover]
  split <;> rfl

theorem recover_outbound : (x.recover c).outbound = x.outbound := by
  rw [recover]
  split <;> rfl

/-- Once there is a response, nothing is added to it. -/
theorem recover_of_response {x : Exchange} {r : Response} (h : x.response = some r) :
    x.recover c = x := by
  rw [recover, h]

/-- A fault before any response comes out, unless telling of it fails. -/
theorem recover_raised {x : Exchange} {f : Fault} (h : x.response = none)
    (hf : x.raised = some f) :
    (x.recover c).raised =
      some (((Reply.internalError.script.deliver c false).ending.fault?).getD f) := by
  rw [recover, h, hf]

theorem recover_messages {x : Exchange} {f : Fault} (h : x.response = none)
    (hf : x.raised = some f) :
    (x.recover c).messages = x.messages ++ c.received Reply.internalError.messages := by
  rw [recover, h, hf]
  exact congrArg (x.messages ++ ·) (Script.deliver_messages c _)

theorem recover_staying : x.recover c.staying = x.recover c := by
  rw [recover, recover, Script.deliver_staying]

end Exchange

namespace App

/-! ## Answering -/

variable (h : Handling) (w : Surroundings)

theorem answer_response : (answer h w).response = h.result.toOption := by
  rw [answer, Exchange.recover_response, Handling.respond_response]

theorem answer_recorded : (answer h w).recorded = h.recorded := by
  rw [answer, Exchange.recover_recorded, Handling.respond_recorded]

theorem answer_outbound : (answer h w).outbound = h.outbound := by
  rw [answer, Exchange.recover_outbound, Handling.respond_outbound]

/-- Of a reply, a client receives a first part. -/
theorem answer_messages_reply {h : Handling} {r : Reply} (hr : h.result = .ok (.reply r)) :
    (answer h w).messages = w.client.received r.messages := by
  have hresponse : (h.respond w.client w.version).response = some (.reply r) := by
    rw [Handling.respond_response, hr]
    rfl
  rw [answer, Exchange.recover_of_response _ hresponse, Handling.respond_messages_reply _ _ _ hr]

/-- Of an answer, a client receives what is delivered of its script. -/
theorem answer_messages_relayed {h : Handling} {given : Answer}
    (hr : h.result = .ok (.relayed given)) :
    (answer h w).messages =
      (given.script.deliver w.client (Response.listens w.version)).messages := by
  have hresponse : (h.respond w.client w.version).response = some (.relayed given) := by
    rw [Handling.respond_response, hr]
    rfl
  rw [answer, Exchange.recover_of_response _ hresponse, Handling.respond, hr]

/-- Of a fault before any response, a client is told that something has gone wrong. -/
theorem answer_messages_fault {h : Handling} {f : Fault} (hf : h.result = .error f) :
    (answer h w).messages = w.client.received Reply.internalError.messages := by
  have hresponse : (h.respond w.client w.version).response = none := by
    rw [Handling.respond_response, hf]
    rfl
  obtain ⟨hraised, hmessages⟩ := h.respond_fault w.client w.version hf
  rw [answer, Exchange.recover_messages _ hresponse hraised, hmessages, List.nil_append]

theorem answer_raised_reply {h : Handling} {r : Reply} (hr : h.result = .ok (.reply r)) :
    (answer h w).raised = (r.script.deliver w.client false).ending.fault? := by
  have hresponse : (h.respond w.client w.version).response = some (.reply r) := by
    rw [Handling.respond_response, hr]
    rfl
  rw [answer, Exchange.recover_of_response _ hresponse, Handling.respond, hr]

theorem answer_raised_fault {h : Handling} {f : Fault} (hf : h.result = .error f) :
    (answer h w).raised =
      some (((Reply.internalError.script.deliver w.client false).ending.fault?).getD f) := by
  have hresponse : (h.respond w.client w.version).response = none := by
    rw [Handling.respond_response, hf]
    rfl
  exact Exchange.recover_raised _ hresponse (h.respond_fault w.client w.version hf).1

theorem answer_staying (hunheard : Response.listens w.version = false) :
    answer h { w with client := w.client.staying } = answer h w := by
  rw [answer, answer, Exchange.recover_staying, Handling.respond_staying _ _ hunheard]

/-! ## Serving -/

variable (a : App) (s : State) (r : Request)

/-- Where no response listens for its client, a client that goes away is served like one that
stays. -/
theorem serve_staying (hunheard : Response.listens w.version = false) :
    a.serve s r { w with client := w.client.staying } = a.serve s r w := by
  simp only [serve, answer_staying _ w hunheard]

theorem serve_response :
    (a.serve s r w).exchange.response = (a.handle s.enter r w.backend).1.result.toOption :=
  answer_response _ w

theorem serve_recorded :
    (a.serve s r w).exchange.recorded = (a.handle s.enter r w.backend).1.recorded :=
  answer_recorded _ w

theorem serve_outbound :
    (a.serve s r w).exchange.outbound = (a.handle s.enter r w.backend).1.outbound :=
  answer_outbound _ w

theorem serve_messages :
    (a.serve s r w).exchange.messages = (answer (a.handle s.enter r w.backend).1 w).messages :=
  rfl

theorem serve_seenInFlight :
    (a.serve s r w).seenInFlight = s.enter.seenBy (a.handle s.enter r w.backend).1 :=
  rfl

theorem serve_asked : (a.serve s r w).state.asked = (a.handle s.enter r w.backend).2 :=
  rfl

/-! ## Handling at the gate -/

variable {a s r}

theorem handle_of_aside {result : Except Fault Response} (b : Backend)
    (h : a.receive s.asked r = .aside result) : a.handle s r b = (settled result, s.asked) := by
  rw [handle, h]

/-- A request that is turned aside is not relayed. -/
theorem receive_aside_ne {asked : Int} {result : Except Fault Response}
    (h : a.receive asked r = .aside result) (answer : Answer) :
    result ≠ .ok (.relayed answer) := by
  rw [receive] at h
  split at h
  · split at h <;> cases h
    exact nofun
  · split at h
    · cases h
      exact nofun
    · split at h <;> cases h <;> exact nofun

/-- Neither is one that gets the injected error. -/
theorem inject_result_ne (a : App) (answer : Answer) :
    a.inject.result ≠ .ok (.relayed answer) := by
  rw [inject]
  cases Reply.injected a.config.errorStatus <;> exact nofun

theorem handle_asked_of_counted {ordinal : Int} {inject : Bool} (b : Backend)
    (h : a.receive s.asked r = .counted ordinal inject) : (a.handle s r b).2 = ordinal := by
  rw [handle, h]

/-- Of a counted request, what was told at the gate is told first. -/
theorem handle_of_counted {ordinal : Int} {inject : Bool} (b : Backend)
    (h : a.receive s.asked r = .counted ordinal inject) :
    let handled := if inject then a.inject else a.forward s r b
    (a.handle s r b).1 =
      { handled with events := a.told r ordinal inject ++ handled.events } := by
  rw [handle, h]

end App
end InjectingProxy
