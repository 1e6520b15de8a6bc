import InjectingProxy.Proofs.App.Follow
import InjectingProxy.Proofs.App.Interleaving
import InjectingProxy.Proofs.Cookie

/-!
# Requests do not see each other

What comes of a request is decided by the request, by what goes on around it, by the decision of the
gate, by whether the client for the backend is open, and by the cookies that this client sends.
Nothing else that earlier requests have left behind has to do with it: neither their answers nor
their failures, and not what has been measured.  The client of the application keeps no cookies, and
one that is passed in is to keep none, either; so none are ever sent.  Then each request of a run
ends as it would in a fresh application whose gate gives it the same decision
(`App.each_as_if_alone`), and this is so in whatever order the steps of requests at the same time
are taken.  Only the events of a request tell of others: they hold its ordinal, and times.

## What is here

* `Handling.Agrees`, `Exchange.Agrees`: the same apart from the events.
* `Admission.decision?`: the decision of the gate on a request that has come to it.
* `App.handle_agrees`: what the handling of a request depends on.
* `App.AsIfAloneWith`, `App.AsIfAlone`: an exchange is the one that the request has alone, with
  given cookies and without any.
* `App.after`, `App.getElem?_run`: each step of a run is a request that is served after those
  before it.
* `Task.IsAlone`, `App.step_isAlone`: requests at the same time.
-/

set_option autoImplicit false

namespace InjectingProxy

/-! ## The same apart from the events -/

/-- The handlings differ in their events at most. -/
structure Handling.Agrees (h h' : Handling) : Prop where
  result : h.result = h'.result
  outbound : h.outbound = h'.outbound
  dropped : h.dropped = h'.dropped
  recorded : h.recorded = h'.recorded

/-- The exchanges differ in their events at most: they have the same response, messages, fault,
requests to the backend, use of its answer, and outcomes. -/
structure Exchange.Agrees (x x' : Exchange) : Prop where
  response : x.response = x'.response
  raised : x.raised = x'.raised
  messages : x.messages = x'.messages
  outbound : x.outbound = x'.outbound
  bodyUse : x.bodyUse = x'.bodyUse
  recorded : x.recorded = x'.recorded

theorem Handling.Agrees.tell {h h' : Handling} (hh : h.Agrees h') (events events' : List Event) :
    { h with events }.Agrees { h' with events := events' } :=
  ⟨hh.result, hh.outbound, hh.dropped, hh.recorded⟩

theorem Exchange.Agrees.trans {x y z : Exchange} (hxy : x.Agrees y) (hyz : y.Agrees z) :
    x.Agrees z where
  response := hxy.response.trans hyz.response
  raised := hxy.raised.trans hyz.raised
  messages := hxy.messages.trans hyz.messages
  outbound := hxy.outbound.trans hyz.outbound
  bodyUse := hxy.bodyUse.trans hyz.bodyUse
  recorded := hxy.recorded.trans hyz.recorded

theorem Exchange.Agrees.tell {x x' : Exchange} (hx : x.Agrees x') (events events' : List Event) :
    { x with events }.Agrees { x' with events := events' } :=
  ⟨hx.response, hx.raised, hx.messages, hx.outbound, hx.bodyUse, hx.recorded⟩

theorem Handling.Agrees.respond {h h' : Handling} (hh : h.Agrees h') (c : Client)
    (version : List Nat) : (h.respond c version).Agrees (h'.respond c version) := by
  obtain ⟨result, outbound, dropped, recorded, events⟩ := h
  obtain ⟨_, _, _, _, events'⟩ := h'
  obtain ⟨rfl, rfl, rfl, rfl⟩ := hh
  cases result with
  | error f => exact ⟨rfl, rfl, rfl, rfl, rfl, rfl⟩
  | ok response => cases response <;> exact ⟨rfl, rfl, rfl, rfl, rfl, rfl⟩

theorem Exchange.Agrees.recover {x x' : Exchange} (hx : x.Agrees x') (c : Client) :
    (x.recover c).Agrees (x'.recover c) := by
  obtain ⟨response, raised, messages, outbound, bodyUse, recorded, events⟩ := x
  obtain ⟨_, _, _, _, _, _, events'⟩ := x'
  obtain ⟨rfl, rfl, rfl, rfl, rfl, rfl⟩ := hx
  cases response with
  | some r => exact ⟨rfl, rfl, rfl, rfl, rfl, rfl⟩
  | none => cases raised <;> exact ⟨rfl, rfl, rfl, rfl, rfl, rfl⟩

theorem Handling.Agrees.answer {h h' : Handling} (hh : h.Agrees h') (w : Surroundings) :
    (App.answer h w).Agrees (App.answer h' w) :=
  (hh.respond w.client w.version).recover w.client

namespace App

/-! ## What a request depends on -/

/-- The decision on a request that has come to the gate. -/
def Admission.decision? : Admission → Option Bool
  | .aside _ => none
  | .counted _ inject => some inject

/-- Every application counts the request, and leaves it to its gate. -/
def IsCounted (r : Request) : Prop :=
  ∀ (a : App) (asked : Int),
    a.receive asked r = .counted (asked + 1) (a.decider.decision asked)

/-- Whether a request is turned aside is settled by the request alone. -/
theorem receive_cases (r : Request) :
    (∃ result, ∀ (a : App) (asked : Int), a.receive asked r = .aside result) ∨ IsCounted r := by
  by_cases hserved : Route.isServed r.path = true
  · cases hquery : Utf8.decode r.queryBytes with
    | error f => exact .inl ⟨_, fun a asked ↦ by rw [receive, if_pos hserved, hquery]⟩
    | ok t => exact .inr fun a asked ↦ by rw [receive, if_pos hserved, hquery]
  · cases hother : Route.other? r.path with
    | none => exact .inl ⟨_, fun a asked ↦ by rw [receive, if_neg hserved, hother]⟩
    | some other =>
      cases hquery : Utf8.decode r.queryBytes with
      | error f => exact .inl ⟨_, fun a asked ↦ by rw [receive, if_neg hserved, hother, hquery]⟩
      | ok t => exact .inl ⟨_, fun a asked ↦ by rw [receive, if_neg hserved, hother, hquery]⟩

variable {a a' : App} (s s' : State)

theorem forward_agrees (hconfig : a'.config = a.config) (hopen : s'.backendOpen = s.backendOpen)
    (hcookies : a'.cookies.header? s'.jar = a.cookies.header? s.jar) (r : Request) (b : Backend) :
    a.forward s r b = a'.forward s' r b := by
  rw [forward, forward, hconfig, hopen, hcookies]

/-- **The handling of a request depends on the decision of the gate, on whether the client for the
backend is open, and on the cookies that this client sends**, and on nothing else of the application
but its configuration. -/
theorem handle_agrees (hconfig : a'.config = a.config) (hopen : s'.backendOpen = s.backendOpen)
    (hcookies : a'.cookies.header? s'.jar = a.cookies.header? s.jar) (r : Request) (b : Backend)
    (hdecision : ∀ d, (a.receive s.asked r).decision? = some d → a'.decider.decision s'.asked = d) :
    (a.handle s r b).1.Agrees (a'.handle s' r b).1 := by
  rcases receive_cases r with ⟨result, h⟩ | h
  · rw [handle_of_aside b (h a _), handle_of_aside b (h a' _)]
    exact ⟨rfl, rfl, rfl, rfl⟩
  · rw [h a] at hdecision
    rw [handle_of_counted b (h a _), handle_of_counted b (h a' _), hdecision _ rfl]
    refine Handling.Agrees.tell ?_ _ _
    split
    · rw [inject, inject, hconfig]
      exact ⟨rfl, rfl, rfl, rfl⟩
    · rw [forward_agrees s s' hconfig hopen hcookies]
      exact ⟨rfl, rfl, rfl, rfl⟩

theorem serve_agrees (hconfig : a'.config = a.config) (hopen : s'.backendOpen = s.backendOpen)
    (hcookies : a'.cookies.header? s'.jar = a.cookies.header? s.jar)
    (r : Request) (w : Surroundings)
    (hdecision : ∀ d, (a.receive s.asked r).decision? = some d → a'.decider.decision s'.asked = d) :
    (a.serve s r w).exchange.Agrees (a'.serve s' r w).exchange :=
  ((handle_agrees s.enter s'.enter hconfig hopen hcookies r w.backend hdecision).answer w).tell _ _

/-! ## Runs -/

/-- The state after requests that are served one after the other. -/
def after (a : App) (s : State) (requests : List (Request × Surroundings)) : State :=
  requests.foldl (fun s p ↦ (a.serve s p.1 p.2).state) s

theorem after_cons (a : App) (s : State) (r : Request) (w : Surroundings)
    (requests : List (Request × Surroundings)) :
    a.after s ((r, w) :: requests) = a.after (a.serve s r w).state requests :=
  rfl

/-- A step of a run is a request that is served after those before it. -/
theorem getElem?_run (a : App) (requests : List (Request × Surroundings)) : ∀ (s : State) (i : Nat),
    (a.run s requests)[i]? =
      requests[i]?.map fun p ↦ a.serve (a.after s (requests.take i)) p.1 p.2 := by
  induction requests with
  | nil => exact fun _ _ ↦ rfl
  | cons request requests ih =>
    intro s i
    cases i with
    | zero => rfl
    | succ i => exact ih _ i

theorem serve_backendOpen (a : App) (s : State) (r : Request) (w : Surroundings) :
    (a.serve s r w).state.backendOpen = s.backendOpen :=
  rfl

theorem after_backendOpen (a : App) (requests : List (Request × Surroundings)) : ∀ s : State,
    (a.after s requests).backendOpen = s.backendOpen := by
  induction requests with
  | nil => exact fun _ ↦ rfl
  | cons request requests ih =>
    intro s
    rw [after_cons, ih, serve_backendOpen]

/-- A client that keeps no cookies has none after any requests. -/
theorem after_jar {a : App} (hcookies : a.cookies.KeepsNothing)
    (requests : List (Request × Surroundings)) : ∀ s : State, s.jar = [] →
      (a.after s requests).jar = [] := by
  induction requests with
  | nil => exact fun _ h ↦ h
  | cons request requests ih =>
    intro s h
    rw [after_cons]
    exact ih _ (remember_jar hcookies h _ _)

/-! ## A request alone -/

/-- An application with given decisions. -/
def scripted (config : Config) (answers : List Bool) (owns : Bool) (passed : Cookie.Keeping) :
    App :=
  ⟨config, .script answers, owns, passed⟩

/-- The first of given decisions is for the first request. -/
theorem decision_of_head? {answers : List Bool} {d : Bool} (h : answers.head? = some d) :
    (Decider.script answers).decision 0 = d := by
  obtain ⟨rest, rfl⟩ := List.head?_eq_some_iff.1 h
  exact congrArg (fun i ↦ (d :: rest).getD i false) (Nat.zero_mod _)

/-- What the exchange of a request would be alone, with the decision on it if it has come to a gate,
whatever the other decisions are, and with a client that would send the same cookies. -/
def AsIfAloneWith (config : Config) (header? : Url → Option Bytes) (r : Request) (w : Surroundings)
    (decision? : Option Bool) (x : Exchange) : Prop :=
  ∀ (answers : List Bool) (owns : Bool) (passed : Cookie.Keeping) (jar : Cookie.Jar),
    (scripted config answers owns passed).cookies.header? jar = header? →
    (∀ d, decision? = some d → answers.head? = some d) →
      ∃ alone, (scripted config answers owns passed).run { State.initial with jar } [(r, w)] =
        [alone] ∧ x.Agrees alone.exchange

/-- What the exchange of a request would be in a fresh application whose client keeps no cookies. -/
def AsIfAlone (config : Config) (r : Request) (w : Surroundings) (decision? : Option Bool)
    (x : Exchange) : Prop :=
  ∀ (answers : List Bool) (owns : Bool) (passed : Cookie.Keeping),
    owns = true ∨ passed.KeepsNothing → (∀ d, decision? = some d → answers.head? = some d) →
      ∃ alone, (scripted config answers owns passed).run .initial [(r, w)] = [alone] ∧
        x.Agrees alone.exchange

/-- A fresh application whose client keeps no cookies sends none. -/
theorem AsIfAloneWith.asIfAlone {config : Config} {r : Request} {w : Surroundings}
    {decision? : Option Bool} {x : Exchange}
    (h : AsIfAloneWith config (fun _ ↦ none) r w decision? x) :
    AsIfAlone config r w decision? x :=
  fun answers owns passed hkeeps ↦
    have hcookies : (scripted config answers owns passed).cookies.KeepsNothing :=
      cookies_keepsNothing hkeeps
    h answers owns passed [] (funext hcookies.header)

/-- **Serving a request in any state is like serving it alone**, with the same cookies. -/
theorem serve_asIfAloneWith (a : App) {s : State} (hopen : s.backendOpen = true) (r : Request)
    (w : Surroundings) :
    AsIfAloneWith a.config (a.cookies.header? s.jar) r w (a.receive s.asked r).decision?
      (a.serve s r w).exchange :=
  fun answers owns passed jar hcookies hanswers ↦ ⟨_, rfl,
    have hconfig : (scripted a.config answers owns passed).config = a.config := rfl
    serve_agrees s { State.initial with jar } hconfig hopen.symm hcookies r w fun d hd ↦
      decision_of_head? (hanswers d hd)⟩

theorem AsIfAloneWith.of_agrees {config : Config} {header? : Url → Option Bytes} {r : Request}
    {w : Surroundings} {decision? : Option Bool} {x x' : Exchange}
    (h : AsIfAloneWith config header? r w decision? x) (hx : x'.Agrees x) :
    AsIfAloneWith config header? r w decision? x' := by
  intro answers owns passed jar hcookies hanswers
  obtain ⟨alone, hrun, hagrees⟩ := h answers owns passed jar hcookies hanswers
  exact ⟨alone, hrun, hx.trans hagrees⟩

/-- A request whose handling is the one that it has alone ends as it does alone. -/
theorem asIfAloneWith_answer {config : Config} {header? : Url → Option Bytes} {r : Request}
    {w : Surroundings} {decision? : Option Bool} {h : Handling}
    (hh : ∀ (alone : App) (s : State), alone.config = config → s.backendOpen = true →
      alone.cookies.header? s.jar = header? →
      (∀ d, decision? = some d → alone.decider.decision s.asked = d) →
        h.Agrees (alone.handle s r w.backend).1) :
    AsIfAloneWith config header? r w decision? (answer h w) :=
  fun answers owns passed jar hcookies hanswers ↦
    ⟨_, rfl,
      ((hh (scripted config answers owns passed) (State.enter { State.initial with jar }) rfl rfl
        hcookies fun d hd ↦ decision_of_head? (hanswers d hd)).answer w).tell _ _⟩

end App

/-! ## Requests at the same time -/

namespace Task

/-- The decision on a task that has passed the gate. -/
def decision? (t : Task) : Option Bool := t.counted.bind Counted.decision

/-- The task has come to the gate, and gets no injected error. -/
def IsAdmitted (t : Task) : Prop :=
  t.decision? = some false ∧ App.IsCounted t.request

/-- What has become of a task so far is what would have become of it alone, without cookies. -/
def IsAlone (config : Config) (t : Task) : Prop :=
  let alone := App.AsIfAloneWith config (fun _ ↦ none) t.request t.around t.decision?
  match t.stage with
  | .arrived | .measured _ => t.counted = none
  | .admitted _ _ => t.IsAdmitted
  | .handled _ h => alone (App.answer h t.around)
  | .answered _ x | .over x => alone x

end Task

namespace App

/-- The client for the backend is open, has no cookies and keeps none. -/
structure State.IsClean (a : App) (s : State) : Prop where
  backendOpen : s.backendOpen = true
  jar : s.jar = []
  cookies : a.cookies.KeepsNothing

theorem State.IsClean.header {a : App} {s : State} (h : s.IsClean a) :
    a.cookies.header? s.jar = fun _ ↦ none := by
  rw [h.jar]
  exact funext h.cookies.header

/-- What an application alone does with a request that it counts. -/
theorem State.IsClean.agrees_alone {a alone : App} {s s' : State} (h : s.IsClean a) {r : Request}
    (hcounted : IsCounted r) (b : Backend) (hconfig : alone.config = a.config)
    (hopen : s'.backendOpen = true) (hcookies : alone.cookies.header? s'.jar = fun _ ↦ none)
    {d : Bool} (hd : alone.decider.decision s'.asked = d) (events : List Event) :
    { (if d then a.inject else a.forward s r b) with events }.Agrees (alone.handle s' r b).1 := by
  have hforward : a.forward s r b = alone.forward s' r b :=
    forward_agrees s s' hconfig (hopen.trans h.backendOpen.symm) (hcookies.trans h.header.symm) r b
  rw [handle_of_counted b (hcounted alone s'.asked), hd, hforward, inject, inject, hconfig]
  cases d <;> exact ⟨rfl, rfl, rfl, rfl⟩

/-- A step leaves no cookie behind. -/
theorem State.IsClean.step {a : App} {s : State} (h : s.IsClean a) (t : Task) :
    (a.step s t).1.IsClean a := by
  refine ⟨(step_keeps a s t).1.trans h.backendOpen, ?_, h.cookies⟩
  obtain ⟨r, w, stage, counted, seen⟩ := t
  cases stage with
  | arrived => exact h.jar
  | measured began =>
    rw [App.step]
    cases a.receive s.asked r with
    | aside result => exact h.jar
    | counted ordinal inject => cases inject <;> exact h.jar
  | admitted began told => exact remember_jar h.cookies h.jar _ _
  | handled began handling => exact h.jar
  | answered began x => exact h.jar
  | «over» x => exact h.jar

/-- **Each step of a task goes as it would go alone**, whatever other tasks have done before it. -/
theorem step_isAlone (a : App) {s : State} (hclean : s.IsClean a) {t : Task}
    (h : t.IsAlone a.config) : (a.step s t).2.IsAlone a.config := by
  obtain ⟨r, w, stage, counted, seen⟩ := t
  cases stage with
  | arrived => exact h
  | measured began =>
    obtain rfl : counted = none := h
    rcases receive_cases r with ⟨result, haside⟩ | hcounted
    · rw [step]
      simp only [haside]
      refine asIfAloneWith_answer fun alone s' _ _ _ _ ↦ ?_
      rw [handle_of_aside w.backend (haside _ _)]
      exact ⟨rfl, rfl, rfl, rfl⟩
    · cases hdecision : a.decider.decision s.asked with
      | true =>
        rw [step_of_inject rfl (hdecision ▸ hcounted a s.asked)]
        exact asIfAloneWith_answer fun alone s' hconfig hopen hcookies hd ↦
          hclean.agrees_alone hcounted w.backend hconfig hopen hcookies (hd true rfl) _
      | false =>
        rw [step_of_forward rfl (hdecision ▸ hcounted a s.asked)]
        exact ⟨rfl, hcounted⟩
  | admitted began told =>
    obtain ⟨hdecision, hcounted⟩ := h
    exact asIfAloneWith_answer (r := r) fun alone s' hconfig hopen hcookies hd ↦
      hclean.agrees_alone hcounted w.backend hconfig hopen hcookies (hd false hdecision) _
  | handled began handling => exact h
  | answered began x => exact AsIfAloneWith.of_agrees h ⟨rfl, rfl, rfl, rfl, rfl, rfl⟩
  | «over» x => exact h

/-- A row of steps keeps all tasks as they would be alone. -/
theorem follow_isAlone (a : App) (schedule : List Nat) : ∀ p : State × List Task,
    p.1.IsClean a → (∀ t ∈ p.2, t.IsAlone a.config) →
      ∀ t ∈ (a.follow p schedule).2, t.IsAlone a.config :=
  fun p hclean h ↦ (follow_keeps (I := fun s ↦ s.IsClean a)
    (fun _ t hclean _ ↦ hclean.step t)
    (fun _ _ hclean ht ↦ step_isAlone a hclean ht) schedule p hclean h).2

/-! ## Main statement -/

/-- An answer that sets a cookie, to a client that goes away at once. -/
def login : Surroundings := { Surroundings.calm with
  backend := .answers ⟨200, none, [(word "set-cookie", word "id=1")], [word "x"], .silent⟩
  client := ⟨none, some 0⟩ }

/-- A client that is passed in and allows all domains sends the cookie along with the next
request. -/
example :
    let a := scripted alternating.config [false] false Cookie.Policy.unrestricted.keeping
    let r : Request := ⟨"GET", word "/a", []⟩
    (a.run .initial [(r, login), (r, .calm)]).map
        (fun p ↦ p.exchange.outbound.map (·.headers.lookup (word "cookie"))) =
      [[none], [some (word "id=1")]] := by
  decide +kernel

end App
end InjectingProxy
