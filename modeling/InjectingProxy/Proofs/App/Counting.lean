import InjectingProxy.Proofs.App.Serve
import InjectingProxy.Proofs.Url.Percent

/-!
# Which requests are counted

A request passes the gate once, unless it is turned aside before: because its path leads nowhere,
or because its query is no text.  `Request.ReachesGate` says when it is not turned aside, in terms
of its path and its query alone, and `serve_counts_iff` that it is counted in exactly these cases,
whatever the application, its state, the method and the headers are.

So the count can miss requests: one with a line break inside its path is answered without having
been counted (`break_in_path_not_counted`).
-/

set_option autoImplicit false

namespace InjectingProxy

/-! ## Paths that begin with a slash -/

namespace Utf8

theorem decodeLossy_cons_of_ascii {b : UInt8} (h : b.toNat < 0x80) (bs : Bytes) :
    decodeLossy (b :: bs) = Char.ofNat b.toNat :: decodeLossy bs := by
  rw [decodeLossy, scan, scanAfter, head_one h]
  rfl

end Utf8

namespace Request

/-- The target begins with a slash. -/
def IsRooted (r : Request) : Prop := r.target.head? = some 0x2F

instance (r : Request) : Decidable r.IsRooted := inferInstanceAs (Decidable (_ = _))

/-- The path of a target that begins with a slash does so, too. -/
theorem IsRooted.path {r : Request} (h : r.IsRooted) : r.path.head? = some '/' := by
  obtain ⟨rest, hr⟩ : ∃ rest, r.target = 0x2F :: rest := by
    rw [IsRooted, List.head?_eq_some_iff] at h
    exact h
  have hbytes : r.pathBytes = 0x2F :: rest.takeWhile (· != 0x3F) := by
    rw [pathBytes, hr]
    rfl
  rw [Request.path, hbytes, Percent.unescape_cons (by decide),
    Utf8.decodeLossy_cons_of_ascii (by decide)]
  rfl

/-- The request comes to the gate: no line break stands in its path before the last character, and
its query is text. -/
structure ReachesGate (r : Request) : Prop where
  unbroken : '\n' ∉ r.path.dropLast
  queryText : ∃ t, Utf8.encode t = r.queryBytes

end Request

theorem Route.isServed_iff {path : Text} (h : path.head? = some '/') :
    isServed path = true ↔ '\n' ∉ path.dropLast := by
  obtain ⟨rest, rfl⟩ := List.head?_eq_some_iff.1 h
  cases rest with
  | nil => decide
  | cons c rest => simp [isServed]

theorem Route.head?_of_isServed {path : Text} (h : isServed path = true) :
    path.head? = some '/' := by
  rw [isServed.eq_def] at h
  split at h
  · rfl
  · cases h

/-- A backend that answers at once with an empty body, and a client that takes everything. -/
def Surroundings.calm : Surroundings :=
  ⟨.answers ⟨200, none, [], [], .complete⟩, .patient, [2, 3], 0⟩

/-! ## At the gate -/

/-- A request that has been turned aside: nothing is asked of the backend or recorded, and the
client is told that there is nothing, or sent elsewhere, or told that something has gone wrong. -/
def Exchange.IsAside (x : Exchange) (c : Client) : Prop :=
  x.outbound = [] ∧ x.recorded = [] ∧
    (x.messages = c.received Reply.notFound.messages ∨
      (∃ location, x.messages = c.received (Reply.elsewhere location).messages) ∨
      x.messages = c.received Reply.internalError.messages)

namespace App

variable {a : App} {s : State} {r : Request}

/-- A request that comes to the gate gets the next ordinal. -/
theorem receive_of_reachesGate (asked : Int) (hp : r.path.head? = some '/')
    (h : r.ReachesGate) : a.receive asked r = .counted (asked + 1) (a.decider.decision asked) := by
  obtain ⟨t, ht⟩ := h.queryText
  rw [receive, if_pos ((Route.isServed_iff hp).2 h.unbroken), Utf8.decode_eq_ok_iff.2 ht]

/-- Any other request is turned aside: to another location, or because there is none, or with a
fault in its query. -/
theorem receive_of_not_reachesGate (asked : Int) (hp : r.path.head? = some '/')
    (h : ¬ r.ReachesGate) :
    a.receive asked r = .aside (.ok (.reply Reply.notFound)) ∨
      (∃ location, a.receive asked r = .aside (.ok (.reply (Reply.elsewhere location)))) ∨
      ∃ f, a.receive asked r = .aside (.error (.query f r.queryBytes)) := by
  rw [receive]
  split
  · rename_i hserved
    cases hq : Utf8.decode r.queryBytes with
    | error f => exact .inr (.inr ⟨f, rfl⟩)
    | ok t =>
      exact absurd ⟨(Route.isServed_iff hp).1 hserved, t, Utf8.decode_eq_ok_iff.1 hq⟩ h
  · cases Route.other? r.path with
    | none => exact .inl rfl
    | some other =>
      cases Utf8.decode r.queryBytes with
      | error f => exact .inr (.inr ⟨f, rfl⟩)
      | ok query => exact .inr (.inl ⟨_, rfl⟩)

/-- The path of a request that is counted begins with a slash. -/
theorem head?_path_of_counted {asked ordinal : Int} {inject : Bool}
    (h : a.receive asked r = .counted ordinal inject) : r.path.head? = some '/' := by
  rw [receive] at h
  split at h
  · rename_i hserved
    exact Route.head?_of_isServed hserved
  · split at h
    · cases h
    · split at h <;> cases h

theorem serve_isAside {result : Except Fault Response} (w : Surroundings)
    (h : a.receive s.asked r = .aside result)
    (hresult : result = .ok (.reply Reply.notFound) ∨
      (∃ location, result = .ok (.reply (Reply.elsewhere location))) ∨
      ∃ f, result = .error f) :
    (a.serve s r w).exchange.IsAside w.client := by
  have hhandle : a.handle s.enter r w.backend = (settled result, s.asked) :=
    handle_of_aside (s := s.enter) w.backend h
  refine ⟨by rw [serve_outbound, hhandle]; rfl, by rw [serve_recorded, hhandle]; rfl, ?_⟩
  rw [serve_messages, hhandle]
  rcases hresult with rfl | ⟨location, rfl⟩ | ⟨f, rfl⟩
  · exact .inl (answer_messages_reply w rfl)
  · exact .inr (.inl ⟨location, answer_messages_reply w rfl⟩)
  · exact .inr (.inr (answer_messages_fault w rfl))

theorem asked_of_reachesGate (w : Surroundings) (hp : r.path.head? = some '/')
    (h : r.ReachesGate) : (a.serve s r w).state.asked = s.asked + 1 := by
  rw [serve_asked]
  exact handle_asked_of_counted (s := s.enter) w.backend (receive_of_reachesGate s.asked hp h)

theorem aside_of_not_reachesGate (w : Surroundings) (hp : r.path.head? = some '/')
    (h : ¬ r.ReachesGate) :
    (a.serve s r w).state.asked = s.asked ∧ (a.serve s r w).exchange.IsAside w.client := by
  have hasked {result : Except Fault Response} (hr : a.receive s.asked r = .aside result) :
      (a.serve s r w).state.asked = s.asked := by
    rw [serve_asked, handle_of_aside (s := s.enter) w.backend hr]
    rfl
  rcases receive_of_not_reachesGate (a := a) s.asked hp h with hr | ⟨location, hr⟩ | ⟨f, hr⟩
  · exact ⟨hasked hr, serve_isAside w hr (.inl rfl)⟩
  · exact ⟨hasked hr, serve_isAside w hr (.inr (.inl ⟨location, rfl⟩))⟩
  · exact ⟨hasked hr, serve_isAside w hr (.inr (.inr ⟨_, rfl⟩))⟩

/-- **A request is counted exactly if it reaches the gate**, and then once.  Otherwise the count
stays, and the request is turned aside. -/
theorem serve_counts_iff (a : App) (s : State) (r : Request) (w : Surroundings)
    (h : r.IsRooted) :
    ((a.serve s r w).state.asked = s.asked + 1 ↔ r.ReachesGate) ∧
      (¬ r.ReachesGate →
        (a.serve s r w).state.asked = s.asked ∧
          (a.serve s r w).exchange.IsAside w.client) := by
  refine ⟨⟨fun hasked ↦ ?_, asked_of_reachesGate w h.path⟩, aside_of_not_reachesGate w h.path⟩
  refine Classical.byContradiction fun hn ↦ ?_
  have := (aside_of_not_reachesGate (a := a) (s := s) w h.path hn).1
  omega

/-- An application that injects 503 into every second request. -/
def alternating : App :=
  .ofConfig {
    port := 0, host := Config.defaultHost, backendScheme := "http", backendHost := "backend.test"
    errorStatus := ⟨503, "Internal server error"⟩, gate := ⟨2, by decide⟩
    backendTimeout := none, embedded := false }

/-- A line break at the very end of a path, and a query with a character of two bytes, keep no
request from the gate. -/
theorem break_at_end_counted :
    let r : Request := ⟨"PURGE", word "/a%0A?q=é", []⟩
    r.IsRooted ∧ r.ReachesGate ∧ (alternating.serve .initial r .calm).state.asked = 1 := by
  intro r
  have hr : r.IsRooted := by decide
  have hg : r.ReachesGate := ⟨by decide, "q=é".toList, by decide⟩
  exact ⟨hr, hg, (serve_counts_iff alternating .initial r .calm hr).1.2 hg⟩

/-- **A line break inside a path keeps a request from being counted**, although its target begins
with a slash. -/
theorem break_in_path_not_counted :
    let r : Request := ⟨"GET", word "/a%0Ab", []⟩
    r.IsRooted ∧ (alternating.serve .initial r .calm).state.asked = 0 ∧
      (alternating.serve .initial r .calm).exchange.messages = Reply.notFound.messages := by
  decide

end App
end InjectingProxy
