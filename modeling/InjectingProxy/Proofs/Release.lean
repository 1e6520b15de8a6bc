import InjectingProxy.Proofs.App.Follow
import InjectingProxy.Proofs.App.Serve
import InjectingProxy.Proofs.Relay

/-!
# How often answers are released

The body of an answer holds a connection to the backend until it is released.  A body that comes to
its end has been released then, and whoever streams it releases it afterwards in any case, which
does nothing more (`BodyUse.release_released`).  An answer that points to something that makes no
sense is released when that is found.

One answer is forgotten: if the address of the request is not read again as it is meant, a fault
comes out after the backend has answered, and nobody has the answer any more.  Whether this happens
is settled by the root alone (`Url.releases`).

## What is here

* `Exchange.Releases`: how often the answer in an exchange has been released when it is over.
* `Answer.script_releasesAtMostOnce`: at no place of a script has the body been released twice.
* `Handling.Leaves`, `Handling.Leaves.respond`: what is left of an answer when a request has been
  handled, and what the client makes of it.
* `Relay.handle_leaves`, `App.serve_releases`, `App.run_releases`: the relay, the application, and
  requests one after the other.
* `App.step_releases`, `App.follow_releases`: requests at the same time.  A step of a task keeps
  what is settled about its own answer, and no other task has to do with it.
-/

set_option autoImplicit false

namespace InjectingProxy

/-! ## Bodies that are streamed -/

theorem BodyUse.release_released {u : BodyUse} (h : u.released ≤ 1) :
    u.release.released = 1 := by
  rw [release]
  split
  · rfl
  · omega

/-- Nowhere in a script has the body been released twice. -/
structure Script.ReleasesAtMostOnce (s : Script) : Prop where
  emissions : ∀ e ∈ s.emissions, e.use.released ≤ 1
  use : s.use.released ≤ 1

theorem Script.ReleasesAtMostOnce.deliver {s : Script} (h : s.ReleasesAtMostOnce) (c : Client)
    (listening : Bool) : (s.deliver c listening).use.released ≤ 1 := by
  rcases (s.deliver_cut c listening).use_mem with huse | ⟨e, he, huse⟩
  · exact huse ▸ h.use
  · exact huse ▸ h.emissions e he

namespace Answer

theorem mem_pieceOf {piece : Bytes} {use : BodyUse} {e : Emission} (h : e ∈ pieceOf piece use) :
    e.use = use := by
  rw [pieceOf] at h
  split at h
  · cases h
  · rw [List.mem_singleton.1 h]

/-- A body is released at its end, and only there, whatever the codings are. -/
theorem bodyScript_releasesAtMostOnce (bodyEnd : BodyEnd) (chunks : List Bytes) :
    ∀ (coding : Coding.Stack) (use : BodyUse), use.released = 0 →
      (bodyScript bodyEnd coding use chunks).ReleasesAtMostOnce := by
  induction chunks with
  | nil =>
    intro coding use huse
    have hlast : use.release.released ≤ 1 :=
      Nat.le_of_eq (BodyUse.release_released (huse ▸ Nat.zero_le 1))
    have hfirst : use.released ≤ 1 := huse ▸ Nat.zero_le 1
    cases bodyEnd with
    | silent => exact ⟨nofun, hfirst⟩
    | broken f => exact ⟨nofun, hfirst⟩
    | complete =>
      rw [bodyScript]
      split
      · exact ⟨nofun, hlast⟩
      · refine ⟨fun e he ↦ ?_, hlast⟩
        rcases List.mem_append.1 he with he | he
        · exact mem_pieceOf he ▸ hlast
        · exact List.mem_singleton.1 he ▸ hlast
  | cons chunk rest ih =>
    intro coding use huse
    have htake : use.take.released = 0 := huse
    rw [bodyScript]
    split
    · exact ih coding use.take htake
    · split
      · exact ⟨nofun, htake ▸ Nat.zero_le 1⟩
      · rename_i piece coding' _
        obtain ⟨hemissions, hlast⟩ := ih coding' use.take htake
        refine ⟨fun e he ↦ ?_, hlast⟩
        rcases List.mem_append.1 he with he | he
        · exact mem_pieceOf he ▸ htake ▸ Nat.zero_le 1
        · exact hemissions e he

theorem script_releasesAtMostOnce (a : Answer) : a.script.ReleasesAtMostOnce := by
  obtain ⟨hemissions, huse⟩ :=
    bodyScript_releasesAtMostOnce a.bodyEnd a.chunks a.codings .untouched rfl
  refine ⟨fun e he ↦ ?_, huse⟩
  rcases List.mem_cons.1 he with rfl | he
  · exact Nat.zero_le 1
  · exact hemissions e he

end Answer

/-! ## Exchanges -/

/-- The backend has been asked, and has given an answer. -/
def Exchange.IsGiven (x : Exchange) (b : Backend) : Prop :=
  x.outbound ≠ [] ∧ ∃ a, b = .answers a

/-- The answer that the backend has given, if it has given one, has been released so many times
when the exchange is over. -/
structure Exchange.Releases (x : Exchange) (b : Backend) (n : Nat) : Prop where
  given : x.IsGiven b → ∃ use, x.bodyUse = some use ∧ use.released = n
  none : ¬ x.IsGiven b → x.bodyUse = none

/-- What has become of an answer before anything is sent to the client: there is none, or it is
not handed on and has been released so many times, or it is handed on. -/
inductive Handling.Leaves (h : Handling) (b : Backend) (n : Nat) : Prop
  | nothing (hb : h.outbound = [] ∨ ∀ a, b ≠ .answers a) (hdropped : h.dropped = none)
      (hresult : ∀ a, h.result ≠ .ok (.relayed a))
  | dropped {a : Answer} {use : BodyUse} (ho : h.outbound ≠ []) (hb : b = .answers a)
      (hdropped : h.dropped = some use) (huse : use.released = n)
      (hresult : ∀ a, h.result ≠ .ok (.relayed a))
  | handedOn {a : Answer} (ho : h.outbound ≠ []) (hb : b = .answers a)
      (hresult : h.result = .ok (.relayed a)) (hn : n = 1)

namespace Handling

variable {h : Handling} {b : Backend} {n : Nat}

theorem respond_bodyUse_of_relayed {a : Answer} (c : Client) (version : List Nat)
    (hr : h.result = .ok (.relayed a)) :
    ∃ use, (h.respond c version).bodyUse = some use ∧ use.released = 1 := by
  refine ⟨(a.script.deliver c (Response.listens version)).use.release, by rw [respond, hr], ?_⟩
  exact BodyUse.release_released (a.script_releasesAtMostOnce.deliver c _)

theorem respond_bodyUse_of_not_relayed (c : Client) (version : List Nat)
    (hr : ∀ a, h.result ≠ .ok (.relayed a)) : (h.respond c version).bodyUse = h.dropped := by
  rw [respond]
  split
  · rfl
  · rfl
  · rename_i a ha
    exact absurd ha (hr a)

/-- Whatever the client does, an answer that is handed on is released once, and another one stays
as it is. -/
theorem Leaves.respond (hl : h.Leaves b n) (c : Client) (version : List Nat) :
    (h.respond c version).Releases b n := by
  cases hl with
  | nothing hb hdropped hresult =>
    have hnot : ¬ (h.respond c version).IsGiven b := by
      rintro ⟨ho, a, ha⟩
      rw [respond_outbound] at ho
      exact hb.elim ho fun hb ↦ hb a ha
    refine ⟨fun hgiven ↦ absurd hgiven hnot, fun _ ↦ ?_⟩
    rw [respond_bodyUse_of_not_relayed c version hresult, hdropped]
  | @dropped a use ho hb hdropped huse hresult =>
    refine ⟨fun _ ↦ ⟨use, ?_, huse⟩, fun hnot ↦ ?_⟩
    · rw [respond_bodyUse_of_not_relayed c version hresult, hdropped]
    · exact absurd ⟨respond_outbound h c version ▸ ho, a, hb⟩ hnot
  | @handedOn a ho hb hresult hn =>
    refine ⟨fun _ ↦ hn ▸ respond_bodyUse_of_relayed c version hresult, fun hnot ↦ ?_⟩
    exact absurd ⟨respond_outbound h c version ▸ ho, a, hb⟩ hnot

end Handling

/-- How often the answers to requests below an address are released: once, unless the address is
not read again as it is meant. -/
def Url.releases (u : Url) : Nat := if u.misreading? = none then 1 else 0

/-! ## The relay -/

namespace Relay

variable {root : Text} {u₀ : Url}

theorem handle_leaves (hroot : Url.parse root = .ok u₀) (habs : u₀.isAbsolute = true)
    (backendOpen : Bool) (method : String) (path : Text) (params : List Form.Parameter)
    (b : Backend) :
    (handle root backendOpen method path params b).Leaves b u₀.releases := by
  rcases handle_cases root backendOpen method path params b with
    ⟨ho, hdropped, hresult⟩ | ⟨-, u, o, hprepare, heq⟩
  · exact .nothing (.inl ho) hdropped hresult
  · obtain ⟨-, rfl, hu⟩ := url_of_prepare hroot habs hprepare
    have hs : (Outbound.signed o).url.scheme.isEmpty = false :=
      Url.scheme_of_isAbsolute (u := o.url) (hu ▸ habs)
    have hsame : (Outbound.signed o).url.misreading? = u₀.misreading? :=
      (congrArg Url.misreading? hu).trans (Url.misreading?_under path params)
    have houtbound : (handle root backendOpen method path params b).outbound ≠ [] := by
      rw [heq, send_outbound]
      exact List.cons_ne_nil _ _
    rw [heq] at houtbound ⊢
    cases b with
    | fails f =>
      exact .nothing (.inr nofun) (send_dropped_of_failure _)
        fun a h ↦ nomatch ((send_relayed_iff _).1 h).1
    | answers a =>
      rw [Url.releases, ← hsame]
      rcases send_answers_cases (u₀.under path params) (Outbound.signed o) a
        [.forwarding (u₀.under path params).text] with
        ⟨hlost, ⟨f, hf⟩, hdropped⟩ | ⟨⟨-, hread⟩, ⟨-, hr, -⟩ | ⟨-, hr, hdropped⟩⟩
      · obtain ⟨m, hm⟩ := hlost.resolve_left fun h ↦ nomatch hs.symm.trans h
        rw [hm]
        exact .dropped houtbound rfl hdropped rfl fun a' h ↦ nomatch hf.symm.trans h
      · exact .handedOn houtbound rfl hr (if_pos hread)
      · exact .dropped houtbound rfl hdropped (if_pos hread).symm hr

end Relay

/-! ## The application -/

theorem Handling.Leaves.tell {h : Handling} {b : Backend} {n : Nat} (hl : h.Leaves b n)
    (events : List Event) : { h with events }.Leaves b n := by
  cases hl with
  | nothing hb hdropped hresult => exact .nothing hb hdropped hresult
  | dropped ho hb hdropped huse hresult => exact .dropped ho hb hdropped huse hresult
  | handedOn ho hb hresult hn => exact .handedOn ho hb hresult hn

theorem Handling.Leaves.withCookies {h : Handling} {b : Backend} {n : Nat} (hl : h.Leaves b n)
    (header? : Url → Option Bytes) : (h.withCookies header?).Leaves b n := by
  have hkept : (h.withCookies header?).outbound = [] ↔ h.outbound = [] := List.map_eq_nil_iff
  cases hl with
  | nothing hb hdropped hresult => exact .nothing (hb.imp_left hkept.2) hdropped hresult
  | dropped ho hb hdropped huse hresult => exact .dropped (mt hkept.1 ho) hb hdropped huse hresult
  | handedOn ho hb hresult hn => exact .handedOn (mt hkept.1 ho) hb hresult hn

theorem Exchange.Releases.tell {x : Exchange} {b : Backend} {n : Nat} (h : x.Releases b n)
    (events : List Event) : { x with events }.Releases b n :=
  ⟨h.given, h.none⟩

theorem Exchange.Releases.recover {x : Exchange} {b : Backend} {n : Nat} (h : x.Releases b n)
    (c : Client) : (x.recover c).Releases b n := by
  rw [Exchange.recover]
  split
  · exact ⟨h.given, h.none⟩
  · exact h

namespace App

variable {a : App} {n : Nat}

/-- Of a request that does not get past the gate, there is nothing to release. -/
theorem settled_leaves {result : Except Fault Response} {asked : Int} {r : Request} (b : Backend)
    (h : a.receive asked r = .aside result) : (settled result).Leaves b n :=
  .nothing (.inl rfl) rfl (receive_aside_ne h)

theorem inject_leaves (a : App) (b : Backend) : a.inject.Leaves b n :=
  .nothing (.inl rfl) rfl (inject_result_ne a)

theorem answer_releases {h : Handling} {w : Surroundings} (hl : h.Leaves w.backend n) :
    (answer h w).Releases w.backend n :=
  (hl.respond w.client w.version).recover w.client

section Root

variable {u₀ : Url} (hroot : Url.parse a.config.backendRoot.toList = .ok u₀)
  (habs : u₀.isAbsolute = true)
include hroot habs

theorem forward_leaves (s : State) (r : Request) (b : Backend) :
    (a.forward s r b).Leaves b u₀.releases :=
  (Relay.handle_leaves hroot habs s.backendOpen _ _ _ b).withCookies _

theorem handle_leaves (s : State) (r : Request) (b : Backend) :
    (a.handle s r b).1.Leaves b u₀.releases := by
  cases hreceive : a.receive s.asked r with
  | aside result =>
    rw [handle_of_aside b hreceive]
    exact settled_leaves b hreceive
  | counted ordinal inject =>
    rw [handle_of_counted b hreceive]
    cases inject with
    | true => exact (inject_leaves a b).tell _
    | false => exact (forward_leaves hroot habs s r b).tell _

/-- **Serving a request releases its answer**, in every state. -/
theorem serve_releases (s : State) (r : Request) (w : Surroundings) :
    (a.serve s r w).exchange.Releases w.backend u₀.releases :=
  (answer_releases (handle_leaves hroot habs s.enter r w.backend)).tell _

theorem run_releases (requests : List (Request × Surroundings)) : ∀ (s : State) (i : Nat)
    (r : Request) (w : Surroundings) (served : Served), requests[i]? = some (r, w) →
      (a.run s requests)[i]? = some served → served.exchange.Releases w.backend u₀.releases := by
  induction requests with
  | nil => exact fun s i r w served h ↦ nomatch h
  | cons request requests ih =>
    intro s i r w served hrequest hserved
    cases i with
    | zero =>
      cases hrequest
      cases hserved
      exact serve_releases hroot habs s r w
    | succ i => exact ih _ i r w served hrequest hserved

end Root

end App

/-! ## Requests at the same time -/

/-- What is settled of the answer to the request of a task: what is left of it, once the request
has been handled, and how often it has been released, once the request has been answered. -/
def Task.Releases (t : Task) (n : Nat) : Prop :=
  match t.stage with
  | .handled _ h => h.Leaves t.around.backend n
  | .answered _ x | .over x => x.Releases t.around.backend n
  | _ => True

namespace App

variable {a : App} {u₀ : Url} (hroot : Url.parse a.config.backendRoot.toList = .ok u₀)
  (habs : u₀.isAbsolute = true)
include hroot habs

/-- Each step of a task keeps what is settled, whatever the other tasks have done before it. -/
theorem step_releases (s : State) {t : Task} (h : t.Releases u₀.releases) :
    (a.step s t).2.Releases u₀.releases := by
  obtain ⟨r, w, stage, counted, seen⟩ := t
  cases stage with
  | arrived => trivial
  | measured began =>
    rw [step]
    cases hreceive : a.receive s.asked r with
    | aside result => exact settled_leaves w.backend hreceive
    | counted ordinal inject =>
      cases inject with
      | true => exact (inject_leaves a w.backend).tell _
      | false => trivial
  | admitted began told => exact (forward_leaves hroot habs s r w.backend).tell _
  | handled began handled => exact answer_releases h
  | answered began x => exact h.tell _
  | «over» x => exact h

theorem follow_releases (schedule : List Nat) : ∀ p : State × List Task,
    (∀ t ∈ p.2, t.Releases u₀.releases) →
      ∀ t ∈ (a.follow p schedule).2, t.Releases u₀.releases :=
  fun p h ↦ (follow_keeps (I := fun _ ↦ True) (fun _ _ _ _ ↦ trivial)
    (fun s _ _ ht ↦ step_releases hroot habs s ht) schedule p trivial h).2

end App

/-! ## Main statement -/

theorem Url.releases_eq_one_iff {u : Url} : u.releases = 1 ↔ u.misreading? = none := by
  rw [releases]
  split
  · rename_i h
    exact ⟨fun _ ↦ h, fun _ ↦ rfl⟩
  · rename_i h
    exact ⟨nofun, fun hnone ↦ absurd hnone h⟩

/-- **Every answer is released once, unless the root is not read again as it is meant.**  This is so
for each call of the relay, for requests one after the other and for requests at the same time, in
any state and whatever backend and client do.  Below any other root no answer is released. -/
theorem Exchange.released_once_unless_misread {root : Text} {u₀ : Url}
    (hroot : Url.parse root = .ok u₀) (habs : u₀.isAbsolute = true) :
    (u₀.releases = 1 ↔ u₀.misreading? = none) ∧
      (∀ (c : Relay.Call) (client : Client) (version : List Nat),
        ((c.handling root).respond client version).Releases c.backend u₀.releases) ∧
      ∀ a : App, a.config.backendRoot.toList = root →
        (∀ (s : App.State) (requests : List (Request × Surroundings)) (i : Nat) (r : Request)
          (w : Surroundings) (served : App.Served),
          requests[i]? = some (r, w) → (a.run s requests)[i]? = some served →
            served.exchange.Releases w.backend u₀.releases) ∧
        ∀ (s : App.State) (requests : List (Request × Surroundings)) (schedule : List Nat)
          (t : Task) (x : Exchange),
          t ∈ (a.follow (s, requests.map fun p ↦ Task.arriving p.1 p.2) schedule).2 →
            t.exchange? = some x → x.Releases t.around.backend u₀.releases := by
  refine ⟨Url.releases_eq_one_iff, fun c client version ↦ ?_, ?_⟩
  · exact (Relay.handle_leaves hroot habs true c.method c.path c.params c.backend).respond _ _
  · rintro a rfl
    refine ⟨fun s requests ↦ App.run_releases hroot habs requests s, ?_⟩
    intro s requests schedule t x ht hx
    have harriving : ∀ t ∈ requests.map fun p ↦ Task.arriving p.1 p.2,
        t.Releases u₀.releases := by
      intro t ht
      obtain ⟨p, -, rfl⟩ := List.mem_map.1 ht
      trivial
    have hreleases := App.follow_releases hroot habs schedule (s, _) harriving t ht
    rw [Task.exchange?] at hx
    split at hx
    · rename_i y hstage
      cases hx
      rw [Task.Releases, hstage] at hreleases
      exact hreleases
    · cases hx

/-- An answer below a plain root that points to an address that cannot be read is released once. -/
theorem Exchange.malformed_location_released :
    let root := "http://backend.test".toList
    let u₀ : Url := ⟨"http".toList, [], "backend.test".toList, none, [], none, none⟩
    let c : Relay.Call := ⟨"GET", "/a".toList, [],
      .answers ⟨302, none, [(word "location", word "http://[")], [word "x"], .silent⟩⟩
    let x := (c.handling root).respond ⟨some 1, none⟩ [2, 4]
    Url.parse root = .ok u₀ ∧ u₀.isAbsolute = true ∧ u₀.misreading? = none ∧
      x.IsGiven c.backend ∧ x.Releases c.backend 1 := by
  have hroot : Url.parse "http://backend.test".toList =
      .ok ⟨"http".toList, [], "backend.test".toList, none, [], none, none⟩ := rfl
  exact ⟨hroot, rfl, rfl, ⟨List.cons_ne_nil _ _, _, rfl⟩,
    (released_once_unless_misread hroot rfl).2.1 _ _ _⟩

/-- **The answer to a request below a root with a bracket in its zone is never released**, although
the backend has given it and the exchange is over. -/
theorem Exchange.zone_with_bracket_not_released :
    let root := "http://[fe80::1%x]y]".toList
    let u₀ : Url := ⟨"http".toList, [], "fe80::1%x]y".toList, none, [], none, none⟩
    let c : Relay.Call := ⟨"GET", "/a".toList, [], .answers ⟨200, none, [], [], .complete⟩⟩
    let x := (c.handling root).respond .patient [2, 4]
    Url.parse root = .ok u₀ ∧ u₀.isAbsolute = true ∧ x.IsGiven c.backend ∧
      x.raised = some (.misread .trailing) ∧ x.bodyUse = some ⟨0, 0⟩ :=
  ⟨rfl, rfl, ⟨List.cons_ne_nil _ _, _, rfl⟩, rfl, rfl⟩

end InjectingProxy
