import InjectingProxy.Proofs.App.Forwarding
import InjectingProxy.Proofs.Url.Path

/-!
# Which path the backend is asked for

The path of a request is read from its target: escapes are undone, and the bytes are read as text.
Then the text becomes a path again: a few characters are escaped, it is put below the root, dot
segments are followed, and characters that an address does not hold are escaped.

For a request with an ordinary path (`Request.IsTidy`) no step but the first changes what the path
stands for (`Request.IsTidy.unescape_pathAsked`).  So the backend is asked for what the path stands
for after its escapes have been undone twice: once by the proxy, and once by the backend.  This is
the path of the request only if the first time leaves no escape behind (`App.asks_for_path`).  A
percent sign that was escaped, with two hexadecimal digits after it, is such an escape, and it does
not reach the backend (`App.escaped_percent_lost`).
-/

set_option autoImplicit false

namespace InjectingProxy

/-! ## Tidy requests -/

/-- A request to get something whose path is text without control characters and dot segments, and
whose query is text; neither of them is too long.  A request whose query is no text never comes to
the gate (`App.serve_counts_iff`), so nothing is asked of the backend for it. -/
structure Request.IsTidy (r : Request) : Prop where
  gets : Relay.isForwarded r.method = true
  rooted : r.IsRooted
  pathText : ∃ t, Utf8.encode t = Percent.unescape r.pathBytes
  printable : ∀ c ∈ r.path, Url.isControl c = false
  normal : Path.IsNormal r.path
  queryText : ∃ t, Utf8.encode t = r.queryBytes
  address_short : r.address.length ≤ Url.maxLength
  query_short : (Form.encode (Form.group r.params)).length ≤ Url.maxLength

/-- The bytes of the path that is asked for, as they travel. -/
def Outbound.pathBytes (o : Outbound) : Bytes :=
  Utf8.encode (o.url.target.takeWhile (· ≠ '?'))

namespace Request

/-! ## The address of a path -/

/-- The characters of a path that are not escaped inside an address. -/
def isKept (c : Char) : Bool := !(c = '\\' || c = '?' || c = '#')

theorem escapePath_eq_encode (path : Text) : escapePath path = Percent.encode isKept path := by
  rw [escapePath, Percent.encode]
  refine congrArg (path.flatMap ·) (funext fun c ↦ ?_)
  rw [isKept]
  cases (c = '\\' || c = '?' || c = '#' : Bool) <;> rfl

theorem keepsEscapes_isKept : Percent.KeepsEscapes isKept :=
  Percent.keepsEscapes_of_ascii (by decide)

theorem isNormal_escapePath {path : Text} (h : Path.IsNormal path) :
    Path.IsNormal (escapePath path) := by
  rw [escapePath_eq_encode]
  exact h.encode (by decide)

/-- Escaping makes no control characters. -/
theorem isControl_escapePath {path : Text} (h : ∀ c ∈ path, Url.isControl c = false) :
    ∀ c ∈ escapePath path, Url.isControl c = false := by
  intro d hd
  obtain ⟨c, hc, hmem⟩ := List.mem_flatMap.1 hd
  split at hmem
  · rcases Percent.mem_escapeChar hmem with rfl | hplain
    · decide
    · exact Url.isControl_of_isUnreserved hplain
  · rw [List.mem_singleton] at hmem
    exact hmem ▸ h c hc

/-- What an address leaves out are control characters. -/
theorem address_of_printable {r : Request} (hrooted : r.path.head? = some '/')
    (h : ∀ c ∈ r.path, Url.isControl c = false) : r.address = escapePath r.path := by
  rw [address_eq hrooted, List.filter_eq_self.2 fun c hc ↦ ?_]
  have hc := h c hc
  rw [isLeftOut, Bool.not_eq_true', Bool.or_eq_false_iff, Bool.or_eq_false_iff]
  refine ⟨⟨?_, ?_⟩, ?_⟩
  all_goals
    rw [beq_eq_false_iff_ne]
    rintro rfl
    exact absurd hc (by decide)

namespace IsTidy

variable {r : Request} (h : r.IsTidy)
include h

theorem encode_path : Utf8.encode r.path = Percent.unescape r.pathBytes := by
  obtain ⟨t, ht⟩ := h.pathText
  rw [path, ← ht, Utf8.decodeLossy_encode]

theorem reachesGate : r.ReachesGate where
  unbroken := fun hmem ↦ absurd (h.printable _ (List.dropLast_subset _ hmem)) (by decide)
  queryText := h.queryText

theorem isWellFormed : r.IsWellFormed where
  gets := h.gets
  rooted := h.rooted
  reachesGate := h.reachesGate
  printable := address_of_printable h.rooted.path h.printable ▸ isControl_escapePath h.printable
  address_short := h.address_short
  query_short := h.query_short

/-- **The path that is asked for stands for what the path of the request stands for twice over.** -/
theorem unescape_pathAsked {u₀ : Url} {o : Outbound} (ho : o.url = u₀.under r.address r.params) :
    Percent.unescape o.pathBytes = Percent.unescape (Percent.unescape r.pathBytes) := by
  obtain ⟨rest, hrest⟩ := List.head?_eq_some_iff.1 (head_address h.rooted.path)
  have hpath : o.url.path = Percent.encode Percent.pathSafe (escapePath r.path) := by
    rw [ho, Url.under, show Url.pathFor r.address = r.address by rw [hrest]; rfl,
      address_of_printable h.rooted.path h.printable,
      Path.normalise_of_isNormal (isNormal_escapePath h.normal)]
  have hcons : ∃ rest', o.url.path = '/' :: rest' := by
    rw [hpath, ← address_of_printable h.rooted.path h.printable, hrest,
      Percent.encode_cons_of_safe (by decide)]
    exact ⟨_, rfl⟩
  have hasked : o.url.target.takeWhile (· ≠ '?') = o.url.path := by
    have hkept : ∀ c ∈ o.url.path, decide (c ≠ '?') = true := by
      intro c hc
      refine decide_eq_true ?_
      rintro rfl
      exact Percent.question_notMem_encode _ (hpath ▸ hc)
    obtain ⟨rest', hrest'⟩ := hcons
    rw [Url.target, show Url.pathFor o.url.path = o.url.path by rw [hrest']; rfl,
      List.takeWhile_append_of_pos hkept]
    cases o.url.query <;> simp
  rw [Outbound.pathBytes, hasked, hpath, Percent.unescape_encode Percent.keepsEscapes_pathSafe,
    escapePath_eq_encode, Percent.unescape_encode keepsEscapes_isKept, h.encode_path]

end IsTidy
end Request

/-! ## Main statement -/

namespace App

/-- **A tidy request that gets no injected error asks for its path, unless escapes are left in
it.**  One request is made to the backend, if the root names a host to which requests can be made
and the client for the backend is open.  The path that it asks for stands for the path of the
request exactly if nothing in that path is an escape itself. -/
theorem asks_for_path {a : App} {s : State} {r : Request} {u₀ : Url} (w : Surroundings)
    (hroot : Url.parse a.config.backendRoot.toList = .ok u₀) (habs : u₀.isAbsolute = true)
    (hr : r.IsTidy) (hturn : a.decider.decision s.asked = false) :
    let x := (a.serve s r w).exchange
    ((∃ o, x.outbound = [o]) ↔ s.backendOpen = true ∧ u₀.IsAddressable) ∧
      Utf8.decode (Percent.unescape r.pathBytes) = .ok r.path ∧
      ∀ o ∈ x.outbound, x.outbound = [o] ∧
        Percent.unescape o.pathBytes = Percent.unescape (Percent.unescape r.pathBytes) ∧
        (Utf8.decode (Percent.unescape o.pathBytes) = .ok r.path ↔
          Percent.hasEscape (Percent.unescape r.pathBytes) = false) := by
  have hreceive : a.receive s.enter.asked r = .counted (s.asked + 1) false :=
    hturn ▸ receive_of_reachesGate s.asked hr.rooted.path hr.reachesGate
  have houtbound : (a.serve s r w).exchange.outbound =
      (a.forward s r w.backend).outbound := by
    rw [serve_outbound, handle_of_counted w.backend hreceive]
    rfl
  intro x
  rw [show x.outbound = _ from houtbound]
  refine ⟨?_, Utf8.decode_eq_ok_iff.2 hr.encode_path, fun o ho ↦ ?_⟩
  · rw [outbound_forward_iff, Relay.handle_sends_iff w.backend hroot habs]
    exact ⟨fun h ↦ ⟨h.1, h.2.2.2⟩, fun h ↦ ⟨h.1, hr.isWellFormed.acceptable, hr.gets, h.2⟩⟩
  · obtain ⟨o', ho', hurl'⟩ := exists_of_mem_outbound ho
    obtain ⟨hone, hurl⟩ := Relay.url_of_mem_outbound hroot habs ho'
    have hasked := hr.unescape_pathAsked (hurl'.symm.trans hurl)
    refine ⟨?_, hasked, ?_⟩
    · obtain ⟨o'', ho''⟩ := outbound_forward_iff.2 ⟨o', hone⟩
      rw [ho''] at ho ⊢
      rw [List.mem_singleton.1 ho]
    rw [Utf8.decode_eq_ok_iff, hr.encode_path, hasked, eq_comm, Percent.unescape_eq_self_iff]

/-- Escaped separators, and an escaped percent sign that begins no escape, stay in the path. -/
theorem escaped_separators_kept :
    let r : Request := ⟨"GET", word "/a%3Fb%23%25/%C3%A9", []⟩
    let x := (alternating.serve { State.initial with asked := 1 } r .calm).exchange
    r.IsTidy ∧ r.path = "/a?b#%/é".toList ∧
      ∃ o, x.outbound = [o] ∧ Utf8.decode (Percent.unescape o.pathBytes) = .ok r.path := by
  have hr : Request.IsTidy ⟨"GET", word "/a%3Fb%23%25/%C3%A9", []⟩ := {
    gets := by decide
    rooted := by decide
    pathText := ⟨"/a?b#%/é".toList, by decide⟩
    printable := forall_of_all (by decide)
    normal := forall_of_all (by decide)
    queryText := ⟨[], by decide⟩
    address_short := by decide
    query_short := by decide }
  have hroot : Url.parse alternating.config.backendRoot.toList =
      .ok ⟨"http".toList, [], "backend.test".toList, none, [], none, none⟩ := rfl
  obtain ⟨hone, -, hpath⟩ :=
    asks_for_path (s := { State.initial with asked := 1 }) .calm hroot rfl hr rfl
  obtain ⟨o, ho⟩ := hone.2 ⟨rfl, ⟨_, rfl⟩, ⟨_, rfl⟩⟩
  exact ⟨hr, by decide, o, ho,
    (hpath o (ho ▸ List.mem_singleton_self o)).2.2.2 (by decide)⟩

/-- **An escaped percent sign with two hexadecimal digits after it does not stay in the path**: the
path is `/a%41`, but what the backend is asked for stands for `/aA`. -/
theorem escaped_percent_lost :
    let r : Request := ⟨"GET", word "/a%2541", []⟩
    let x := (alternating.serve { State.initial with asked := 1 } r .calm).exchange
    r.IsTidy ∧ r.path = "/a%41".toList ∧ alternating.decider.decision 1 = false ∧
      x.outbound.map Outbound.pathBytes = [word "/a%41"] ∧
      Utf8.decode (Percent.unescape (word "/a%41")) = .ok "/aA".toList := by
  refine ⟨?_, by decide, rfl, rfl, Utf8.decode_eq_ok_iff.2 (by decide)⟩
  exact {
    gets := by decide
    rooted := by decide
    pathText := ⟨"/a%41".toList, by decide⟩
    printable := forall_of_all (by decide)
    normal := forall_of_all (by decide)
    queryText := ⟨[], by decide⟩
    address_short := by decide
    query_short := by decide }

end App
end InjectingProxy
