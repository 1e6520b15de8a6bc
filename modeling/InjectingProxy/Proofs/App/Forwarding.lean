import InjectingProxy.Proofs.App.Address
import InjectingProxy.Proofs.App.Counting
import InjectingProxy.Proofs.Relay

/-!
# Requests that are forwarded and answered

A well-formed request to get something asks for an address that there is below every absolute root
(`Request.IsWellFormed.acceptable`).  So it is relayed wherever the backend can be reached and
answers (`App.forward_of_isWellFormed`).
-/

set_option autoImplicit false

namespace InjectingProxy

/-- A request to get something whose target can be passed on: it comes to the gate, its address has
no control characters, and neither address nor query is too long. -/
structure Request.IsWellFormed (r : Request) : Prop where
  gets : Relay.isForwarded r.method = true
  rooted : r.IsRooted
  reachesGate : r.ReachesGate
  printable : ∀ c ∈ r.address, Url.isControl c = false
  address_short : r.address.length ≤ Url.maxLength
  query_short : (Form.encode (Form.group r.params)).length ≤ Url.maxLength

/-- The backend answers, and its answer points nowhere else. -/
def Backend.IsHealthy (b : Backend) : Prop := ∃ a : Answer, b = .answers a ∧ a.PointsNowhere

/-- The root of a configuration names a host to which requests can be made. -/
structure Config.Reaches (config : Config) (u₀ : Url) : Prop where
  root : Url.parse config.backendRoot.toList = .ok u₀
  absolute : u₀.isAbsolute = true
  addressable : u₀.IsAddressable
  unmistaken : u₀.misreading? = none

namespace Request

/-- The first slash of a path is kept. -/
theorem head_address {r : Request} (h : r.path.head? = some '/') : r.address.head? = some '/' := by
  obtain ⟨rest, hrest⟩ := List.head?_eq_some_iff.1 h
  rw [address_eq h, hrest]
  rfl

theorem IsWellFormed.acceptable {r : Request} (h : r.IsWellFormed) :
    Url.Acceptable r.address r.params where
  rooted := .inr (head_address h.rooted.path)
  path_short := h.address_short
  path_plain := fun c hc ↦
    ⟨h.printable c hc, endsPart_of_mem_escapePath c (address_eq h.rooted.path ▸ hc)⟩
  query_short := h.query_short

end Request

theorem Outbound.withCookies_url (o : Outbound) (value : Option Bytes) :
    (o.withCookies value).url = o.url := by
  cases value <;> rfl

namespace App

/-- Cookies change nothing about how many requests are made, and nothing about their addresses. -/
theorem outbound_forward_iff {a : App} {s : State} {r : Request} {b : Backend} :
    (∃ o, (a.forward s r b).outbound = [o]) ↔
      ∃ o, (Relay.handle a.config.backendRoot.toList s.backendOpen r.method r.address r.params
        b).outbound = [o] := by
  constructor
  · rintro ⟨o, ho⟩
    obtain ⟨o', ho', -⟩ := List.map_eq_singleton_iff.1 ho
    exact ⟨o', ho'⟩
  · rintro ⟨o, ho⟩
    exact ⟨_, congrArg (List.map _) ho⟩

theorem exists_of_mem_outbound {a : App} {s : State} {r : Request} {b : Backend} {o : Outbound}
    (h : o ∈ (a.forward s r b).outbound) :
    ∃ o' ∈ (Relay.handle a.config.backendRoot.toList s.backendOpen r.method r.address r.params
      b).outbound, o'.url = o.url := by
  obtain ⟨o', ho', rfl⟩ := List.mem_map.1 h
  exact ⟨o', ho', (o'.withCookies_url _).symm⟩

/-- **A well-formed request to a healthy backend is relayed**, with one request to the backend. -/
theorem forward_of_isWellFormed {a : App} {u₀ : Url} (hsite : a.config.Reaches u₀) {s : State}
    (hopen : s.backendOpen = true) {r : Request} (hr : r.IsWellFormed) {b : Backend}
    (hb : b.IsHealthy) :
    ∃ answer o, (a.forward s r b).result = .ok (.relayed answer) ∧
      (a.forward s r b).outbound = [o] ∧ (a.forward s r b).recorded = [.forwardedOk] := by
  obtain ⟨answer, rfl, hanswer⟩ := hb
  let c : Relay.Call := ⟨r.method, r.address, r.params, .answers answer⟩
  have hsent : c.IsSent a.config.backendRoot.toList :=
    ⟨⟨_, (Url.build_eq_ok_iff hsite.root hsite.absolute).2 ⟨hr.acceptable, rfl⟩⟩, hr.gets⟩
  have hsettled : c.Settled a.config.backendRoot.toList := by
    refine Relay.Call.settled_of_not_defeats hsite.root hsite.absolute (.answers hanswer) ?_
    rintro - (h | ⟨-, m, hm⟩)
    · exact h hsite.addressable
    · exact nomatch hsite.unmistaken.symm.trans hm
  obtain ⟨hresult, hrecorded⟩ := hsettled.answered answer hsent rfl
  obtain ⟨o, houtbound, -⟩ := hsettled.sent hsent
  rw [forward, hopen]
  exact ⟨answer, _, hresult, congrArg (List.map _) houtbound, hrecorded⟩

end App
end InjectingProxy
