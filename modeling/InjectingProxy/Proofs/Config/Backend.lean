import InjectingProxy.Proofs.Config
import InjectingProxy.Proofs.Relay
import InjectingProxy.Proofs.Url.Destination
import InjectingProxy.Proofs.Url.Site

/-!
# What the host of the backend names

The host of the backend is meant as `host[:port]`, and the check of the configuration refuses an
empty one and one with a slash.  This is enough for the root to have no path, but not for the rest:
it has user information, a query or a fragment if the host holds an at sign after its first
character, a question mark or a number sign.

If the host is a site, as it is meant to be, then the root is read as this site, everything below it
goes there, and no credentials are sent (`Config.leads_to_site`).  The check accepts others.  With
characters that a host keeps, they lead to no absolute root.  But a host with a user and a password,
which has an at sign, is accepted as well, and then these are sent with every request
(`Config.user_in_host_sent`).
-/

set_option autoImplicit false

namespace InjectingProxy

namespace Relay

/-- Everything below the root goes to the scheme, the host and the port of an address, without
credentials. -/
structure LeadsTo (root : Text) (u₀ : Url) : Prop where
  builds : ∀ path params, Url.Acceptable path params →
    Url.build root path params = .ok (u₀.under path params)
  sends : ∀ backendOpen method path params b,
    (∃ o, (handle root backendOpen method path params b).outbound = [o]) ↔
      backendOpen = true ∧ Url.Acceptable path params ∧ isForwarded method = true ∧
        u₀.IsAddressable
  arrives : ∀ backendOpen method path params b,
    ∀ o ∈ (handle root backendOpen method path params b).outbound,
      o.url.scheme = u₀.scheme ∧ o.url.host = u₀.host ∧ o.url.port = u₀.port
  bare : ∀ backendOpen method path params b,
    ∀ o ∈ (handle root backendOpen method path params b).outbound,
      o.url.userinfo = [] ∧ ∀ header ∈ o.headers, header.1 ≠ word "authorization"

theorem credentials_of_userinfo {u : Url} (h : u.userinfo = []) : credentials u = [] := by
  rw [credentials, h]
  rfl

theorem not_authorization_of_mem_baseHeaders {u : Url} {site : Bytes} :
    ∀ header ∈ baseHeaders u site, header.1 ≠ word "authorization" := by
  rw [baseHeaders]
  refine List.forall_mem_append.2 ⟨?_, forall_of_all (by decide)⟩
  split
  · exact nofun
  · have hhost : word "host" ≠ word "authorization" := by decide
    exact List.forall_mem_singleton.2 hhost

theorem leadsTo_of_parse {root : Text} {u₀ : Url} (hroot : Url.parse root = .ok u₀)
    (habs : u₀.isAbsolute = true) (huser : u₀.userinfo = []) : LeadsTo root u₀ where
  builds := fun _ _ h ↦ (Url.build_eq_ok_iff hroot habs).2 ⟨h, rfl⟩
  sends := fun _ _ _ _ b ↦ handle_sends_iff b hroot habs
  arrives := fun _ _ _ _ _ o ho ↦ by
    rw [(url_of_mem_outbound hroot habs ho).2]
    exact ⟨rfl, rfl, rfl⟩
  bare := fun _ _ path params _ o ho ↦ by
    obtain ⟨-, site, -, rfl⟩ := eq_of_mem_outbound hroot habs ho
    refine ⟨huser, ?_⟩
    rw [Outbound.signed, credentials_of_userinfo (u := u₀.under path params) huser, List.append_nil]
    exact not_authorization_of_mem_baseHeaders

end Relay

namespace Config

theorem toList_backendRoot (c : Config) : c.backendRoot.toList =
    c.backendScheme.toList ++ ':' :: '/' :: '/' :: c.backendHost.toList := by
  rw [backendRoot, String.toList_append, String.toList_append, List.append_assoc]
  rfl

theorem isScheme_of_web {scheme : String} (h : scheme = "http" ∨ scheme = "https") :
    Url.IsScheme scheme.toList := by
  rcases h with rfl | rfl
  · exact ⟨by decide, forall_of_all (by decide)⟩
  · exact ⟨by decide, forall_of_all (by decide)⟩

/-- A record with a host for the backend. -/
def recordWith (backendHost : String) : Value :=
  .record [("port", .whole 0), ("backend_scheme", .text "http"),
    ("backend_host", .text backendHost), ("error_mod", .whole 2),
    ("error_status", (Status.mk 503 "Internal server error").toValue)]

/-- **A host of the backend that is a site is reached, and nothing else.**  The root of a
configuration that has been read has no path, and only some signs in the host can add more than a
host and a port to it.  If the host is a site, then the root is read as this site unless it is too
long, and everything goes there without credentials.  A host of characters that are kept is a site
if the root is read as an absolute address at all. -/
theorem leads_to_site {record : Value} {c : Config} (hread : ofValue record = .ok c)
    (hscheme : c.backendScheme = "http" ∨ c.backendScheme = "https") :
    (∀ u, Url.parse c.backendRoot.toList = .ok u →
      u.scheme = c.backendScheme.toList ∧ u.path = [] ∧
        (u.userinfo = [] ∧ u.query = none ∧ u.fragment = none ↔
          '@' ∉ c.backendHost.toList.tail ∧ '?' ∉ c.backendHost.toList ∧
            '#' ∉ c.backendHost.toList)) ∧
      (∀ s : Site c.backendScheme.toList, s.text = c.backendHost.toList →
        s.url.isAbsolute = true ∧
          (Url.parse c.backendRoot.toList = .ok s.url ↔
            c.backendRoot.toList.length ≤ Url.maxLength) ∧
          (c.backendRoot.toList.length ≤ Url.maxLength →
            Relay.LeadsTo c.backendRoot.toList s.url)) ∧
      ((∀ d ∈ c.backendHost.toList, Host.IsKept d) →
        ∀ u, Url.parse c.backendRoot.toList = .ok u → u.isAbsolute = true →
          ∃ s : Site c.backendScheme.toList, s.text = c.backendHost.toList ∧ s.url = u) := by
  have hweb := isScheme_of_web hscheme
  obtain ⟨-, hslash⟩ := backendHost_of_ofValue hread
  rw [toList_backendRoot]
  refine ⟨fun u hparse ↦ Url.parse_root hweb hslash hparse, fun s hs ↦ ?_,
    fun hkept u hparse habs ↦ ?_⟩
  · have habs := s.isAbsolute_url hweb.ne_nil
    have hparse := s.parse_root_iff hweb
    rw [hs] at hparse
    exact ⟨habs, hparse, fun hlength ↦ Relay.leadsTo_of_parse (hparse.2 hlength) habs rfl⟩
  · exact Site.exists_of_parse_root hweb hkept hparse (Url.host_ne_of_isAbsolute habs)

/-- A name with capital letters and a port. -/
theorem named_port_reached :
    ∃ c, ofValue (recordWith "Backend.test:8080") = .ok c ∧ c.backendScheme = "http" ∧
      ∃ s : Site c.backendScheme.toList, s.text = c.backendHost.toList ∧
        s.host = "backend.test".toList ∧ s.port = some 8080 ∧
          Url.parse c.backendRoot.toList = .ok s.url ∧
          Relay.LeadsTo c.backendRoot.toList s.url := by
  have hread : ofValue (recordWith "Backend.test:8080") = .ok
    { port := 0, host := "0.0.0.0", backendScheme := "http", backendHost := "Backend.test:8080",
      errorStatus := ⟨503, "Internal server error"⟩, gate := ⟨2, by decide⟩,
      backendTimeout := some 5.0, embedded := false } := rfl
  let s : Site "http".toList :=
    { hostText := "Backend.test".toList
      portText := some "8080".toList
      host := "backend.test".toList
      port := some 8080
      names := .name (by decide) (forall_of_all (by decide)) (by decide)
      port_plain := by
        rintro p ⟨⟩
        exact forall_of_all (by decide)
      port_read := by decide +kernel }
  have hs : s.text = "Backend.test:8080".toList := by decide
  obtain ⟨-, hsites, -⟩ := leads_to_site hread (.inl rfl)
  obtain ⟨-, hparse, hleads⟩ := hsites s hs
  have hlength : "http://Backend.test:8080".toList.length ≤ Url.maxLength := by decide
  exact ⟨_, hread, rfl, s, hs, rfl, rfl, hparse.2 hlength, hleads hlength⟩

/-- **A user and a password in the host pass the check**, and they are sent with every request. -/
theorem user_in_host_sent :
    ∃ c, ofValue (recordWith "me:secret@backend.test") = .ok c ∧ c.backendScheme = "http" ∧
      Url.parse c.backendRoot.toList = .ok ⟨"http".toList, "me:secret".toList,
        "backend.test".toList, none, [], none, none⟩ ∧
      ∀ b, ∃ o, (Relay.handle c.backendRoot.toList true "GET" "/a".toList [] b).outbound = [o] ∧
        (word "authorization", word "Basic bWU6c2VjcmV0") ∈ o.headers := by
  refine ⟨_, rfl, rfl, by decide +kernel, fun b ↦ ?_⟩
  refine ⟨_, (congrArg Handling.outbound (Relay.handle_of_prepare b rfl)).trans
    (Relay.send_outbound _ _ _ _), ?_⟩
  decide +kernel

end Config
end InjectingProxy
