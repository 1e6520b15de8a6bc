import InjectingProxy.App.Basic

/-!
# Cookies that are kept

The policy of the application's own client allows no domain, so the client keeps no cookie of any
answer (`Cookie.Policy.keep_of_closed`).  A client that has no cookies sends none
(`Cookie.Jar.header?_nil`).  Both together are `Cookie.Keeping.KeepsNothing`, which a client that is
passed in may have as well; then the application never has any cookies (`App.remember_jar`).
-/

set_option autoImplicit false

namespace InjectingProxy

namespace Cookie

/-- A client without cookies keeps none of any answer, and sends none. -/
structure Keeping.KeepsNothing (k : Keeping) : Prop where
  keep : ∀ u a, k.keep [] u a = []
  header : ∀ u, k.header? [] u = none

theorem Jar.header?_nil (u : Url) : Jar.header? [] u = none := rfl

/-- A policy that allows no domain accepts no cookie. -/
theorem Policy.accepts_closed (u : Url) (c : Cookie) (namesDomain : Bool) :
    closed.accepts u c namesDomain = false :=
  rfl

/-- **Under a policy that allows no domain nothing is kept**, whatever an answer sets. -/
theorem Policy.keep_of_closed (jar : Jar) (u : Url) (a : Answer) :
    closed.keeping.keep jar u a = jar := by
  have hnone (set : List (Cookie × Bool)) :
      (set.filter fun c ↦ closed.accepts u c.1 c.2) = [] :=
    List.filter_eq_nil_iff.2 fun c _ ↦ by rw [accepts_closed]; exact Bool.false_ne_true
  rw [keeping]
  dsimp only
  rw [hnone]
  rfl

theorem Policy.closed_keepsNothing : closed.keeping.KeepsNothing where
  keep := keep_of_closed []
  header := Jar.header?_nil

end Cookie

namespace App

variable {a : App}

/-- The client of the application keeps no cookies, and one that is passed in may do so, too. -/
theorem cookies_keepsNothing (h : a.ownsBackend = true ∨ a.passed.KeepsNothing) :
    a.cookies.KeepsNothing := by
  rw [cookies]
  split
  · exact Cookie.Policy.closed_keepsNothing
  · rename_i howned
    exact h.resolve_left howned

/-- If the client keeps nothing, no answer leaves a cookie behind. -/
theorem remember_jar (hcookies : a.cookies.KeepsNothing) {s : State} (hjar : s.jar = [])
    (h : Handling) (b : Backend) : (a.remember s h b).jar = [] := by
  have hfold (given : Answer) (read : List Outbound) :
      read.foldl (fun jar o ↦ a.cookies.keep jar o.url given) [] = [] := by
    induction read with
    | nil => rfl
    | cons o read ih => rw [List.foldl_cons, hcookies.keep, ih]
  cases b with
  | fails f => exact hjar
  | answers given =>
    rw [remember, hjar]
    exact hfold given _

end App
end InjectingProxy
