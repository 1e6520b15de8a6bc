import Mathlib.Data.List.Basic
import InjectingProxy.Proofs.Url.Build

/-!
# Parameters that reach the backend

The query of an address below a root is read as the parameters that it was made of, with equal keys
brought together (`Url.build_keeps_parameters`).  Three things are behind this.

* A query that was encoded is decoded to what it was made of (`Form.decode_encode`).  Keys and
  values hold no separators after they have been encoded, and each of them is read back on its own.
* An encoded query holds safe characters only, so that it is not changed when it becomes part of an
  address (`Form.encode_safe`).
* Bringing equal keys together loses nothing and adds nothing.  It keeps the order of the keys and
  the order of the values of each key (`Form.group_groups`), and is the only way to do so
  (`Form.groups_iff`).
-/

set_option autoImplicit false

namespace InjectingProxy
namespace Form

/-! ## Reading a query back -/

theorem blanksForPluses_append (s t : Text) :
    blanksForPluses (s ++ t) = blanksForPluses s ++ blanksForPluses t :=
  List.map_append

/-- A text without plus signs is kept. -/
theorem blanksForPluses_of_none {t : Text} (h : '+' ∉ t) : blanksForPluses t = t := by
  refine (List.map_congr_left fun c hc ↦ if_neg ?_).trans t.map_id
  rintro rfl
  exact h hc

/-- A part that was encoded stands for the bytes of its text.  A plus sign of the text has become an
escape, so that only those that were blanks are taken for blanks. -/
theorem unescape_encodePart (t : Text) :
    Percent.unescape (Utf8.encode (blanksForPluses (encodePart t))) = Utf8.encode t := by
  -- a character that stands for itself at the front
  have hself {c : Char} (hmark : c ≠ '%') (rest : Text) :
      Percent.unescape (Utf8.encode (c :: rest)) =
        Utf8.encodeChar c ++ Percent.unescape (Utf8.encode rest) :=
    Percent.unescape_append (Percent.mark_notMem_encodeChar hmark) (Utf8.encode rest)
  induction t with
  | nil => rfl
  | cons c t ih =>
    have hbytes : Utf8.encode (c :: t) = Utf8.encodeChar c ++ Utf8.encode t := rfl
    rw [encodePart, List.flatMap_cons, ← encodePart, blanksForPluses_append, hbytes, ← ih]
    split
    · rename_i hc
      have hplus : c ≠ '+' := by rintro rfl; exact absurd hc (by decide)
      have hmark : c ≠ '%' := by rintro rfl; exact absurd hc (by decide)
      rw [blanksForPluses_of_none fun h ↦ hplus (List.mem_singleton.1 h).symm,
        List.singleton_append, hself hmark]
    · split
      · rename_i hblank
        subst hblank
        exact hself (by decide) _
      · have hplus : '+' ∉ Percent.escapeChar c := fun h ↦
          (Percent.mem_escapeChar h).elim (by decide) (by decide)
        rw [blanksForPluses_of_none hplus, Utf8.encode_append, Percent.escapeChar,
          Percent.unescape_escapeBytes]

/-- **A key or value is read back.** -/
theorem decodePart_encodePart (t : Text) : decodePart (encodePart t) = t := by
  rw [decodePart, Percent.decode, unescape_encodePart, Utf8.decodeLossy_encode]

theorem not_separator_of_mem_encodePart {t : Text} {c : Char} (h : c ∈ encodePart t) :
    c ≠ '&' ∧ c ≠ '=' := by
  rcases mem_encodePart h with rfl | rfl | h
  · decide
  · decide
  · constructor <;> (rintro rfl; exact absurd h (by decide))

theorem not_ampersand_of_mem_encodeParameter (p : Parameter) :
    ∀ c ∈ encodeParameter p, (c == '&') = false := by
  refine List.forall_mem_append.2 ⟨fun c hc ↦ ?_, List.forall_mem_cons.2 ⟨by decide, fun c hc ↦ ?_⟩⟩
  all_goals exact beq_eq_false_iff_ne.2 (not_separator_of_mem_encodePart hc).1

/-- A parameter is cut at the equals sign after its key. -/
theorem cut_encodeParameter (p : Parameter) :
    Text.cut (· == '=') (encodeParameter p) = (encodePart p.1, some (encodePart p.2)) :=
  Text.cut_append
    (fun _ hc ↦ beq_eq_false_iff_ne.2 (not_separator_of_mem_encodePart hc).2) rfl _

/-- **The parameters of an encoded query are those it was made of**, empty ones included. -/
theorem decode_encode (ps : List Parameter) : decode (encode ps) = ps := by
  have hread (p : Parameter) :
      (if (encodeParameter p).isEmpty then none
        else some (decodePart (Text.cut (· == '=') (encodeParameter p)).1,
          decodePart ((Text.cut (· == '=') (encodeParameter p)).2.getD []))) = some p := by
    have hne : (encodeParameter p).isEmpty = false :=
      List.isEmpty_eq_false_iff.2 (List.append_ne_nil_of_right_ne_nil _ (List.cons_ne_nil _ _))
    rw [hne, cut_encodeParameter]
    simp only [Bool.false_eq_true, if_false, Option.getD_some, decodePart_encodePart]
  cases ps with
  | nil => rfl
  | cons p ps =>
    have hparts : (p :: ps).map encodeParameter ≠ [] := List.cons_ne_nil _ _
    rw [decode, encode, Text.pieces_join hparts, List.filterMap_map]
    · exact (congrArg (List.filterMap · (p :: ps)) (funext hread)).trans List.filterMap_some
    · intro part hpart
      obtain ⟨q, -, rfl⟩ := List.mem_map.1 hpart
      exact not_ampersand_of_mem_encodeParameter q

/-- An encoded query is not encoded again. -/
theorem encode_safe {ps : List Parameter} : ∀ c ∈ encode ps, Percent.querySafe c = true := by
  intro c hc
  rcases encode_chars hc with rfl | rfl | rfl | rfl | h
  · decide
  · decide
  · decide
  · decide
  · obtain ⟨hleast, hgreatest⟩ := Percent.toNat_of_isUnreserved h
    have hends : " \"#<>".toList.contains c = false := by
      refine Bool.eq_false_iff.2 fun hmem ↦ ?_
      have hnone : ∀ d ∈ " \"#<>".toList, Percent.isUnreserved d = false :=
        forall_of_all (by decide)
      rw [hnone c (List.contains_iff_mem.1 hmem)] at h
      cases h
    rw [Percent.querySafe, hends, Percent.isPrintableAscii, Bool.not_false, Bool.and_true,
      Bool.and_eq_true]
    exact ⟨decide_eq_true (by omega), decide_eq_true hgreatest⟩

/-! ## Equal keys brought together -/

section Group

variable {p : Parameter} {ps qs : List Parameter} {k : Text}

theorem keys_cons (p : Parameter) (ps : List Parameter) :
    keys (p :: ps) = p.1 :: keys (ps.filter fun q ↦ !q.1 == p.1) := by
  rw [keys, List.map_cons, List.eraseDups_cons, List.filter_map]
  rfl

theorem mem_keys : k ∈ keys ps ↔ ∃ p ∈ ps, p.1 = k := by
  rw [keys, List.mem_eraseDups, List.mem_map]

/-- The parameters with the first key come first, and the others are grouped on their own. -/
theorem group_cons (p : Parameter) (ps : List Parameter) :
    group (p :: ps) =
      (p :: ps.filter fun q ↦ q.1 == p.1) ++ group (ps.filter fun q ↦ !q.1 == p.1) := by
  have hpos : (p :: ps).filter (fun q ↦ q.1 == p.1) = p :: ps.filter fun q ↦ q.1 == p.1 :=
    List.filter_cons_of_pos (beq_self_eq_true p.1)
  rw [group, keys_cons, List.flatMap_cons, hpos]
  refine congrArg (fun rest ↦ _ ++ List.flatten rest) (List.map_congr_left fun k hk ↦ ?_)
  -- no later key is the first one
  obtain ⟨q, hq, rfl⟩ := mem_keys.1 hk
  have hne : (q.1 == p.1) = false := by simpa using (List.mem_filter.1 hq).2
  have hfirst : (p :: ps).filter (fun r ↦ r.1 == q.1) = ps.filter fun r ↦ r.1 == q.1 :=
    List.filter_cons_of_neg fun h ↦ beq_eq_false_iff_ne.1 hne (beq_iff_eq.1 h).symm
  rw [hfirst, List.filter_filter]
  refine List.filter_congr fun r _ ↦ ?_
  by_cases hr : r.1 = q.1
  · rw [hr, beq_self_eq_true, hne]
    rfl
  · rw [beq_eq_false_iff_ne.2 hr, Bool.false_and]

/-- A fact about grouped parameters is proved from the parameters without their first key. -/
theorem group_induction {P : List Parameter → Prop} (nil : P [])
    (cons : ∀ p ps, P (ps.filter fun q ↦ !q.1 == p.1) → P (p :: ps)) : ∀ ps, P ps
  | [] => nil
  | p :: ps => cons p ps (group_induction nil cons _)
termination_by ps => ps.length
decreasing_by exact Nat.lt_succ_of_le (List.length_filter_le _ _)

/-- **Nothing is lost or doubled.** -/
theorem group_perm (ps : List Parameter) : (group ps).Perm ps := by
  induction ps using group_induction with
  | nil => exact .nil
  | cons p ps ih =>
    rw [group_cons, List.cons_append]
    exact ((ih.append_left _).trans (List.filter_append_perm _ ps)).cons p

theorem mem_group : p ∈ group ps ↔ p ∈ ps := (group_perm ps).mem_iff

/-- **The values of a key keep their order.** -/
theorem filter_group (k : Text) (ps : List Parameter) :
    (group ps).filter (fun p ↦ p.1 == k) = ps.filter fun p ↦ p.1 == k := by
  induction ps using group_induction with
  | nil => rfl
  | cons p ps ih =>
    rw [group_cons, List.filter_append, ih, List.filter_filter]
    by_cases hk : p.1 = k
    · have hnone : (ps.filter fun q ↦ (q.1 == k) && !q.1 == p.1) = [] :=
        List.filter_eq_nil_iff.2 fun q _ ↦ by simp [hk]
      rw [hnone, List.append_nil, List.filter_cons_of_pos (by simpa using hk),
        List.filter_cons_of_pos (by simpa using hk), List.filter_filter, hk]
      simp only [Bool.and_self]
    · have hall : (ps.filter fun q ↦ (q.1 == k) && !q.1 == p.1) = ps.filter fun q ↦ q.1 == k := by
        refine List.filter_congr fun q _ ↦ ?_
        by_cases hq : q.1 = k
        · simp [hq, Ne.symm hk]
        · simp [hq]
      have hfirst : (p :: ps.filter fun q ↦ q.1 == p.1).filter (fun q ↦ q.1 == k) = [] := by
        refine List.filter_eq_nil_iff.2 (List.forall_mem_cons.2 ⟨by simpa using hk, fun q hq ↦ ?_⟩)
        rw [beq_iff_eq.1 (List.mem_filter.1 hq).2]
        simpa using hk
      rw [hall, hfirst, List.nil_append, List.filter_cons_of_neg (by simpa using hk)]

/-- **The keys keep their order.** -/
theorem keys_group (ps : List Parameter) : keys (group ps) = keys ps := by
  induction ps using group_induction with
  | nil => rfl
  | cons p ps ih =>
    have hfirst : ((ps.filter fun q ↦ q.1 == p.1).filter fun q ↦ !q.1 == p.1) = [] := by
      rw [List.filter_filter]
      exact List.filter_eq_nil_iff.2 fun q _ ↦ by simp
    have hothers : (group (ps.filter fun q ↦ !q.1 == p.1)).filter (fun q ↦ !q.1 == p.1) =
        group (ps.filter fun q ↦ !q.1 == p.1) :=
      List.filter_eq_self.2 fun q hq ↦ (List.mem_filter.1 (mem_group.1 hq)).2
    rw [group_cons, List.cons_append, keys_cons, List.filter_append, hfirst, hothers,
      List.nil_append, ih, keys_cons]

/-! ## Lists whose equal keys are together -/

/-- Between two parameters with one key there are only parameters with this key. -/
def IsGrouped (ps : List Parameter) : Prop :=
  ∀ p q r, List.Sublist [p, q, r] ps → p.1 = r.1 → q.1 = p.1

theorem IsGrouped.sublist (h : IsGrouped ps) (hsub : qs.Sublist ps) : IsGrouped qs :=
  fun p q r hmem ↦ h p q r (hmem.trans hsub)

/-- If no other key comes before `k`, then the parameters with this key come first. -/
theorem filter_append_of_first
    (h : ∀ q r, List.Sublist [q, r] ps → r.1 = k → q.1 = k) :
    (ps.filter fun q ↦ q.1 == k) ++ (ps.filter fun q ↦ !q.1 == k) = ps := by
  induction ps with
  | nil => rfl
  | cons q ps ih =>
    by_cases hq : q.1 = k
    · rw [List.filter_cons_of_pos (by simpa using hq), List.filter_cons_of_neg (by simpa using hq),
        List.cons_append, ih fun r s hsub ↦ h r s (hsub.trans (List.sublist_cons_self q ps))]
    · have hnone : ∀ r ∈ q :: ps, ¬ (r.1 == k) = true := by
        refine List.forall_mem_cons.2 ⟨by simpa using hq, fun r hr hk ↦ ?_⟩
        exact hq (h q r (.cons_cons q (List.singleton_sublist.2 hr)) (beq_iff_eq.1 hk))
      rw [List.filter_eq_nil_iff.2 hnone, List.nil_append]
      exact List.filter_eq_self.2 fun r hr ↦ by rw [Bool.eq_false_iff.2 (hnone r hr)]; rfl

/-- **A list whose equal keys are together is left as it is.** -/
theorem group_of_isGrouped (h : IsGrouped ps) : group ps = ps := by
  induction ps using group_induction with
  | nil => rfl
  | cons p ps ih =>
    have hrest : IsGrouped (ps.filter fun q ↦ !q.1 == p.1) :=
      h.sublist (List.filter_sublist.trans (List.sublist_cons_self p ps))
    have hfirst : ∀ q r, List.Sublist [q, r] ps → r.1 = p.1 → q.1 = p.1 := fun q r hsub hr ↦
      h p q r (hsub.cons_cons p) hr.symm
    rw [group_cons, ih hrest, List.cons_append, filter_append_of_first hfirst]

theorem IsGrouped.append (hp : IsGrouped ps) (hq : IsGrouped qs)
    (hne : ∀ p ∈ ps, ∀ q ∈ qs, p.1 ≠ q.1) : IsGrouped (ps ++ qs) := by
  intro a b c hsub hkey
  obtain ⟨l₁, l₂, hsplit, h₁, h₂⟩ := List.sublist_append_iff.1 hsub
  -- the three are on one side, as the first and the last of them are
  cases l₁ with
  | nil => exact hq a b c (hsplit ▸ h₂) hkey
  | cons x l₁ =>
    obtain ⟨rfl, -⟩ := List.cons.inj hsplit
    rcases List.eq_nil_or_concat l₂ with rfl | ⟨l₂, y, rfl⟩
    · exact hp a b c (by rwa [hsplit, List.append_nil]) hkey
    · have hends : [a, b] ++ [c] = (a :: l₁ ++ l₂) ++ [y] := hsplit.trans (by simp)
      cases (List.append_inj' hends rfl).2
      exact absurd hkey (hne a (h₁.subset List.mem_cons_self) c (h₂.subset (by simp)))

theorem isGrouped_of_eq_key (h : ∀ p ∈ ps, p.1 = k) : IsGrouped ps := fun p q r hsub _ ↦
  (h q (hsub.subset (by simp))).trans (h p (hsub.subset (by simp))).symm

/-- Grouped parameters have equal keys together. -/
theorem isGrouped_group (ps : List Parameter) : IsGrouped (group ps) := by
  induction ps using group_induction with
  | nil => exact isGrouped_of_eq_key (k := []) nofun
  | cons p ps ih =>
    have hfirst : ∀ q ∈ p :: ps.filter fun q ↦ q.1 == p.1, q.1 = p.1 :=
      List.forall_mem_cons.2 ⟨rfl, fun q hq ↦ beq_iff_eq.1 (List.mem_filter.1 hq).2⟩
    rw [group_cons]
    refine (isGrouped_of_eq_key hfirst).append ih fun q hq r hr heq ↦ ?_
    have hne : r.1 ≠ p.1 := by simpa using (List.mem_filter.1 (mem_group.1 hr)).2
    exact hne (heq.symm.trans (hfirst q hq))

/-- Parameters in which those of another list have been brought together by their keys: nothing is
lost or doubled, keys come in the order of their first occurrence, and the values of a key in the
order that they have had. -/
structure Groups (qs ps : List Parameter) : Prop where
  perm : qs.Perm ps
  keys : Form.keys qs = Form.keys ps
  values : ∀ k, (qs.filter fun q ↦ q.1 == k) = ps.filter fun p ↦ p.1 == k
  together : IsGrouped qs

/-- **There is one way to bring equal keys together.** -/
theorem groups_iff : Groups qs ps ↔ qs = group ps := by
  constructor
  · intro h
    rw [← group_of_isGrouped h.together, group, h.keys]
    exact congrArg List.flatten (List.map_congr_left fun k _ ↦ h.values k)
  · rintro rfl
    exact ⟨group_perm ps, keys_group ps, fun k ↦ filter_group k ps, isGrouped_group ps⟩

/-- **Exactly the lists whose equal keys are together are left as they are.** -/
theorem group_eq_self_iff : group ps = ps ↔ IsGrouped ps :=
  ⟨fun h ↦ h ▸ isGrouped_group ps, group_of_isGrouped⟩

end Group

end Form

/-! ## The query of an address below a root -/

namespace Url

variable {root path : Text} {params : List Form.Parameter} {u₀ u : Url}

theorem target_eq (u : Url) : u.target = pathFor u.path ++ u.query.elim [] ('?' :: ·) := by
  rw [target]
  cases u.query <;> rfl

/-- The target of an address is cut at the question mark before its query. -/
theorem cut_target (hpath : '?' ∉ pathFor u.path) :
    Text.cut (· == '?') u.target = (pathFor u.path, u.query) := by
  rw [target_eq]
  exact Text.cut_append_elim
    (fun c hc ↦ beq_eq_false_iff_ne.2 (ne_of_mem_of_not_mem hc hpath)) rfl u.query

theorem question_notMem_pathFor {path : Text} (h : '?' ∉ path) : '?' ∉ pathFor path := by
  rw [pathFor]
  split
  · decide
  · exact h

/-- The query of an address below a root is that of the parameters, encoded once. -/
theorem query_under (u₀ : Url) (path : Text) (params : List Form.Parameter) :
    (u₀.under path params).query = queryFor params := by
  rw [under, queryFor]
  split
  · rfl
  · exact congrArg some (Percent.encode_of_safe Form.encode_safe)

/-- **Parameters reach the backend as they are.**  The target of an address below an absolute root
has no query if there are no parameters, whatever query the root has.  Otherwise its query is read
as the parameters with equal keys brought together, and as the parameters themselves exactly if
equal keys have been together before. -/
theorem build_keeps_parameters (hroot : parse root = .ok u₀) (habs : u₀.isAbsolute = true)
    (hbuild : build root path params = .ok u) :
    (params = [] → '?' ∉ u.target) ∧
      (params ≠ [] → ∃ query, (Text.cut (· == '?') u.target).2 = some query ∧
        Form.decode query = Form.group params ∧ Form.Groups (Form.decode query) params ∧
        (Form.decode query = params ↔ Form.IsGrouped params)) := by
  obtain ⟨-, rfl⟩ := (build_eq_ok_iff hroot habs).1 hbuild
  have hpath : '?' ∉ pathFor (u₀.under path params).path :=
    question_notMem_pathFor (Percent.question_notMem_encode _)
  constructor
  · rintro rfl
    have hnone : queryFor [] = none := rfl
    rwa [target_eq, query_under, hnone, Option.elim_none, List.append_nil]
  · intro hne
    have hquery : queryFor params = some (Form.encode (Form.group params)) :=
      if_neg fun hnil ↦ hne (List.isEmpty_iff.1 hnil)
    refine ⟨Form.encode (Form.group params), ?_, ?_⟩
    · rw [cut_target hpath, query_under, hquery]
    · rw [Form.decode_encode]
      exact ⟨rfl, Form.groups_iff.2 rfl, Form.group_eq_self_iff⟩

/-- Separators, plus signs and percent signs of keys and values are kept, and the query of the root
is replaced. -/
theorem odd_parameters_kept :
    let root := "http://backend.test/x?old=1".toList
    let params : List Form.Parameter :=
      [("a&b".toList, "1+1=2%41".toList), ("".toList, "é #\n".toList), ("a&b".toList, "".toList)]
    ∃ u₀ u query, parse root = .ok u₀ ∧ u₀.isAbsolute = true ∧
      build root "/p".toList params = .ok u ∧ (Text.cut (· == '?') u.target).2 = some query ∧
      Form.decode query =
        [("a&b".toList, "1+1=2%41".toList), ("a&b".toList, "".toList),
          ("".toList, "é #\n".toList)] := by
  intro root params
  obtain ⟨u₀, hroot, habs⟩ : ∃ u₀, parse root = .ok u₀ ∧ u₀.isAbsolute = true :=
    ⟨⟨"http".toList, [], "backend.test".toList, none, "/x".toList, some "old=1".toList, none⟩,
      by decide +kernel, rfl⟩
  have hacceptable : Acceptable "/p".toList params :=
    ⟨.inr rfl, by decide, forall_of_all (by decide), by decide +kernel⟩
  have hbuild := (build_eq_ok_iff hroot habs).2 ⟨hacceptable, rfl⟩
  obtain ⟨query, hquery, hdecode, -⟩ :=
    (build_keeps_parameters hroot habs hbuild).2 (List.cons_ne_nil _ _)
  exact ⟨u₀, _, query, hroot, habs, hbuild, hquery, hdecode.trans (by decide +kernel)⟩

end Url
end InjectingProxy
