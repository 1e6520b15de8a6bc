import Mathlib.Data.List.Forall2
import InjectingProxy.Proofs.Url.Destination
import InjectingProxy.Proofs.Url.Parameters

/-!
# Which path is asked for

The path that a request below an absolute root asks for is the inbound path without its dot
segments, with all characters escaped that a path does not hold (`Url.pathAsked_under`).

A path that is meant literally (`Path.IsLiteral`: no percent signs, no dot segments) is asked for
under another spelling, but loses nothing.  What is asked for stands for the path, segment by
segment, so that two such paths are never mistaken for each other (`Url.build_keeps_literal_path`).

Whatever the inbound path, with escapes, lone percent signs and dot segments, the path that is asked
for is a normal form: it begins with a slash, leads nowhere above the root, and asking for it asks
for it again (`Url.build_makes_path_canonical`).  The reason is that it holds safe characters only,
percent signs among them, and that escaping makes no dot segments.
-/

set_option autoImplicit false

namespace InjectingProxy

namespace Percent

/-- What the encoded text stands for: with its escapes undone, it is the text in UTF-8. -/
def StandsFor (encoded t : Text) : Prop := Utf8.decode (unescape (Utf8.encode encoded)) = .ok t

theorem standsFor_iff {encoded t : Text} :
    StandsFor encoded t ↔ unescape (Utf8.encode encoded) = Utf8.encode t :=
  Utf8.decode_eq_ok_iff.trans eq_comm

theorem StandsFor.unique {encoded s t : Text} (hs : StandsFor encoded s) (ht : StandsFor encoded t) :
    s = t :=
  Except.ok.inj (hs.symm.trans ht)

/-- A text without percent signs is encoded to something that stands for it. -/
theorem standsFor_encode {safe : Char → Bool} (hsafe : KeepsEscapes safe) {t : Text}
    (h : '%' ∉ t) : StandsFor (encode safe t) t :=
  standsFor_iff.2 ((unescape_encode hsafe t).trans (unescape_of_unmarked h))

end Percent

namespace Path

/-- The path is meant literally: nothing in it is an escape or a dot segment. -/
structure IsLiteral (path : Text) : Prop where
  unmarked : '%' ∉ path
  normal : IsNormal path

/-- How far below the place where they begin the segments lead. -/
def level : List Text → Int
  | [] => 0
  | s :: rest => (if s = here then 0 else if s = above then -1 else 1) + level rest

/-- Each segment that is no dot segment leads one level down. -/
theorem level_of_forall {parts : List Text} (h : ∀ s ∈ parts, s ≠ here ∧ s ≠ above) :
    level parts = parts.length := by
  induction parts with
  | nil => rfl
  | cons s parts ih =>
    obtain ⟨hhere, habove⟩ := h s List.mem_cons_self
    rw [level, if_neg hhere, if_neg habove, ih fun t ht ↦ h t (List.mem_cons_of_mem s ht),
      List.length_cons, Int.natCast_succ, Int.add_comm]

/-- A path without dot segments does not lead above the place where it begins, not even on the
way. -/
theorem IsNormal.level_nonneg {path : Text} (h : IsNormal path) {walked : List Text}
    (hwalked : walked <+: (segments path).tail) : 0 ≤ level walked := by
  have hmem : ∀ s ∈ walked, s ∈ segments path := fun s hs ↦
    List.mem_of_mem_tail (hwalked.subset hs)
  rw [level_of_forall fun s hs ↦ h s (hmem s hs)]
  exact Int.natCast_nonneg walked.length

end Path

namespace Url

/-- The path that a request to the address asks for: what stands in its target before the query. -/
def pathAsked (u : Url) : Text := (Text.cut (· == '?') u.target).1

variable {root path : Text} {params : List Form.Parameter} {u₀ u : Url}

theorem pathFor_eq_self (h : path ≠ []) : pathFor path = path :=
  if_neg fun hnil ↦ h (List.isEmpty_iff.1 hnil)

theorem pathFor_of_rooted (h : path.head? = some '/') : pathFor path = path :=
  pathFor_eq_self fun hnil ↦ by rw [hnil] at h; cases h

/-- What is asked for is the path of the address, or the top if it has none. -/
theorem pathAsked_under (u₀ : Url) (path : Text) (params : List Form.Parameter) :
    (u₀.under path params).pathAsked =
      pathFor (Percent.encode Percent.pathSafe (Path.normalise (pathFor path))) :=
  congrArg Prod.fst (cut_target (question_notMem_pathFor (Percent.question_notMem_encode _)))

/-- The target consists of the path that is asked for and the query of the parameters. -/
theorem target_under (u₀ : Url) (path : Text) (params : List Form.Parameter) :
    (u₀.under path params).target =
      (u₀.under path params).pathAsked ++ (queryFor params).elim [] ('?' :: ·) := by
  rw [target_eq, query_under, pathAsked_under]
  rfl

/-- The parameters of a query are those it was made for, grouped. -/
theorem decode_queryFor (params : List Form.Parameter) :
    Form.decode ((queryFor params).getD []) = Form.group params := by
  cases params with
  | nil => rfl
  | cons p ps => exact Form.decode_encode (Form.group (p :: ps))

theorem queryFor_eq_iff {params' : List Form.Parameter} :
    queryFor params' = queryFor params ↔ Form.group params' = Form.group params := by
  have hempty (ps : List Form.Parameter) : ps.isEmpty = (Form.group ps).isEmpty :=
    (Form.group_perm ps).isEmpty_eq.symm
  constructor
  · intro h
    rw [← decode_queryFor params', h, decode_queryFor]
  · intro h
    rw [queryFor, queryFor, hempty params', hempty params, h]

/-- A target is cut into the path that is asked for and the query of the parameters. -/
theorem cut_target_under (u₀ : Url) (path : Text) (params : List Form.Parameter) :
    Text.cut (· == '?') (u₀.under path params).target =
      ((u₀.under path params).pathAsked, queryFor params) := by
  have hcut := cut_target (u := u₀.under path params)
    (question_notMem_pathFor (Percent.question_notMem_encode _))
  rw [query_under] at hcut
  rw [pathAsked, hcut]

/-- Targets tell which path is asked for, and which parameters are given. -/
theorem target_under_eq_iff {path' : Text} {params' : List Form.Parameter} :
    (u₀.under path' params').target = (u₀.under path params).target ↔
      (u₀.under path' params').pathAsked = (u₀.under path params).pathAsked ∧
        Form.group params' = Form.group params := by
  rw [← queryFor_eq_iff]
  constructor
  · intro h
    have hcut := cut_target_under u₀ path' params'
    rw [h, cut_target_under, Prod.mk.injEq] at hcut
    exact ⟨hcut.1.symm, hcut.2.symm⟩
  · rintro ⟨hpath, hquery⟩
    rw [target_under, target_under, hpath, hquery]

/-! ## Paths that are meant literally -/

/-- An empty path asks for the top, which is literal, too. -/
theorem isLiteral_pathFor (h : Path.IsLiteral path) : Path.IsLiteral (pathFor path) := by
  rw [pathFor]
  split
  · exact ⟨by decide, forall_of_all (by decide)⟩
  · exact h

/-- A literal path is asked for as it is, with the characters escaped that a path does not hold. -/
theorem pathAsked_of_isLiteral (h : Path.IsLiteral path) :
    (u₀.under path params).pathAsked = Percent.encode Percent.pathSafe (pathFor path) := by
  rw [pathAsked_under, Path.normalise_of_isNormal (isLiteral_pathFor h).normal,
    pathFor_eq_self (Percent.encode_ne_nil (pathFor_ne_nil path))]

theorem standsFor_pathAsked (h : Path.IsLiteral path) :
    Percent.StandsFor (u₀.under path params).pathAsked (pathFor path) := by
  rw [pathAsked_of_isLiteral h]
  exact Percent.standsFor_encode Percent.keepsEscapes_pathSafe (isLiteral_pathFor h).unmarked

/-- So does each of its segments. -/
theorem standsFor_segments (u₀ : Url) (params : List Form.Parameter) (h : Path.IsLiteral path) :
    List.Forall₂ Percent.StandsFor (Path.segments (u₀.under path params).pathAsked)
      (Path.segments (pathFor path)) := by
  have hsegment : ∀ s ∈ Path.segments (pathFor path),
      Percent.StandsFor (Percent.encode Percent.pathSafe s) s := fun s hs ↦
    Percent.standsFor_encode Percent.keepsEscapes_pathSafe fun hmark ↦
      (isLiteral_pathFor h).unmarked (Text.mem_of_mem_pieces hs _ hmark)
  rw [pathAsked_of_isLiteral h, Path.segments_encode (by decide), List.forall₂_map_left_iff,
    List.forall₂_same]
  exact hsegment

/-- **A literal path reaches the backend as it is.**  What is asked for stands for the path, and for
the top if the path is empty.  It has as many slashes as the path, and what is between them stands
for what is between those of the path.  So the targets for two such paths are the same only if the
paths are, or one of them is empty and the other the top. -/
theorem build_keeps_literal_path (hroot : parse root = .ok u₀) (habs : u₀.isAbsolute = true)
    (hliteral : Path.IsLiteral path) (hbuild : build root path params = .ok u) :
    Percent.StandsFor u.pathAsked (pathFor path) ∧
      u.pathAsked.count '/' = (pathFor path).count '/' ∧
      List.Forall₂ Percent.StandsFor (Path.segments u.pathAsked) (Path.segments (pathFor path)) ∧
      ∀ {path' : Text} {params' : List Form.Parameter} {u' : Url}, Path.IsLiteral path' →
        build root path' params' = .ok u' →
        (u'.target = u.target ↔
          pathFor path' = pathFor path ∧ Form.group params' = Form.group params) ∧
        (path ≠ [] → path' ≠ [] → path' ≠ path → u'.target ≠ u.target) := by
  obtain ⟨-, rfl⟩ := (build_eq_ok_iff hroot habs).1 hbuild
  have hsegments := standsFor_segments u₀ params hliteral
  refine ⟨standsFor_pathAsked hliteral, ?_, hsegments, fun {path' params' u'} hliteral' hbuild' ↦ ?_⟩
  · have hlength := hsegments.length_eq
    rw [Path.segments, Path.segments, Text.length_pieces, Text.length_pieces] at hlength
    exact Nat.add_right_cancel hlength
  · obtain ⟨-, rfl⟩ := (build_eq_ok_iff hroot habs).1 hbuild'
    have hpath : (u₀.under path' params').pathAsked = (u₀.under path params).pathAsked ↔
        pathFor path' = pathFor path := by
      refine ⟨fun heq ↦ ?_, fun heq ↦ ?_⟩
      · exact (standsFor_pathAsked hliteral').unique (heq ▸ standsFor_pathAsked hliteral)
      · rw [pathAsked_of_isLiteral hliteral', heq, pathAsked_of_isLiteral hliteral]
    refine ⟨target_under_eq_iff.trans (and_congr_left' hpath), fun hne hne' hdiffer heq ↦ ?_⟩
    have hsame := hpath.1 (target_under_eq_iff.1 heq).1
    rw [pathFor_eq_self hne, pathFor_eq_self hne'] at hsame
    exact hdiffer hsame

/-- A blank, a plus sign and characters beyond ASCII are told apart and kept. -/
theorem spaced_path_kept :
    let root := "http://backend.test".toList
    let path := "/a b//ü<".toList
    ∃ u₀ u u', parse root = .ok u₀ ∧ u₀.isAbsolute = true ∧ Path.IsLiteral path ∧
      build root path [] = .ok u ∧ build root "/a+b//ü<".toList [] = .ok u' ∧
      u.target = "/a%20b//%C3%BC%3C".toList ∧ Percent.StandsFor u.pathAsked path ∧
      u'.target ≠ u.target := by
  intro root path
  let u₀ : Url := ⟨"http".toList, [], "backend.test".toList, none, [], none, none⟩
  have hroot : parse root = .ok u₀ := by decide +kernel
  have hliteral : Path.IsLiteral path := ⟨by decide, forall_of_all (by decide)⟩
  have hliteral' : Path.IsLiteral "/a+b//ü<".toList := ⟨by decide, forall_of_all (by decide)⟩
  have hbuild : build root path [] = .ok (u₀.under path []) := by decide +kernel
  have hbuild' : build root "/a+b//ü<".toList [] = .ok (u₀.under "/a+b//ü<".toList []) := by
    decide +kernel
  obtain ⟨hstands, -, -, hothers⟩ := build_keeps_literal_path hroot rfl hliteral hbuild
  exact ⟨u₀, _, _, hroot, rfl, hliteral, hbuild, hbuild', by decide +kernel, hstands,
    (hothers hliteral' hbuild').2 (List.cons_ne_nil _ _) (List.cons_ne_nil _ _) (by decide)⟩

/-! ## Normal forms -/

/-- What is asked for is a path in its normal form, of safe characters. -/
theorem pathAsked_facts (u₀ : Url) (params : List Form.Parameter)
    (h : path = [] ∨ path.head? = some '/') :
    (u₀.under path params).pathAsked.head? = some '/' ∧
      Path.IsNormal (u₀.under path params).pathAsked ∧
      ∀ c ∈ (u₀.under path params).pathAsked, Percent.pathSafe c = true := by
  have hpathFor : (pathFor path).head? = some '/' := by
    rcases h with rfl | h
    · rfl
    · rw [pathFor_of_rooted h]
      exact h
  obtain ⟨hrooted, hnormal, hsafe⟩ := path_facts (.inr hpathFor)
  rw [pathAsked_under]
  rcases hrooted with hnil | hrooted
  · rw [hnil]
    exact ⟨rfl, forall_of_all (by decide), forall_of_all (by decide)⟩
  · rw [pathFor_of_rooted hrooted]
    exact ⟨hrooted, hnormal, hsafe⟩

/-- **Any path is asked for in a normal form.**  What is asked for begins with a slash, has no dot
segments and leads nowhere above the root.  If it is not too long, then it can be asked for itself,
with the same target. -/
theorem build_makes_path_canonical (hroot : parse root = .ok u₀) (habs : u₀.isAbsolute = true)
    (hbuild : build root path params = .ok u) :
    u.pathAsked.head? = some '/' ∧
      (∀ s ∈ Path.segments u.pathAsked, s ≠ Path.here ∧ s ≠ Path.above) ∧
      (∀ walked, walked <+: (Path.segments u.pathAsked).tail → 0 ≤ Path.level walked) ∧
      (u.pathAsked.length ≤ maxLength ↔
        ∃ v, build root u.pathAsked params = .ok v ∧ v.target = u.target) := by
  obtain ⟨hacceptable, rfl⟩ := (build_eq_ok_iff hroot habs).1 hbuild
  obtain ⟨hhead, hnormal, hsafe⟩ := pathAsked_facts u₀ params hacceptable.rooted
  refine ⟨hhead, hnormal, fun walked hwalked ↦ hnormal.level_nonneg hwalked, fun hshort ↦ ?_, ?_⟩
  · -- normalising and escaping find nothing more to do
    have hagain : (u₀.under (u₀.under path params).pathAsked params).pathAsked =
        (u₀.under path params).pathAsked := by
      rw [pathAsked_under, pathFor_of_rooted hhead,
        Path.normalise_of_isNormal hnormal, Percent.encode_of_safe hsafe,
        pathFor_of_rooted hhead]
    refine ⟨_, (build_eq_ok_iff hroot habs).2 ⟨?_, rfl⟩, ?_⟩
    · exact
        { rooted := .inr hhead
          path_short := hshort
          path_plain := fun c hc ↦
            ⟨isControl_of_isPrintableAscii (Bool.and_eq_true_iff.1 (hsafe c hc)).1,
              endsPart_of_pathSafe (hsafe c hc)⟩
          query_short := hacceptable.query_short }
    · rw [target_under, hagain, ← target_under]
  · rintro ⟨v, hagain, -⟩
    exact ((build_eq_ok_iff hroot habs).1 hagain).1.path_short

/-- Escapes and lone percent signs are kept, one in front of a character beyond ASCII among them. -/
theorem stray_percent_canonical :
    let root := "http://backend.test".toList
    let params : List Form.Parameter := [("k".toList, "%".toList)]
    ∃ u₀ u v, parse root = .ok u₀ ∧ u₀.isAbsolute = true ∧
      build root "//../../%é/./%2e/x/..".toList params = .ok u ∧
      u.pathAsked = "/%%C3%A9/%2e".toList ∧ build root u.pathAsked params = .ok v ∧
      v.target = u.target := by
  intro root params
  let u₀ : Url := ⟨"http".toList, [], "backend.test".toList, none, [], none, none⟩
  have hroot : parse root = .ok u₀ := by decide +kernel
  have hbuild : build root "//../../%é/./%2e/x/..".toList params =
      .ok (u₀.under "//../../%é/./%2e/x/..".toList params) := by decide +kernel
  obtain ⟨-, -, -, hagain⟩ := build_makes_path_canonical hroot rfl hbuild
  obtain ⟨v, hv, htarget⟩ := hagain.1 (by decide +kernel)
  exact ⟨u₀, _, v, hroot, rfl, hbuild, by decide +kernel, hv, htarget⟩

end Url
end InjectingProxy
