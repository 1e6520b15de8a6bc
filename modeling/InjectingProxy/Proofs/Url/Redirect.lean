import InjectingProxy.Proofs.Url.Destination
import InjectingProxy.Url.Redirect

/-!
# Where relative addresses lead

An address without scheme and authority leads to the server of the address that it is relative to
(`landing`, `join_eq`), one with a host only takes its scheme from there (`join_of_host`).  Paths
are merged segment by segment: the segments of the result are among those of both paths
(`mem_mergeSegments`, `isPlain_joinSegments`), so that what an address leads to is as legible as
what it is relative to (`IsLegible.landing`).
-/

set_option autoImplicit false

namespace InjectingProxy
namespace Url

/-! ## Hosts -/

/-- A host that is shown is not empty. -/
theorem ne_nil_of_displayHost {u : Url} {t : Text} (h : u.displayHost = .ok t) (hne : u.host ≠ []) :
    t ≠ [] := by
  rw [displayHost] at h
  split at h
  · exact Idna.ne_nil_of_decode h
  · cases h
    exact hne

theorem not_isAbsolute_of_authority {u : Url} (h : u.authority = []) : u.isAbsolute = false := by
  rw [isAbsolute, host_eq_nil_of_authority h]
  exact Bool.and_false _

theorem misreading?_of_authority {u : Url} (h : u.authority = []) : u.misreading? = none := by
  rw [misreading?, host_eq_nil_of_authority h]
  rfl

/-! ## Paths relative to a path -/

/-- A segment of a path in its encoded form. -/
def IsSegment (s : Text) : Prop :=
  ∀ c ∈ s, (c == '/') = false ∧ Percent.pathSafe c = true

theorem isSegment_of_mem {path : Text} (h : ∀ c ∈ path, Percent.pathSafe c = true) :
    ∀ s ∈ Path.segments path, IsSegment s :=
  fun _ hs c hc ↦ ⟨Text.not_separator_of_mem_pieces hs c hc, h c (Text.mem_of_mem_pieces hs c hc)⟩

/-- Merged segments are segments of either path. -/
theorem mem_mergeSegments {base path s : Text} (h : s ∈ mergeSegments base path) :
    s ∈ Path.segments base ∨ s ∈ Path.segments path := by
  rw [mergeSegments.eq_def] at h
  split at h
  · exact .inr h
  · dsimp only at h
    have hdirectory : ∀ t ∈ (if (Path.segments base).getLast? == some [] then Path.segments base
        else (Path.segments base).dropLast), t ∈ Path.segments base := by
      intro t ht
      split at ht
      · exact ht
      · exact List.dropLast_subset _ ht
    generalize (if (Path.segments base).getLast? == some [] then Path.segments base
      else (Path.segments base).dropLast) = directory at h hdirectory
    refine (List.mem_append.1 ?_).imp_left (hdirectory s)
    rw [List.mem_append, List.mem_append] at h
    rcases h with (h | h) | h
    · exact List.mem_of_mem_take h
    · exact List.mem_of_mem_drop (List.dropLast_subset _ (List.mem_of_mem_filter h))
    · exact List.mem_of_mem_drop (List.mem_of_getLast? (Option.mem_toList.1 h))

theorem isPlain_pathFor {path : Text} (hnormal : Path.IsNormal path)
    (hchars : ∀ c ∈ path, Percent.pathSafe c = true) :
    Path.IsNormal (pathFor path) ∧ ∀ c ∈ pathFor path, Percent.pathSafe c = true := by
  cases path with
  | nil => exact ⟨hnormal.cons_slash, forall_of_all (by decide)⟩
  | cons c path => exact ⟨hnormal, hchars⟩

/-- Take one more segment after those that are kept, going up or staying at dot segments. -/
def rise (kept : List Text) (segment : Text) : List Text :=
  if segment = Path.above then kept.tail else if segment = Path.here then kept else segment :: kept

theorem joinSegments_eq (parts : List Text) :
    joinSegments parts = pathFor (Text.join ['/']
      (if parts.getLast? = some Path.here ∨ parts.getLast? = some Path.above then
          [] :: parts.foldl rise []
        else parts.foldl rise []).reverse) :=
  rfl

theorem mem_rise {s segment : Text} {kept : List Text} (h : s ∈ rise kept segment) :
    s ∈ kept ∨ s = segment ∧ s ≠ Path.here ∧ s ≠ Path.above := by
  rw [rise] at h
  split at h
  · exact .inl (List.mem_of_mem_tail h)
  rename_i habove
  split at h
  · exact .inl h
  rename_i hhere
  rcases List.mem_cons.1 h with rfl | h
  · exact .inr ⟨rfl, hhere, habove⟩
  · exact .inl h

/-- A path for segments has no dot segments, and no characters but theirs. -/
theorem isPlain_joinSegments {parts : List Text} (h : ∀ s ∈ parts, IsSegment s) :
    Path.IsNormal (joinSegments parts) ∧ ∀ c ∈ joinSegments parts, Percent.pathSafe c = true := by
  have hkept : ∀ s ∈ parts.foldl rise [], IsSegment s ∧ s ≠ Path.here ∧ s ≠ Path.above := by
    intro s hs
    obtain ⟨hpart, hdots⟩ :=
      (Path.mem_foldl (fun _ _ ↦ mem_rise) hs).resolve_left List.not_mem_nil
    exact ⟨h s hpart, hdots⟩
  rw [joinSegments_eq]
  have hall : ∀ s ∈ (if parts.getLast? = some Path.here ∨ parts.getLast? = some Path.above then
      [] :: parts.foldl rise [] else parts.foldl rise []).reverse,
      IsSegment s ∧ s ≠ Path.here ∧ s ≠ Path.above := by
    intro s hs
    rw [List.mem_reverse] at hs
    split at hs
    · rcases List.mem_cons.1 hs with rfl | hs
      · exact ⟨nofun, nofun, nofun⟩
      · exact hkept s hs
    · exact hkept s hs
  refine isPlain_pathFor (Path.isNormal_join (fun s hs c hc ↦ ((hall s hs).1 c hc).1)
    fun s hs ↦ (hall s hs).2) fun c hc ↦ ?_
  rcases Text.mem_join hc with hc | ⟨s, hs, hc⟩
  · rw [List.mem_singleton.1 hc]
    decide
  · exact ((hall s hs).1 c hc).2

/-! ## Addresses relative to an address -/

/-- Where an address without scheme and authority leads to. -/
def landing (base u : Url) : Url :=
  if u.text.isEmpty then base
  else if u.path.isEmpty then
    { base with query := if u.query.isSome then u.query else base.query, fragment := u.fragment }
  else
    let path := joinSegments (mergeSegments base.path u.path)
    { base with
      path := if path.head? == some '/' then path else '/' :: path
      query := u.query, fragment := u.fragment }

theorem join_eq (base : Url) {u : Url} (h : u.authority = []) :
    base.join u = (base.landing u).text := by
  rw [join, landing, h]
  cases u.text.isEmpty with
  | true => rfl
  | false => cases u.path.isEmpty <;> rfl

/-- It leads to the server of the address that it is relative to. -/
theorem landing_eq (base u : Url) :
    ∃ path query fragment, base.landing u = { base with path, query, fragment } := by
  rw [landing]
  split
  · exact ⟨_, _, _, rfl⟩
  split
  · exact ⟨_, _, _, rfl⟩
  · exact ⟨_, _, _, rfl⟩

/-- An address with a host is only given the scheme of the one that it is relative to. -/
theorem join_of_host (base : Url) {u : Url} (h : u.host ≠ []) :
    base.join u = ({ u with scheme := base.scheme } : Url).text := by
  have hauthority : u.authority.isEmpty = false :=
    Bool.eq_false_iff.2 fun hnil ↦ h (host_eq_nil_of_authority (List.isEmpty_iff.1 hnil))
  have htext : u.text.isEmpty = false := by
    simp [text, hauthority]
  rw [join, htext, hauthority]
  rfl

/-- The parts of an address hold safe characters. -/
structure HasSafeParts (u : Url) : Prop where
  path : ∀ c ∈ u.path, Percent.pathSafe c = true
  query : ∀ q ∈ u.query, ∀ c ∈ q, Percent.querySafe c = true
  fragment : ∀ f ∈ u.fragment, ∀ c ∈ f, Percent.fragmentSafe c = true

theorem hasSafeParts_of_parse {t : Text} {u : Url} (h : parse t = .ok u) : u.HasSafeParts := by
  obtain ⟨⟨⟩, -, hparse⟩ := bind_eq_ok.1 h
  obtain ⟨host, port, -, -, -, rfl⟩ := Reference.normalise_eq_ok_iff.1 hparse
  exact
    { path := Percent.safe_of_mem_encode Percent.keepsEscapes_pathSafe
      query := safe_of_mem_map (Percent.keepsEscapes_of_ascii (by decide))
      fragment := safe_of_mem_map (Percent.keepsEscapes_of_ascii (by decide)) }

/-- **What an address without scheme and authority leads to is legible.** -/
theorem IsLegible.landing {base u : Url} (hbase : base.IsLegible) (hu : u.HasSafeParts) :
    (base.landing u).IsLegible := by
  rw [Url.landing]
  split
  · exact hbase
  split
  · refine { hbase with query := ?_, fragment := hu.fragment }
    dsimp only
    split
    · exact hu.query
    · exact hbase.query
  · have hsegments : ∀ s ∈ mergeSegments base.path u.path, IsSegment s := fun s hs ↦
      (mem_mergeSegments hs).elim (isSegment_of_mem hbase.path_chars s)
        (isSegment_of_mem hu.path s)
    obtain ⟨hnormal, hchars⟩ := isPlain_joinSegments hsegments
    generalize joinSegments (mergeSegments base.path u.path) = path at hnormal hchars
    dsimp only
    refine { hbase with path_rooted := ?_, path_normal := ?_, path_chars := ?_
                        query := hu.query, fragment := hu.fragment } <;> dsimp only <;> split
    · rename_i hhead
      exact .inr (beq_iff_eq.1 hhead)
    · exact .inr rfl
    · exact hnormal
    · exact hnormal.cons_slash
    · exact hchars
    · exact List.forall_mem_cons.2 ⟨by decide, hchars⟩

end Url
end InjectingProxy
