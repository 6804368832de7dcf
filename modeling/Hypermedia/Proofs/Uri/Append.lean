import Hypermedia.Href
import Hypermedia.Proofs.Uri.Text
/-!
# Addresses below addresses

Appending a path to an address on the web changes its path and, behind a question mark, its query, and nothing else;
what results is sound again (`sound_append`).  Segments that are appended stand behind the path of the address without
the slashes at its end (`append_segments`, `append_name`).
-/
namespace Hypermedia

namespace Path

/-- The slashes at the end of a path belong to its empty segments. -/
theorem stripRight_chars (segments : List Segment) (h : ∀ s ∈ segments, '/' ∉ s) :
    Text.stripRight (· == '/') (chars segments) = chars (Text.stripRight List.isEmpty segments) := by
  induction segments using List.reverseRecOn with
  | nil => rfl
  | append_singleton segments s ih =>
    have hchars : chars (segments ++ [s]) = chars segments ++ '/' :: s := by simp [chars]
    rcases List.eq_nil_or_concat s with rfl | ⟨t, c, rfl⟩
    · rw [hchars, Text.stripRight_concat, if_pos (beq_self_eq_true _), Text.stripRight_concat, if_pos List.isEmpty_nil,
        ih fun s hs => h s (List.mem_append_left _ hs)]
    · rw [List.concat_eq_append] at h hchars ⊢
      have hc : c ≠ '/' := fun he => h (t ++ [c]) (by simp) (by simp [he])
      have hregroup : chars segments ++ '/' :: (t ++ [c]) = (chars segments ++ '/' :: t) ++ [c] := by simp
      rw [hchars, hregroup, Text.stripRight_concat, if_neg (by simpa using hc), Text.stripRight_concat,
        if_neg (by simp), hchars, hregroup]

theorem not_mem_of_sound {special : Bool} {s : Segment} (h : Sound special s) : '/' ∉ s := fun hs => by
  have hwhole := h.whole '/' hs
  cases special <;> exact absurd hwhole (by decide)

end Path

namespace Uri

open Percent (Encoded)
open Hypermedia.Path (AllSound Segment)

variable {u v : Uri} {a : Authority} {segments : List Segment}

/-- The schemes of the web. -/
def IsWeb (u : Uri) : Prop := u.scheme = "http" ∨ u.scheme = "https"

theorem IsWeb.isSpecial (h : u.IsWeb) : u.isSpecial = true := by
  unfold Uri.isSpecial
  rcases h with h | h <;> rw [h] <;> rfl

theorem IsWeb.ne_file (h : u.IsWeb) : u.scheme ≠ "file" := by
  rcases h with h | h <;> rw [h] <;> decide

/-- **An address on the web** has a host and a path. -/
theorem Sound.hosted (h : u.Sound) (web : u.IsWeb) :
    ∃ a segments, u.Hosted a segments ∧ a.host.isSome = true ∧ segments ≠ [] := by
  cases h.shape with
  | web hosted _ _ hhost hne => exact ⟨_, _, hosted, hhost, hne⟩
  | file _ hfile _ _ _ _ => exact absurd hfile web.ne_file
  | hosted _ hs => rw [web.isSpecial] at hs; cases hs
  | rooted _ hs _ _ _ _ => rw [web.isSpecial] at hs; cases hs
  | bare _ hs _ _ _ _ _ => rw [web.isSpecial] at hs; cases hs

/-- A text that is read as no address, for want of a base, is appended to the base. -/
theorem resolve_of_relative (base : Uri) {href : String} (h : parse? href = .error .relativeWithoutBase) :
    base.resolve href = .ok (base.append href) := by
  unfold resolve
  rw [h]

/-! ## New paths -/

theorem isOpaque_of_authority (h : u.authority = some a) : u.isOpaque = false := by
  unfold isOpaque
  rw [h]
  rfl

/-- **A new path is a path that was read.** -/
theorem setPath_cases (hauthority : u.authority = some a) (web : u.IsWeb) (path : String) :
    ∃ read, AllSound true read ∧ read ≠ [] ∧ u.setPath path = { u with path := String.ofList (Path.chars read) } := by
  have hfile : (u.scheme == "file") = false := beq_eq_false_iff_ne.2 web.ne_file
  unfold setPath
  simp only [isOpaque_of_authority hauthority, hfile, web.isSpecial, Bool.false_eq_true, if_false, if_true]
  rcases significant path with _ | ⟨c, rest⟩
  · exact ⟨[[]], fun s hs => List.mem_singleton.1 hs ▸ Path.sound_nil, List.cons_ne_nil _ _, rfl⟩
  · exact ⟨_, Path.allSound_readFrom Path.allSound_nil false _, Path.readFrom_ne_nil false true [] _, rfl⟩

/-- A path is read behind the slash in front of it. -/
theorem setPath_slash (hauthority : u.authority = some a) (web : u.IsWeb) {path : String} {rest : List Char}
    (h : significant path = '/' :: rest) :
    u.setPath path = { u with path := String.ofList (Path.chars (Path.readFrom false true [] rest)) } := by
  have hfile : (u.scheme == "file") = false := beq_eq_false_iff_ne.2 web.ne_file
  have hslash : Path.isSeparator true '/' = true := rfl
  unfold setPath
  simp only [isOpaque_of_authority hauthority, hfile, web.isSpecial, h, hslash, Bool.false_eq_true, if_false, if_true]
  rfl

/-- A path that was read is set as it is. -/
theorem setPath_chars (hauthority : u.authority = some a) (web : u.IsWeb) {read : List Segment}
    (hread : AllSound true read) (hne : read ≠ []) :
    u.setPath (String.ofList (Path.chars read)) = { u with path := String.ofList (Path.chars read) } := by
  obtain ⟨s, ss, rfl⟩ := List.exists_cons_of_ne_nil hne
  have hsignificant : significant (String.ofList (Path.chars (s :: ss))) = '/' :: (s ++ Path.chars ss) :=
    significant_of_visible (isVisible_of_mem_chars hread)
  rw [setPath_slash hauthority web hsignificant,
    Path.readFrom_chars hread (show (false && Path.isDrive s) = false from rfl)]

/-! ## Appending -/

/-- **Appending changes the path and the query**, and keeps the query if there is no question mark. -/
theorem append_cases (hauthority : u.authority = some a) (web : u.IsWeb) (path : String) :
    ∃ read query, AllSound true read ∧ read ≠ [] ∧
      u.append path = { u with path := String.ofList (Path.chars read), query } ∧
      (query = u.query ∨ ∃ cs, query = some (String.ofList (Percent.encode (Percent.querySet true) cs))) ∧
      ('?' ∉ path.toList → query = u.query) := by
  unfold append
  obtain ⟨read, hread, hne, hset⟩ := setPath_cases hauthority web (String.ofList (
    let tail := (Text.splitFirst '?' path.toList).1.dropWhile (· == '/')
    let head := Text.stripRight (· == '/') u.path.toList
    if tail.isEmpty then if head.isEmpty then ['/'] else head else head ++ '/' :: tail))
  simp only at hset ⊢
  rw [hset]
  rcases hsplit : (Text.splitFirst '?' path.toList).2 with _ | query
  · exact ⟨read, u.query, hread, hne, rfl, .inl rfl, fun _ => rfl⟩
  · refine ⟨read, _, hread, hne, rfl, .inr ⟨significant (String.ofList query), ?_⟩, fun hmark => ?_⟩
    · rw [← web.isSpecial]
      rfl
    · rw [Text.splitFirst_of_not_mem hmark] at hsplit
      cases hsplit

/-- **An address below an address on the web is sound.** -/
theorem sound_append (h : u.Sound) (web : u.IsWeb) (path : String) : (u.append path).Sound := by
  obtain ⟨a, segments, hosted, hhost, -⟩ := h.hosted web
  obtain ⟨read, query, hread, hne, heq, hquery, -⟩ := append_cases hosted.authority web path
  rw [heq]
  refine ⟨h.scheme, @Shape.web _ a read ⟨hosted.authority, hosted.sound, hosted.dotted, rfl, ?_⟩ web.isSpecial
    web.ne_file hhost hne, fun q hq => ?_, h.fragment⟩
  · rw [← web.isSpecial] at hread
    exact hread
  · rcases hquery with rfl | ⟨cs, rfl⟩
    · exact h.query q hq
    · cases hq
      rw [String.toList_ofList, ← web.isSpecial]
      exact Percent.encoded_encode (Percent.sparesSigns_querySet _) cs

/-- An address below an address on the web is on the web. -/
theorem isWeb_append (h : u.Sound) (web : u.IsWeb) (path : String) : (u.append path).IsWeb := by
  obtain ⟨a, segments, hosted, -, -⟩ := h.hosted web
  obtain ⟨read, query, -, -, heq, -, -⟩ := append_cases hosted.authority web path
  rw [heq]
  exact web

/-- **What an href leads to is sound**, be it an address or something below the base. -/
theorem sound_resolve {base : Uri} (h : base.Sound) (web : base.IsWeb) {href : String}
    (hread : base.resolve href = .ok u) : u.Sound := by
  unfold resolve at hread
  split at hread
  · rename_i uri hparse
    cases hread
    exact sound_of_parse? hparse
  · cases hread
    exact sound_append h web href
  · cases hread

/-- A path without a question mark is all that an address gets when it is appended. -/
theorem append_path (h : u.Sound) (web : u.IsWeb) {path : String} (hmark : '?' ∉ path.toList) :
    ∃ read, AllSound true read ∧ read ≠ [] ∧ u.append path = { u with path := String.ofList (Path.chars read) } := by
  obtain ⟨a, segments, hosted, -, -⟩ := h.hosted web
  obtain ⟨read, query, hread, hne, heq, -, hquery⟩ := append_cases hosted.authority web path
  rw [hquery hmark] at heq
  exact ⟨read, hread, hne, heq⟩

/-- The path of an address on the web, without the slashes at its end, is one of segments that were read. -/
theorem Sound.stripped (h : u.Sound) (web : u.IsWeb) :
    ∃ a segments, u.authority = some a ∧ AllSound true segments ∧
      Text.stripRight (· == '/') u.path.toList = Path.chars segments := by
  obtain ⟨a, segments, hosted, -, -⟩ := h.hosted web
  have hsound : AllSound true segments := by
    have hsegments := hosted.segments
    rwa [web.isSpecial] at hsegments
  refine ⟨a, Text.stripRight List.isEmpty segments, hosted.authority,
    fun t ht => hsound t ((Text.stripRight_prefix _ _).subset ht), ?_⟩
  rw [hosted.path, String.toList_ofList]
  exact Path.stripRight_chars segments fun t ht => Path.not_mem_of_sound (hsound t ht)

/-- Slashes that are appended change nothing in front of the slashes at the end of the path. -/
theorem append_slashes (h : u.Sound) (web : u.IsWeb) {path : String} (hslashes : ∀ c ∈ path.toList, c = '/') :
    ∃ joined, u.append path = { u with path := joined } ∧
      Text.stripRight (· == '/') joined.toList = Text.stripRight (· == '/') u.path.toList := by
  obtain ⟨a, segments, hauthority, hsound, hpath⟩ := h.stripped web
  have hmark : '?' ∉ path.toList := fun hm => absurd (hslashes _ hm) (by decide)
  have hdrop : path.toList.dropWhile (· == '/') = [] := by
    simpa using @Text.dropWhile_append _ (· == '/') path.toList [] (fun c hc => beq_iff_eq.2 (hslashes c hc)) rfl
  have hstripped := Text.stripRight_of_last (Text.getLast?_stripRight (· == '/') u.path.toList)
  unfold append
  simp only [Text.splitFirst_of_not_mem hmark, hdrop, hpath]
  rw [hpath] at hstripped
  rcases segments with _ | ⟨s, ss⟩
  · have hempty : AllSound true [[]] := fun t ht => List.mem_singleton.1 ht ▸ Path.sound_nil
    exact ⟨_, setPath_chars hauthority web hempty (List.cons_ne_nil _ _), rfl⟩
  · refine ⟨_, setPath_chars hauthority web hsound (List.cons_ne_nil _ _), ?_⟩
    rw [String.toList_ofList]
    exact hstripped

/-- **Segments that are appended** stand behind the path without the slashes at its end, however many slashes stand in
front of them. -/
theorem append_segments (h : u.Sound) (web : u.IsWeb) {s : Segment} {ss : List Segment} (hs : AllSound true (s :: ss))
    (hne : s ≠ []) (hmark : '?' ∉ s ++ Path.chars ss) (slashes : Nat) :
    u.append (String.ofList (List.replicate slashes '/' ++ (s ++ Path.chars ss))) =
      { u with path := String.ofList (Text.stripRight (· == '/') u.path.toList ++ Path.chars (s :: ss)) } := by
  obtain ⟨a, segments, hauthority, hsound, hpath⟩ := h.stripped web
  have hslash : ∀ c ∈ List.replicate slashes '/', c = '/' := fun c hc => List.eq_of_mem_replicate hc
  have hsplit : Text.splitFirst '?' (List.replicate slashes '/' ++ (s ++ Path.chars ss)) =
      (List.replicate slashes '/' ++ (s ++ Path.chars ss), none) := by
    refine Text.splitFirst_of_not_mem fun hm => ?_
    rcases List.mem_append.1 hm with hm | hm
    · exact absurd (hslash _ hm) (by decide)
    · exact hmark hm
  have hdrop : (List.replicate slashes '/' ++ (s ++ Path.chars ss)).dropWhile (· == '/') = s ++ Path.chars ss := by
    refine Text.dropWhile_append (fun c hc => beq_iff_eq.2 (hslash c hc)) ?_
    obtain ⟨c, cs, rfl⟩ := List.exists_cons_of_ne_nil hne
    have hc : c ≠ '/' := fun he => Path.not_mem_of_sound (hs _ List.mem_cons_self) (he ▸ List.mem_cons_self)
    simpa using hc
  have hempty : (s ++ Path.chars ss).isEmpty = false := by simp [hne]
  have hread : AllSound true (segments ++ s :: ss) := fun t ht =>
    (List.mem_append.1 ht).elim (hsound t) (hs t)
  have hchars : Path.chars segments ++ Path.chars (s :: ss) = Path.chars (segments ++ s :: ss) :=
    List.flatMap_append.symm
  unfold append
  simp only [String.toList_ofList, hsplit, hdrop, hempty, Bool.false_eq_true, if_false]
  rw [hpath, hchars, ← setPath_chars hauthority web hread (by simp), ← hchars]
  rfl

/-- **A name that is appended** stands behind the path without the slashes at its end. -/
theorem append_name (h : u.Sound) (web : u.IsWeb) {s : Segment} (hs : Path.IsName s) :
    u.append (String.ofList s) =
      { u with path := String.ofList (Text.stripRight (· == '/') u.path.toList ++ '/' :: s) } := by
  have hmark : '?' ∉ s ++ Path.chars [] := by
    rw [Path.chars, List.flatMap_nil, List.append_nil]
    exact hs.not_mem (by decide)
  have hsound : AllSound true [s] := fun t ht => List.mem_singleton.1 ht ▸ hs.sound
  simpa [Path.chars] using append_segments h web hsound hs.ne_nil hmark 0

end Uri
end Hypermedia
