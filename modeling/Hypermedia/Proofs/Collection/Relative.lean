import Hypermedia.Proofs.Resolution.Member
import Mathlib.Data.List.Basic
/-!
# Members by relative hrefs

A resource may link to itself by its address or by a path below the root of the service.  When the path of a collection
consists of names, this path and a name behind it lead to the address that the collection gives the member of this name
(`relative_member`): the slashes at the ends of the paths do not matter, and a query of the root is kept.
-/
namespace Hypermedia

open Hypermedia.Action

/-! ## Paths of names -/

namespace Path

/-- **A path of names**: the names with slashes between them, and perhaps more slashes in front and behind. -/
structure OfNames (path : List Char) (names : List Segment) : Prop where
  isName : ∀ s ∈ names, IsName s
  joined : ∃ before after, path = List.replicate before '/' ++ ['/'].intercalate names ++ List.replicate after '/'

variable {names : List Segment}

theorem intercalate_cons : ∀ (s : Segment) (ss : List Segment), ['/'].intercalate (s :: ss) = s ++ chars ss
  | s, [] => by simp [chars]
  | s, t :: ss => by
    rw [List.intercalate_cons_cons, intercalate_cons t ss, List.append_assoc]
    rfl

theorem chars_replicate_nil : ∀ n : Nat, chars (List.replicate n []) = List.replicate n '/'
  | 0 => rfl
  | n + 1 => by
    rw [List.replicate_succ, List.replicate_succ, ← chars_replicate_nil n]
    rfl

/-- A path of names holds slashes and unreserved characters. -/
theorem not_mem_chars (h : ∀ s ∈ names, IsName s) {c : Char} (hslash : c ≠ '/') (hc : isUnreserved c = false) :
    c ∉ chars names := fun hm => by
  obtain ⟨s, hs, hm⟩ := List.mem_flatMap.1 hm
  rcases List.mem_cons.1 hm with he | hm
  · exact hslash he
  · exact (h s hs).not_mem hc hm

/-- A path ends in no slash when it ends in a name. -/
theorem stripRight_append_names {s : Segment} {ss : List Segment} (h : ∀ t ∈ s :: ss, IsName t) (front : List Char) :
    Text.stripRight (· == '/') (front ++ (s ++ chars ss)) = front ++ (s ++ chars ss) := by
  have hne : s ++ chars ss ≠ [] := List.append_ne_nil_of_left_ne_nil (h s List.mem_cons_self).ne_nil _
  have hnames : Text.stripRight (· == '/') (chars (s :: ss)) = chars (s :: ss) := by
    rw [stripRight_chars _ fun t ht => (h t ht).not_mem (by decide)]
    refine congrArg chars (Text.stripRight_of_last fun t ht => ?_)
    simpa using (h t (List.mem_of_getLast? ht)).ne_nil
  refine Text.stripRight_of_last fun c hc => ?_
  rw [List.getLast?_append_of_ne_nil _ hne] at hc
  refine Text.getLast?_stripRight (· == '/') (chars (s :: ss)) c ?_
  rw [hnames]
  exact (List.getLast?_append_of_ne_nil ['/'] hne).trans hc

/-- The text of a path of names holds slashes and unreserved characters. -/
theorem OfNames.mem {path : List Char} (h : OfNames path names) {c : Char} (hm : c ∈ path) :
    c = '/' ∨ isUnreserved c = true := by
  obtain ⟨before, after, rfl⟩ := h.joined
  rcases List.mem_append.1 hm with hm | hm
  · rcases List.mem_append.1 hm with hm | hm
    · exact .inl (List.eq_of_mem_replicate hm)
    · rcases Text.mem_intercalate hm with he | ⟨s, hs, hm⟩
      · exact .inl he
      · exact .inr ((h.isName s hs).unreserved c hm)
  · exact .inl (List.eq_of_mem_replicate hm)

theorem OfNames.not_mem {path : List Char} (h : OfNames path names) {c : Char} (hslash : c ≠ '/')
    (hc : isUnreserved c = false) : c ∉ path := fun hm => by
  rcases h.mem hm with he | hfree
  · exact hslash he
  · rw [hc] at hfree
    cases hfree

/-- **A path of names without the slashes at its end, and a name behind it**, are the names with slashes between them
behind some slashes. -/
theorem OfNames.withName {path : List Char} (h : OfNames path names) (name : Segment) :
    ∃ before first rest, first :: rest = names ++ [name] ∧
      Text.stripRight (· == '/') path ++ '/' :: name = List.replicate before '/' ++ (first ++ chars rest) := by
  obtain ⟨before, after, rfl⟩ := h.joined
  rw [Text.stripRight_append_replicate rfl]
  rcases names with _ | ⟨s, ss⟩
  · refine ⟨1, name, [], rfl, ?_⟩
    have hnone : Text.stripRight (· == '/') (List.replicate before '/' ++ ['/'].intercalate []) = [] :=
      (congrArg _ (List.append_nil _)).trans (Text.stripRight_append_replicate rfl [] before)
    rw [hnone, chars, List.flatMap_nil, List.append_nil]
    rfl
  · refine ⟨before, s, ss ++ [name], rfl, ?_⟩
    rw [intercalate_cons, stripRight_append_names h.isName, chars_append, chars_singleton]
    simp

end Path

/-! ## Appending names -/

namespace Uri

open Hypermedia.Path (OfNames IsName Segment)

variable {u : Uri}

theorem scheme?_of_not_mem {cs : List Char} (h : ':' ∉ cs) : scheme? cs = none := by
  rcases cs with _ | ⟨c, cs⟩
  · rfl
  rw [scheme?]
  split
  · split
    · rename_i rest hdrop
      exact absurd ((List.dropWhile_suffix isSchemeChar).subset (hdrop ▸ List.mem_cons_self)) h
    · rfl
  · rfl

/-- A href without a colon is no address, so it is appended to the base. -/
theorem resolve_of_not_mem {base : Uri} {href : String} (h : ':' ∉ href.toList) :
    base.resolve href = .ok (base.append href) := by
  have htrimmed : ':' ∉ trimmed href := fun hm =>
    h (Text.stripBoth_subset _ _ (List.mem_filter.1 hm).1)
  have hparse : parse? href = .error .relativeWithoutBase := by
    unfold parse? parseFrom?
    simp only [scheme?_of_not_mem htrimmed]
  exact resolve_of_relative base hparse

/-- **Appending a path of names** puts them behind the path, up to the slashes at its end. -/
theorem append_ofNames (h : u.Sound) (web : u.IsWeb) {path : String} {names : List Segment}
    (hnames : OfNames path.toList names) :
    ∃ joined, u.append path = { u with path := joined } ∧
      Text.stripRight (· == '/') joined.toList = Text.stripRight (· == '/') u.path.toList ++ Path.chars names := by
  obtain ⟨before, after, hjoined⟩ := hnames.joined
  rcases names with _ | ⟨s, ss⟩
  · have hslashes : ∀ c ∈ path.toList, c = '/' := fun c hc => by
      rw [hjoined, List.intercalate_nil, List.append_nil, List.replicate_append_replicate] at hc
      exact List.eq_of_mem_replicate hc
    obtain ⟨joined, happend, hstripped⟩ := append_slashes h web hslashes
    exact ⟨joined, happend, hstripped.trans (List.append_nil _).symm⟩
  · have hsegments : Path.AllSound true (s :: (ss ++ List.replicate after [])) := by
      intro t ht
      rcases List.mem_append.1 (List.cons_append ▸ ht : t ∈ (s :: ss) ++ List.replicate after []) with ht | ht
      · exact (hnames.isName t ht).sound
      · exact List.eq_of_mem_replicate ht ▸ Path.sound_nil
    have hpath : path.toList = List.replicate before '/' ++ (s ++ Path.chars (ss ++ List.replicate after [])) := by
      rw [hjoined, Path.intercalate_cons, Path.chars_append, Path.chars_replicate_nil]
      simp
    have hmark : '?' ∉ path.toList := hnames.not_mem (by decide) (by decide)
    rw [hpath] at hmark
    have happend := append_segments h web hsegments (hnames.isName s List.mem_cons_self).ne_nil
      (fun hm => hmark (List.mem_append_right _ hm)) before
    rw [← hpath, String.ofList_toList] at happend
    refine ⟨_, happend, ?_⟩
    have hend : Text.stripRight (· == '/') u.path.toList ++ Path.chars (s :: (ss ++ List.replicate after [])) =
        (Text.stripRight (· == '/') u.path.toList ++ ['/'] ++ (s ++ Path.chars ss)) ++ List.replicate after '/' := by
      rw [← Path.chars_replicate_nil, Path.chars, List.flatMap_cons, ← Path.chars, Path.chars_append]
      simp
    rw [String.toList_ofList, hend, Text.stripRight_append_replicate rfl, Path.stripRight_append_names hnames.isName,
      List.append_assoc]
    rfl

/-- A name that is appended behind a path of names stands behind the last of them. -/
theorem append_ofNames_name (h : u.Sound) (web : u.IsWeb) {path : String} {names : List Segment}
    (hnames : OfNames path.toList names) {name : Segment} (hname : IsName name) :
    (u.append path).append (String.ofList name) =
      { u with path := String.ofList (Text.stripRight (· == '/') u.path.toList ++ Path.chars (names ++ [name])) } := by
  obtain ⟨joined, happend, hstripped⟩ := append_ofNames h web hnames
  rw [append_name (sound_append h web path) (isWeb_append h web path) hname, happend, hstripped, Path.chars_append,
    Path.chars_singleton, List.append_assoc]

/-- A path of names without the slashes at its end, and a name behind it, are appended as they are. -/
theorem append_withName (h : u.Sound) (web : u.IsWeb) {path : List Char} {names : List Segment}
    (hnames : OfNames path names) {name : Segment} (hname : IsName name) :
    u.append (String.ofList (Text.stripRight (· == '/') path ++ '/' :: name)) =
      { u with path := String.ofList (Text.stripRight (· == '/') u.path.toList ++ Path.chars (names ++ [name])) } := by
  obtain ⟨before, first, rest, hcons, hjoined⟩ := hnames.withName name
  have hall : ∀ t ∈ first :: rest, IsName t := by
    rw [hcons]
    exact fun t ht => (List.mem_append.1 ht).elim (hnames.isName t) fun ht => List.mem_singleton.1 ht ▸ hname
  have hmark : '?' ∉ first ++ Path.chars rest := fun hm =>
    Path.not_mem_chars hall (by decide) (by decide) (List.mem_cons_of_mem '/' hm)
  rw [hjoined, append_segments h web (fun t ht => (hall t ht).sound) (hall first List.mem_cons_self).ne_nil hmark
    before, hcons]

end Uri

/-! ## Members -/

namespace Service

variable {S : Schema} {t : S.Ty} {service : Service S}

/-- **A relative href and the collection agree on the address of a member.**  Both stand for the address of the root
with the names of the collection's path and the name of the member behind its path; all its other parts, and so its
query, are those of the root. -/
theorem relative_member (sound : service.base.Sound) (web : service.base.IsWeb) {c : Collection S t} {s s' : Traces S}
    (made : (service.collection t).after s = (.ok c, s')) {names : List Path.Segment}
    (path : Path.OfNames (S.entity t).descriptor.collectionPath.toList names) {name : String}
    (hname : Path.IsName name.toList) :
    let stripped := String.ofList (Text.stripRight (· == '/') (S.entity t).descriptor.collectionPath.toList)
    service.base.resolve (stripped ++ "/" ++ name) = .ok (c.memberUri name) ∧
    c.memberUri name = (service.base.append (S.entity t).descriptor.collectionPath).append name ∧
    c.memberUri name =
      { service.base with
        path := String.ofList (Text.stripRight (· == '/') service.base.path.toList ++
          Path.chars (names ++ [name.toList])) } := by
  intro stripped
  have hmember : c.memberUri name = (service.base.append (S.entity t).descriptor.collectionPath).append name := by
    rw [Collection.memberUri, uri_of_collection made]
  have hdirect := Uri.append_ofNames_name sound web path hname
  rw [String.ofList_toList, ← hmember] at hdirect
  have hhref : (stripped ++ "/" ++ name).toList =
      Text.stripRight (· == '/') (S.entity t).descriptor.collectionPath.toList ++ '/' :: name.toList := by
    simp [stripped]
  have hcolon : ':' ∉ (stripped ++ "/" ++ name).toList := by
    rw [hhref]
    intro hm
    rcases List.mem_append.1 hm with hm | hm
    · exact path.not_mem (by decide) (by decide) ((Text.stripRight_prefix _ _).subset hm)
    · exact (List.mem_cons.1 hm).elim (by decide) (hname.not_mem (by decide))
  refine ⟨?_, hmember, hdirect⟩
  rw [Uri.resolve_of_not_mem hcolon, hdirect, ← Uri.append_withName sound web path hname, ← hhref, String.ofList_toList]

end Service

namespace Family

/-- An item below a root with slashes at its end and a query. -/
theorem lamp_by_relative_href :
    let s : Service schema :=
      { service [] with configuration := { base := { base with path := "/api//", query := some "key=1" } } }
    let lamp : Uri := { base with path := "/api/items/all/lamp_7~", query := some "key=1" }
    Uri.parse? "http://host/api//?key=1" = .ok s.base ∧
      (schema.entity Ty.item).descriptor.collectionPath = "items/all/" ∧
    ((s.collection Ty.item).after {}).1.toOption.map (·.memberUri "lamp_7~") = some lamp ∧
    s.base.resolve "items/all/lamp_7~" = .ok lamp := by
  intro s lamp
  have hparse : Uri.parse? "http://host/api//?key=1" = .ok s.base := by decide +kernel
  have hpath : Path.OfNames (schema.entity Ty.item).descriptor.collectionPath.toList ["items".toList, "all".toList] :=
    ⟨List.all_iff_forall_prop.1 (by decide +kernel), 0, 1, by decide +kernel⟩
  rcases hmade : (s.collection Ty.item).after {} with ⟨e | c, s'⟩
  · have hok : ((s.collection Ty.item).after {}).1.isOk = true := by decide +kernel
    rw [hmade] at hok
    cases hok
  · obtain ⟨hresolve, -, hmember⟩ :=
      Service.relative_member (Uri.sound_of_parse? hparse) (.inl rfl) hmade hpath
        (by decide : Path.IsName "lamp_7~".toList)
    have hlamp : c.memberUri "lamp_7~" = lamp := hmember.trans (by decide +kernel)
    rw [hlamp] at hresolve
    exact ⟨hparse, rfl, congrArg some hlamp, hresolve⟩

end Family
end Hypermedia
