import Hypermedia.Entity.TypeInfo
import Hypermedia.Proofs.Uri.Append
/-!
# Addresses below collections

Whether an address is a member of a collection is told by their texts: that of the collection, without the slashes at
its end and with one slash behind it, starts that of the member.  For a service on the web without a query or a fragment
this says that both have one scheme and one authority, and that the path goes on behind that of the collection
(`below_iff`).
-/
namespace Hypermedia
namespace Uri

open Hypermedia.Path (AllSound Segment)

variable {base u : Uri} {path : String}

/-- **The root of a service**: an address on the web without a query and a fragment. -/
structure IsRoot (base : Uri) : Prop where
  sound : base.Sound
  web : base.IsWeb
  query : base.query = none
  fragment : base.fragment = none

/-- The path of a collection without the slashes at its end, and one slash. -/
def collectionChars (base : Uri) (path : String) : List Char :=
  Text.stripRight (· == '/') (base.append path).path.toList ++ ['/']

/-- **An address below a collection**: it belongs to the service, and its path starts with that of the collection. -/
structure LiesBelow (base : Uri) (path : String) (u : Uri) : Prop where
  scheme : u.scheme = base.scheme
  authority : u.authority = base.authority
  path : base.collectionChars path <+: u.path.toList

theorem liesBelow_iff (base : Uri) (path : String) (u : Uri) : base.LiesBelow path u ↔
    u.scheme = base.scheme ∧ u.authority = base.authority ∧ base.collectionChars path <+: u.path.toList :=
  ⟨fun h => ⟨h.scheme, h.authority, h.path⟩, fun ⟨hscheme, hauthority, hpath⟩ => ⟨hscheme, hauthority, hpath⟩⟩

instance (base : Uri) (path : String) (u : Uri) : Decidable (base.LiesBelow path u) :=
  decidable_of_iff _ (liesBelow_iff base path u).symm

/-- A collection is the root with another path. -/
theorem IsRoot.append_path (h : base.IsRoot) (hmark : '?' ∉ path.toList) :
    ∃ read, AllSound true read ∧ read ≠ [] ∧ base.append path = { base with path := String.ofList (Path.chars read) } :=
  Uri.append_path h.sound h.web hmark

/-- The path of a collection goes on behind a slash, and no query or fragment starts in it. -/
theorem IsRoot.collectionChars_cases (h : base.IsRoot) (hmark : '?' ∉ path.toList) :
    ∃ cs, base.collectionChars path = '/' :: cs ∧ ∀ c ∈ cs, (!endsPath c) = true := by
  obtain ⟨read, hread, hne, happend⟩ := h.append_path hmark
  have hpath : (base.append path).path.toList = Path.chars read := by rw [happend, String.toList_ofList]
  have hfront := Text.stripRight_prefix (· == '/') (Path.chars read)
  have hsub : ∀ c ∈ base.collectionChars path, (!endsPath c) = true := by
    intro c hc
    rw [collectionChars, hpath] at hc
    rcases List.mem_append.1 hc with hc | hc
    · exact endsPath_of_mem_chars hread c (hfront.subset hc)
    · rw [List.mem_singleton.1 hc]
      rfl
  -- the path starts with a slash unless nothing of it is left
  have hfirst : ∃ cs, base.collectionChars path = '/' :: cs := by
    rw [collectionChars, hpath]
    rcases hstrip : Text.stripRight (· == '/') (Path.chars read) with _ | ⟨c, cs⟩
    · exact ⟨[], rfl⟩
    · obtain ⟨s, ss, rfl⟩ := List.exists_cons_of_ne_nil hne
      rw [hstrip] at hfront
      obtain rfl : c = '/' := (List.cons_prefix_cons.1 hfront).1
      exact ⟨cs ++ ['/'], rfl⟩
  obtain ⟨cs, hcs⟩ := hfirst
  exact ⟨cs, hcs, fun c hc => hsub c (hcs ▸ List.mem_cons_of_mem _ hc)⟩

/-- **The text that starts the texts of all members.** -/
theorem IsRoot.prefix_chars (h : base.IsRoot) (hmark : '?' ∉ path.toList) {a : Authority}
    (hauthority : base.authority = some a) :
    Text.stripRight (· == '/') (base.append path).chars ++ ['/'] =
      base.scheme.toList ++ ':' :: ('/' :: '/' :: a.chars ++ base.collectionChars path) := by
  obtain ⟨b, segments, hosted, hhost, -⟩ := h.sound.hosted h.web
  obtain rfl : a = b := Option.some.inj (hauthority.symm.trans hosted.authority)
  obtain ⟨read, -, -, happend⟩ := h.append_path hmark
  have htail : (base.append path).tailChars = [] := by
    rw [happend, tailChars, h.query, h.fragment]
    rfl
  have hchars : (base.append path).chars =
      (base.scheme.toList ++ ':' :: '/' :: '/' :: a.chars) ++ (base.append path).path.toList := by
    rw [chars_eq, htail, List.append_nil, happend, authorityChars, hauthority]
    simp
  have hlast : ∀ c ∈ (base.scheme.toList ++ ':' :: '/' :: '/' :: a.chars).getLast?, (c == '/') = false := by
    obtain ⟨cs, c, hcs⟩ := (List.eq_nil_or_concat a.chars).resolve_left (hosted.sound.chars_ne_nil hhost)
    rw [List.concat_eq_append] at hcs
    intro d hd
    have hregroup : base.scheme.toList ++ ':' :: '/' :: '/' :: (cs ++ [c]) =
        (base.scheme.toList ++ ':' :: '/' :: '/' :: cs) ++ [c] := by simp
    rw [hcs, hregroup, List.getLast?_concat] at hd
    cases hd
    have hends := hosted.sound.not_endsAuthority true c (by rw [hcs]; simp)
    rcases hc : c == '/' with _ | _
    · rfl
    · rw [eq_of_beq hc] at hends
      cases hends
  rw [hchars, Text.stripRight_append (by simp) hlast, collectionChars]
  simp

theorem not_mem_scheme {scheme : String} (h : IsScheme scheme) : ':' ∉ scheme.toList := fun hc =>
  absurd (h.chars ':' hc).1 (by decide)

theorem not_mem_authority {a : Authority} {scheme : String} (h : a.Sound scheme) : '/' ∉ a.chars := fun hc =>
  absurd (h.not_endsAuthority true '/' hc) (by decide)

/-- **The texts tell the members of a collection.** -/
theorem IsRoot.below_iff (h : base.IsRoot) (hmark : '?' ∉ path.toList) (hu : u.Sound) :
    Resolver.below (base.append path) u = true ↔ base.LiesBelow path u := by
  obtain ⟨a, segments, hosted, hhost, -⟩ := h.sound.hosted h.web
  obtain ⟨cs, hcs, hends⟩ := h.collectionChars_cases hmark
  unfold Resolver.below
  rw [List.isPrefixOf_iff_prefix, h.prefix_chars hmark hosted.authority, chars_eq u]
  constructor
  · intro hfront
    -- the schemes end at the first colons, the authorities at the first slashes behind them
    obtain ⟨hscheme, hrest⟩ := Text.prefix_cut (not_mem_scheme h.sound.scheme) (not_mem_scheme hu.scheme) hfront
    have hscheme : u.scheme = base.scheme := (String.toList_inj.1 hscheme).symm
    have hweb : u.IsWeb := by
      unfold IsWeb
      rw [hscheme]
      exact h.web
    obtain ⟨b, read, hostedu, -, hne⟩ := hu.hosted hweb
    obtain ⟨s, ss, rfl⟩ := List.exists_cons_of_ne_nil hne
    have hupath : u.path.toList = '/' :: (s ++ Path.chars ss) := by rw [hostedu.path, String.toList_ofList]; rfl
    have hbound : b.Sound base.scheme := hscheme ▸ hostedu.sound
    rw [authorityChars, hostedu.authority, hupath, hcs] at hrest
    have hrest : a.chars ++ '/' :: cs <+: b.chars ++ '/' :: (s ++ Path.chars ss ++ u.tailChars) :=
      (List.cons_prefix_cons.1 (List.cons_prefix_cons.1 hrest).2).2
    obtain ⟨hauthority, hpath⟩ := Text.prefix_cut (not_mem_authority hosted.sound) (not_mem_authority hbound) hrest
    have htail : u.tailChars.head?.all (fun c => !!endsPath c) = true := by simpa using u.head?_tailChars
    refine ⟨hscheme, ?_, ?_⟩
    · rw [hostedu.authority, hosted.authority, Authority.eq_of_chars_eq hosted.sound hbound hauthority]
    · rw [hcs, hupath]
      exact List.cons_prefix_cons.2 ⟨rfl, Text.prefix_of_prefix_append hends htail hpath⟩
  · rintro ⟨hscheme, hauthority, hpath⟩
    obtain ⟨rest, hrest⟩ := hpath
    refine ⟨rest ++ u.tailChars, ?_⟩
    rw [← hrest, authorityChars, hauthority, hosted.authority, hscheme]
    simp

end Uri
end Hypermedia
