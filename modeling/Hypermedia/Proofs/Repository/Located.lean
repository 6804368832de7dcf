import Hypermedia.Proofs.Collection.Relative
import Hypermedia.Proofs.Repository.Numbered
import Hypermedia.Proofs.Uri.Ascent
import Mathlib.Data.List.TakeWhile
/-!
# Locations and links

Where a server says that it created something, its href is read like that of any reference: one with a slash in front
starts at the host (`join?_names`).  The href of a link starts at the root of the service instead: it is appended to the
base, with a slash in front or without (`append_names`).  So an entity that was saved and the same entity when it is
read again have one address just if the root is a host without a path, a query and a fragment (`located_and_read`).
-/
namespace Hypermedia

open Hypermedia.Action

namespace Path

theorem slash_intercalate : ∀ names : List Segment, '/' :: ['/'].intercalate names = orRoot (chars names)
  | [] => rfl
  | s :: ss => congrArg ('/' :: ·) (intercalate_cons s ss)

/-- Names with slashes between them are read as they are. -/
theorem chars_readFrom_names {names : List Segment} (hnames : ∀ s ∈ names, IsName s) :
    chars (readFrom false true [] (['/'].intercalate names)) = '/' :: ['/'].intercalate names := by
  rcases names with _ | ⟨s, ss⟩
  · rfl
  · have hread : readFrom false true [] (s ++ chars ss) = s :: ss :=
      readFrom_chars (fun t ht => (hnames t ht).sound) rfl
    rw [intercalate_cons, hread]
    rfl

theorem head?_names {names : List Segment} (hnames : ∀ s ∈ names, IsName s) :
    (['/'].intercalate names).head?.any (isSeparator true) = false := by
  rcases names with _ | ⟨s, ss⟩
  · rfl
  · obtain ⟨c, cs, hs⟩ := List.exists_cons_of_ne_nil (hnames s List.mem_cons_self).ne_nil
    rw [intercalate_cons, hs]
    exact (hnames s List.mem_cons_self).sound.whole c (hs ▸ List.mem_cons_self)

/-- Names are the only path of their text, up to what stands in front of them. -/
theorem orRoot_append_chars {front : List Char} {names : List Segment} (hnames : ∀ s ∈ names, IsName s)
    (hlast : ∀ c ∈ front.getLast?, c ≠ '/') :
    orRoot (front ++ chars names) = orRoot (chars names) ↔ front = [] := by
  refine ⟨fun h => ?_, fun h => by rw [h, List.nil_append]⟩
  rcases names with _ | ⟨s, ss⟩
  · rw [chars, List.flatMap_nil, List.append_nil] at h
    by_contra hne
    rw [orRoot_of_ne_nil hne] at h
    exact hlast '/' (by rw [h]; rfl) rfl
  · have hne : chars (s :: ss) ≠ [] := chars_ne_nil (List.cons_ne_nil s ss)
    rw [orRoot_of_ne_nil hne, orRoot_of_ne_nil (List.append_ne_nil_of_right_ne_nil front hne)] at h
    exact List.append_left_eq_self.1 h

end Path

namespace Uri

open Hypermedia.Path (AllSound IsName OfNames Segment)

variable {u : Uri} {a : Authority} {segments names : List Segment} {href : String}

theorem ofNames_href (hnames : ∀ s ∈ names, IsName s) (hhref : href.toList = '/' :: ['/'].intercalate names) :
    OfNames href.toList names := ⟨hnames, 1, 0, by rw [hhref]; simp⟩

theorem isVisible_of_isUnreserved {c : Char} (h : Path.isUnreserved c = true) : IsVisible c :=
  Text.of_ascii (P := fun c => Path.isUnreserved c = true → IsVisible c) (by decide +kernel)
    (Path.toNat_lt_of_isUnreserved h) h

theorem endsPath_of_isUnreserved {c : Char} (h : Path.isUnreserved c = true) : endsPath c = false :=
  Text.of_ascii (P := fun c => Path.isUnreserved c = true → endsPath c = false) (by decide +kernel)
    (Path.toNat_lt_of_isUnreserved h) h

/-- Names behind a slash are a path without anything behind it. -/
theorem withPathTail_names (hosted : u.Hosted a segments) (web : u.IsWeb) (hnames : ∀ s ∈ names, IsName s)
    (hhref : href.toList = '/' :: ['/'].intercalate names) :
    withPathTail u [] (['/'].intercalate names) = { u with path := href, query := none, fragment := none } := by
  have hends : ∀ c ∈ ['/'].intercalate names, (!endsPath c) = true := fun c hc => by
    rcases (ofNames_href hnames hhref).mem (hhref ▸ List.mem_cons_of_mem '/' hc) with rfl | hfree
    · rfl
    · rw [endsPath_of_isUnreserved hfree]
      rfl
  have htake : (['/'].intercalate names).takeWhile (!endsPath ·) = ['/'].intercalate names :=
    List.takeWhile_eq_self_iff.2 hends
  have hdrop : (['/'].intercalate names).dropWhile (!endsPath ·) = [] := List.dropWhile_eq_nil_iff.2 hends
  have hfile : (u.scheme == "file") = false := beq_eq_false_iff_ne.2 web.ne_file
  have hpath : Path.ofSegments false (Path.readFrom false true [] (['/'].intercalate names)) = href := by
    unfold Path.ofSegments
    rw [if_neg Bool.false_ne_true, Path.chars_readFrom_names hnames, ← hhref, String.ofList_toList]
  unfold withPathTail withSegments
  rw [htake, hdrop, web.isSpecial, hfile, hpath]
  simp only [hosted.authority, Option.isNone_some, Bool.false_and, withTail]
  rw [← hosted.dotted]

/-- **A reference from the host**: names behind a slash are the path, and query and fragment are dropped. -/
theorem join?_names (h : u.Sound) (web : u.IsWeb) (hnames : ∀ s ∈ names, IsName s)
    (hhref : href.toList = '/' :: ['/'].intercalate names) :
    u.join? href = .ok { u with path := href, query := none, fragment := none } := by
  obtain ⟨a, segments, hosted, -, -⟩ := h.hosted web
  have hvisible : ∀ c ∈ href.toList, IsVisible c := fun c hc => by
    rcases (ofNames_href hnames hhref).mem hc with rfl | hfree
    · decide
    · exact isVisible_of_isUnreserved hfree
  have htrimmed : trimmed href = '/' :: ['/'].intercalate names :=
    (trimmed_eq (fun c hc => isIgnored_of_isVisible (hvisible c hc))
      (fun c hc => (hvisible c (List.mem_of_mem_head? hc)).1)
      fun c hc => (hvisible c (List.mem_of_getLast? hc)).1).trans hhref
  have hrelative : ofRelative u ('/' :: ['/'].intercalate names) =
    .ok (withPathTail u [] (['/'].intercalate names)) := by
    have hslash : Path.isSeparator true '/' = true := rfl
    unfold ofRelative
    exact (if_pos hslash).trans (if_neg (by rw [Path.head?_names hnames]; decide))
  have hscheme : scheme? ('/' :: ['/'].intercalate names) = none := rfl
  have hhead : (('/' :: ['/'].intercalate names).head? == some '#') = false := rfl
  have hfile : (u.scheme == "file") = false := beq_eq_false_iff_ne.2 web.ne_file
  unfold join? parseFrom?
  simp only [htrimmed, hscheme, hhead, isOpaque_of_authority hosted.authority, hfile, Bool.false_eq_true, if_false]
  rw [hrelative, withPathTail_names hosted web hnames hhref]

/-- **A href from the root**: names behind a slash are appended to the path, and all else is kept. -/
theorem append_names (h : u.Sound) (web : u.IsWeb) (hnames : ∀ s ∈ names, IsName s)
    (hhref : href.toList = '/' :: ['/'].intercalate names) :
    u.append href = { u with path := String.ofList (Path.orRoot (u.front ++ Path.chars names)) } := by
  rcases names with _ | ⟨s, ss⟩
  · obtain rfl : href = "/" := String.toList_injective hhref
    obtain ⟨segments, -, hfront, happend⟩ := append_eq h web "/"
    have hascents : ascents "/" = 0 := rfl
    have hadded : added "/" = [] := rfl
    have hquery : queryPart? "/" = none := rfl
    rw [happend, hascents, hadded, hquery, Function.iterate_zero, id, List.reverse_reverse, List.append_nil, hfront,
      Path.chars, Path.chars, List.flatMap_nil, List.append_nil]
    rfl
  · have hsound : AllSound true (s :: ss) := fun t ht => (hnames t ht).sound
    have hmark : '?' ∉ s ++ Path.chars ss := fun hm =>
      Path.not_mem_chars hnames (by decide) (by decide) (List.mem_cons_of_mem '/' hm)
    have happend := append_segments h web hsound (hnames s List.mem_cons_self).ne_nil hmark 1
    have hwhole : String.ofList (List.replicate 1 '/' ++ (s ++ Path.chars ss)) = href := by
      rw [← Path.intercalate_cons, ← String.ofList_toList (s := href), hhref]
      rfl
    have hne := List.append_ne_nil_of_right_ne_nil u.front (Path.chars_ne_nil (List.cons_ne_nil s ss))
    rw [hwhole] at happend
    rw [happend, Path.orRoot_of_ne_nil hne, front]

/-- An address without query and fragment has the text of another one just if this has none either. -/
theorem text_eq_iff_of_path {path path' : String} (hquery : '?' ∉ path.toList) (hfragment : '#' ∉ path.toList) :
    ({ u with path, query := none, fragment := none } : Uri).text = ({ u with path := path' } : Uri).text ↔
      path = path' ∧ u.query = none ∧ u.fragment = none := by
  constructor
  · intro htext
    have hchars := String.ofList_injective htext
    rw [chars_eq, chars_eq] at hchars
    have hbehind := List.append_cancel_left (List.cons.inj (List.append_cancel_left hchars)).2
    have hpath : path.toList = path'.toList ++ (markedChars '?' u.query ++ markedChars '#' u.fragment) :=
      (List.append_nil _).symm.trans hbehind
    have hq : u.query = none := by
      rcases hq : u.query with _ | q
      · rfl
      · exact absurd (by rw [hpath, hq]; simp [markedChars]) hquery
    have hf : u.fragment = none := by
      rcases hf : u.fragment with _ | f
      · rfl
      · exact absurd (by rw [hpath, hf]; simp [markedChars]) hfragment
    rw [hq, hf] at hpath
    exact ⟨String.toList_injective (hpath.trans (List.append_nil _)), hq, hf⟩
  · rintro ⟨rfl, hq, hf⟩
    rw [hq, hf]

end Uri

variable {S : Schema} {t : S.Ty}

/-- **A location among the members of a collection** is one on the host of the service, with the path that is told. -/
theorem Service.join?_collection {service : Service S} (sound : service.base.Sound) (web : service.base.IsWeb)
    {c : Collection S t} {s s' : Traces S} (made : (service.collection t).after s = (.ok c, s'))
    {names : List Path.Segment} (isName : ∀ s ∈ names, Path.IsName s) {href : String}
    (hhref : href.toList = '/' :: ['/'].intercalate names) :
    c.uri.join? href = .ok { service.base with path := href, query := none, fragment := none } := by
  obtain ⟨segments, -, -, happend⟩ := Uri.append_eq sound web (S.entity t).descriptor.collectionPath
  rw [Service.uri_of_collection made, Uri.join?_names (Uri.sound_append sound web _) (Uri.isWeb_append sound web _)
    isName hhref, happend]

namespace Repository

/-- **A created entity whose id is known**, be it its own or the one that its address spells, is saved under that
address. -/
theorem save_of_known {r : Repository S t} {a : S.Content t} {s : Traces S} {answer : Response} {location : String}
    {uri : Uri} (answered : r.Answered a s answer)
    (accepted : Status.isSuccess answer.status = true) (told : answer.location = some location)
    (unplaced : r.identity.slot.get a = none) (h : r.collection.uri.join? location = .ok uri)
    (known : (r.identity.id a).isSome ∨ (r.idOf? uri).isSome) :
    ∃ saved, ((r.save a).after s).1 = .ok saved ∧ r.identity.slot.get saved = some uri := by
  have hplaced := r.identity.slot.get_put a uri
  have hid := r.identity.id_put a uri
  rw [after_save_of_created answered accepted told unplaced, h]
  simp only [withId]
  rcases hnone : r.identity.id a with _ | i <;> rw [hnone] at hid
  · obtain ⟨i, hi⟩ := Option.isSome_iff_exists.1 (known.resolve_left (by simp [hnone]))
    simp only [hid, hi, after_pure]
    exact ⟨_, rfl, (r.identity.get_setId _ i).trans hplaced⟩
  · simp only [hid, after_pure]
    exact ⟨_, rfl, hplaced⟩

/-- **Locations start at the host, and links at the root.**  A href is a slash with names behind it.  A server says that
it created an entity there: the entity is stored, and if it has an id or the href spells one is saved, under the address
of the host with this path, and without query and fragment.  A resource links to itself by the same href: its proxy and
its content have the address of the root with the names behind its path.  The two are one address just if the root has
no path but slashes, no query and no fragment. -/
theorem located_and_read {service : Service S} (sound : service.base.Sound) (web : service.base.IsWeb)
    {r : Repository S t} {s₀ s₁ : Traces S} (made : (service.collection t).after s₀ = (.ok r.collection, s₁))
    {names : List Path.Segment} (isName : ∀ s ∈ names, Path.IsName s) {href : String}
    (hhref : href.toList = '/' :: ['/'].intercalate names) :
    let located : Uri := { service.base with path := href, query := none, fragment := none }
    let read : Uri :=
      { service.base with path := String.ofList (Path.orRoot (service.base.front ++ Path.chars names)) }
    (∀ (a : S.Content t) (s : Traces S) (answer : Response), r.identity.slot.get a = none →
      r.Answered a s answer → Status.isSuccess answer.status = true →
      answer.location = some href →
      ((r.storeUri a).after s).1 = .ok located ∧
      ((r.identity.id a).isSome ∨ (r.idOf? located).isSome →
        ∃ saved, ((r.save a).after s).1 = .ok saved ∧ r.identity.slot.get saved = some located)) ∧
    (∀ (u : Uri) (answer : Response) (document : Json) (s s' : Traces S) (resource : Resource (S.Content t)) (l : Link),
      service.transport.answer s.requests { method := .get, uri := u } = .ok answer →
      Status.isSuccess answer.status = true → answer.json = .ok (some document) →
      (service.decode t document).after (service.noted s { method := .get, uri := u }) = (.ok resource, s') →
      resource.links.self? = some l → l.href = href →
      ∃ (id : Nat) (s'' : Traces S) (p : Proxy S t), (r.collection.get? u).after s = (.ok (some id), s'') ∧
        s''.proxy? id = some ⟨t, p⟩ ∧ p.selfUri = some read ∧
        ∀ slot, (S.entity t).address? = some slot → slot.get p.content = some read) ∧
    (located.text = read.text ↔
      service.base.front = [] ∧ service.base.query = none ∧ service.base.fragment = none) := by
  intro located read
  have hservice := Service.service_of_collection made
  have hpath := Uri.ofNames_href isName hhref
  refine ⟨fun a s answer unplaced answered accepted told => ?_,
    fun u answer document s s' resource l answered success hjson decoded self href_l => ?_, ?_⟩
  · have hjoin := Service.join?_collection sound web made isName hhref
    have hstored := after_storeUri_of_created answered accepted told
    rw [hjoin] at hstored
    exact ⟨congrArg Prod.fst hstored, save_of_known answered accepted told unplaced hjoin⟩
  · have hexpand : l.expand = href := by
      rw [Link.expand_eq, href_l, Link.dropSections_of_not_mem (hpath.not_mem (by decide) (by decide)),
        String.ofList_toList]
    have hleads : r.collection.service.base.resolve l.expand = .ok read := by
      rw [hexpand, hservice, Uri.resolve_of_not_mem (hpath.not_mem (by decide) (by decide)),
        Uri.append_names sound web isName hhref]
    rw [← hservice] at answered decoded
    obtain ⟨id, s'', p, hget, hp, hself, -, hcontent⟩ :=
      r.collection.get?_linked answered success hjson decoded self hleads
    exact ⟨id, s'', p, hget, hp, hself, hcontent⟩
  · have hlast : ∀ c ∈ service.base.front.getLast?, c ≠ '/' := fun c hc => by
      simpa using Text.getLast?_stripRight (· == '/') service.base.path.toList c hc
    rw [Uri.text_eq_iff_of_path (hpath.not_mem (by decide) (by decide)) (hpath.not_mem (by decide) (by decide)),
      ← String.toList_inj, String.toList_ofList, hhref, Path.slash_intercalate, eq_comm,
      Path.orRoot_append_chars isName hlast]

end Repository

namespace Family

def parentsBelow (root : Uri) (script : Script) : Repository schema Ty.parent where
  collection :=
    { service := { configuration := { base := root }, transport := script.transport }
      uri := root.append "/parents"
      batchUri := root.append "/batch" }
  identified := parentIdentified
  retry := .once

/-- The seventh parent, who links to himself by a path. -/
def bartDocument : Json :=
  .object [("name", .text "Bart"), ("_links", .object [("self", .object [("href", .text "/parents/7")])])]

/-- A server that says that it creates parents as the seventh one, and knows him there. -/
def seventh (collection : String) : Script :=
  creating collection "/parents/7" "http://host/parents/7" bartDocument

/-- A parent who is saved below a host and is read again. -/
theorem bart_located :
    let r := parentsBelow base (seventh "http://host/parents")
    let bart : Uri := { base with path := "/parents/7" }
    let s := ((r.save { name := "Bart" }).after {}).2
    Uri.parse? "http://host" = .ok base ∧
    (∃ saved, ((r.save { name := "Bart" }).after {}).1 = .ok saved ∧ saved.uri = some bart) ∧
    ∃ (id : Nat) (s' : Traces schema) (p : Proxy schema Ty.parent),
      (r.collection.get? bart).after s = (.ok (some id), s') ∧
      s'.proxy? id = some ⟨Ty.parent, p⟩ ∧ p.selfUri = some bart ∧ p.content.uri = some bart := by
  intro r bart s
  have hparse : Uri.parse? "http://host" = .ok base := by decide +kernel
  have hmade : ∃ s', (r.collection.service.collection Ty.parent).after {} = (.ok r.collection, s') := ⟨_, rfl⟩
  obtain ⟨s', made⟩ := hmade
  have hnames : ∀ n ∈ ["parents".toList, "7".toList], Path.IsName n := List.all_iff_forall_prop.1 (by decide +kernel)
  have hhref : "/parents/7".toList = '/' :: ['/'].intercalate ["parents".toList, "7".toList] := by decide +kernel
  obtain ⟨hsave, hread, -⟩ := r.located_and_read (Uri.sound_of_parse? hparse) (.inl rfl) made hnames hhref
  have hposted : r.Answered { name := "Bart" } {} { status := 201, location := some "/parents/7" } :=
    ⟨rfl, by decide +kernel⟩
  obtain ⟨-, hsaved⟩ := hsave { name := "Bart" } {} _ rfl hposted rfl rfl
  have hgot : r.collection.service.transport.answer s.requests { method := .get, uri := bart } =
      .ok (answering bartDocument) := by decide +kernel
  obtain ⟨document, hjson, hlinks⟩ : ∃ document, (answering bartDocument).json = .ok (some document) ∧
      (((r.collection.service.decode Ty.parent document).after
        (r.collection.service.noted s { method := .get, uri := bart })).1.toOption.map (·.links)) =
          some [⟨selfRelation, "/parents/7", false⟩] :=
    ⟨(answering bartDocument).json.toOption.join.getD .null, json_of_isSome (by decide +kernel), by decide +kernel⟩
  rcases hdecoded : (r.collection.service.decode Ty.parent document).after
    (r.collection.service.noted s { method := .get, uri := bart }) with ⟨e | resource, s₁⟩ <;> rw [hdecoded] at hlinks
  · cases hlinks
  have hself : resource.links.self? = some ⟨selfRelation, "/parents/7", false⟩ :=
    congrArg Links.self? (Option.some.inj hlinks)
  obtain ⟨id, s₂, p, hget, hp, huri, hcontent⟩ :=
    hread bart _ document s s₁ resource _ hgot rfl hjson hdecoded hself rfl
  have hbart : { base with
      path := String.ofList (Path.orRoot (base.front ++ Path.chars ["parents".toList, "7".toList])) } = bart := by
    decide +kernel
  have hslot : (schema.entity Ty.parent).address? = some Person.slot := rfl
  exact ⟨hparse, hsaved (.inr (by decide +kernel)), id, s₂, p, hget, hp, huri.trans (congrArg some hbart),
    (hcontent _ hslot).trans (congrArg some hbart)⟩

/-- **A parent who is saved below a path and is read again elsewhere**: he was created at a path from the host, and
links to himself by a path from the root. -/
theorem bart_elsewhere :
    let root : Uri := { base with path := "/api" }
    let r := parentsBelow root (seventh "http://host/api/parents")
    let bart : Uri := { base with path := "/parents/7" }
    let saved := (r.save { name := "Bart" }).after {}
    let read := (r.collection.get? bart).after saved.2
    Uri.parse? "http://host/api" = .ok root ∧
    (∃ s', (r.collection.service.collection Ty.parent).after {} = (.ok r.collection, s')) ∧
    saved.1.toOption.map Person.uri = some (some bart) ∧
    read.1.toOption = some (some 0) ∧
    (read.2.proxy? 0).map (·.2.selfUri) = some (some { base with path := "/api/parents/7" }) := by
  intro root r bart saved read
  refine ⟨by decide +kernel, ⟨_, rfl⟩, by decide +kernel, by decide +kernel, by decide +kernel⟩

end Family
end Hypermedia
