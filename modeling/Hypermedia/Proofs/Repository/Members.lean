import Hypermedia.Proofs.Collection.Relative
import Hypermedia.Proofs.Repository.Saved
import Hypermedia.Proofs.Uri.Ascent
/-!
# Members by their ids

The address of a member is that of the collection with the text of its id appended, not encoded as a segment.  A plain
text is only encoded where it has to be: the member then lives strictly below the collection, and members whose ids are
encoded differently live apart (`members_apart`).  Reads, replacements and deletions by such an id go to this member and
nowhere else.  Other texts go wrong, each in its own way: double dots lead out of the collection, a slash in front is
lost, and what stands behind a question mark becomes the query (`lamp_astray`).
-/
namespace Hypermedia

open Hypermedia.Action

namespace Path

/-- **A plain text**: it is not empty, starts with no slash, holds no character that is lost in a path, ends it or
separates segments otherwise than a slash, and none of its segments is a dot. -/
structure IsPlain (cs : List Char) : Prop where
  ne_nil : cs ≠ []
  first : ∀ c ∈ cs.head?, c ≠ '/'
  kept : ∀ c ∈ cs, c ≠ '?' ∧ c ≠ '\\' ∧ Uri.isIgnored c = false
  noDots : ∀ s ∈ Text.splitAll (· == '/') cs, isSingleDot s = false ∧ isDoubleDot s = false

instance (cs : List Char) : Decidable (IsPlain cs) :=
  decidable_of_iff
    (cs ≠ [] ∧ cs.head?.all (· != '/') = true ∧
      (cs.all fun c => c != '?' && c != '\\' && !Uri.isIgnored c) = true ∧
      ((Text.splitAll (· == '/') cs).all fun s => !isSingleDot s && !isDoubleDot s) = true)
    ⟨fun ⟨hne, hfirst, hkept, hdots⟩ =>
      ⟨hne, by simpa [Option.all_eq_true] using hfirst, by simpa [and_assoc] using hkept, by simpa using hdots⟩,
    fun h =>
      ⟨h.ne_nil, by simpa [Option.all_eq_true] using h.first, by simpa [and_assoc] using h.kept,
        by simpa using h.noDots⟩⟩

theorem push_of_noDots {s : Segment} (h : isSingleDot s = false ∧ isDoubleDot s = false) (read : List Segment)
    (final : Bool) : push false read s final = Percent.encode Percent.pathSet s :: read := by
  simp [push, h]

/-- Segments that are no dots are encoded and kept. -/
theorem pushAll_of_noDots : ∀ {ss read : List Segment}, (∀ s ∈ ss, isSingleDot s = false ∧ isDoubleDot s = false) →
    pushAll false read ss = (ss.map (Percent.encode Percent.pathSet)).reverse ++ read
  | [], _, _ => rfl
  | [s], read, h => push_of_noDots (h s List.mem_cons_self) read true
  | s :: t :: ss, read, h => by
    rw [pushAll_cons_cons, push_of_noDots (h s List.mem_cons_self),
      pushAll_of_noDots fun r hr => h r (List.mem_cons_of_mem s hr)]
    simp

/-- Slashes are not encoded in a path. -/
theorem chars_map_encode (ss : List Segment) :
    chars (ss.map (Percent.encode Percent.pathSet)) = Percent.encode Percent.pathSet (chars ss) := by
  unfold chars
  rw [Percent.encode_eq_flatMap, List.flatMap_assoc, List.flatMap_map]
  rfl

theorem chars_splitAll (cs : List Char) : chars (Text.splitAll (· == '/') cs) = '/' :: cs := by
  have hjoined := Text.intercalate_splitAll '/' cs
  rcases hsplit : Text.splitAll (· == '/') cs with _ | ⟨s, ss⟩
  · exact absurd hsplit (Text.splitAll_ne_nil _ cs)
  · rw [hsplit, intercalate_cons] at hjoined
    exact congrArg ('/' :: ·) hjoined

end Path

namespace Uri

variable {u : Uri}

/-- **A plain text that is appended** stands encoded behind a slash, and nothing else changes. -/
theorem append_plain (h : u.Sound) (web : u.IsWeb) {path : String} (plain : Path.IsPlain path.toList) :
    u.append path =
      { u with path := String.ofList (u.front ++ '/' :: Percent.encode Percent.pathSet path.toList) } := by
  have hmark : '?' ∉ path.toList := fun hm => (plain.kept _ hm).1 rfl
  have hpart : pathPart path = path.toList := by
    rw [pathPart, Text.splitFirst_of_not_mem hmark]
    rcases hcs : path.toList with _ | ⟨c, cs⟩
    · rfl
    · have hc : (c == '/') = false := beq_eq_false_iff_ne.2 (plain.first c (by rw [hcs]; rfl))
      exact List.dropWhile_cons_of_neg (by rw [hc]; decide)
  have hquery : queryPart? path = none := by rw [queryPart?, Text.splitFirst_of_not_mem hmark]
  have hcut : cut path = Text.splitAll (· == '/') path.toList := by
    have hsignificant : significant path = path.toList :=
      List.filter_eq_self.2 fun c hc => by rw [(plain.kept c hc).2.2]; rfl
    rw [cut, hpart, String.ofList_toList, hsignificant]
    refine Text.splitAll_congr fun c hc => ?_
    have hback : (c == '\\') = false := beq_eq_false_iff_ne.2 (plain.kept c hc).2.1
    rw [Path.isSeparator, hback, Bool.and_false, Bool.or_false]
  have hascents : ascents path = 0 := by
    rw [ascents, hcut]
    exact Path.ascents_of_forall fun s hs => (plain.noDots s hs).2
  have hadded : Path.chars (added path) = '/' :: Percent.encode Percent.pathSet path.toList := by
    have hne : (pathPart path).isEmpty = false := by simpa [hpart] using plain.ne_nil
    rw [added, hne, hcut, if_neg (by decide), Path.pushAll_of_noDots plain.noDots, List.append_nil,
      List.reverse_reverse, Path.chars_map_encode, Path.chars_splitAll]
    rfl
  obtain ⟨segments, -, hfront, happend⟩ := append_eq h web path
  rw [happend, hascents, hquery, Function.iterate_zero, id, List.reverse_reverse, Path.chars_append, hadded, ← hfront,
    Path.orRoot_of_ne_nil (by simp)]
  rfl

/-- A path that goes on behind a slash is not the same path with slashes at its end. -/
theorem front_append_ne (u : Uri) {cs : List Char} (hne : cs ≠ []) (hfirst : ∀ c ∈ cs.head?, c ≠ '/') :
    u.front ++ '/' :: cs ≠ u.path.toList := fun he => by
  obtain ⟨c, cs, rfl⟩ := List.exists_cons_of_ne_nil hne
  have hc : (c == '/') = false := beq_eq_false_iff_ne.2 (hfirst c rfl)
  have hlast : ∀ d ∈ (u.front ++ ['/', c]).getLast?, (d == '/') = false := fun d hd => by
    rw [List.getLast?_append_of_ne_nil _ (List.cons_ne_nil _ _)] at hd
    exact Option.some.inj hd ▸ hc
  have hregroup : u.front ++ '/' :: c :: cs = u.front ++ ['/', c] ++ cs := by simp
  have hstripped : u.front = u.front ++ ['/', c] ++ Text.stripRight (· == '/') cs := by
    rw [← Text.stripRight_append (by simp) hlast, ← hregroup, he, front]
  have hlength := congrArg List.length hstripped
  simp only [List.length_append, List.length_cons, List.length_nil] at hlength
  omega

end Uri

namespace Percent

/-- Texts without percent signs are encoded differently. -/
theorem encode_pathSet_inj {cs ds : List Char} (hcs : '%' ∉ cs) (hds : '%' ∉ ds)
    (h : encode pathSet cs = encode pathSet ds) : cs = ds := by
  have hdecode := congrArg decode h
  rw [decode_encode sparesSigns_pathSet sparesDigits_pathSet,
    decode_encode sparesSigns_pathSet sparesDigits_pathSet] at hdecode
  have htext : text? cs = text? ds := by rw [text?, hdecode, text?]
  rw [text?_of_not_mem hcs, text?_of_not_mem hds] at htext
  exact String.ofList_injective (Option.some.inj htext)

/-- What a text is encoded as starts with a slash only if the text does. -/
theorem head?_encode_pathSet {cs : List Char} (h : ∀ c ∈ cs.head?, c ≠ '/') :
    ∀ c ∈ (encode pathSet cs).head?, c ≠ '/' := by
  rcases cs with _ | ⟨c, cs⟩
  · exact h
  · intro d hd
    rcases encode_eq_cons pathSet c cs with ⟨-, hcons⟩ | ⟨-, ds, hcons⟩ <;> rw [hcons] at hd
    · exact h d hd
    · exact Option.some.inj hd ▸ (by decide)

end Percent

variable {S : Schema} {t : S.Ty} {P : Request → Prop}

namespace Service

theorem sends_put (service : Service S) {uri : Uri} {body : Json.Encoded}
    (h : ∀ document, body = .ok document → P { method := .put, uri, body := some document }) :
    Sends P (service.put uri body) :=
  service.sends_write_bind (fun _ => sends_bind (sends_ofOutcome _) fun _ => sends_pure _) h

theorem sends_delete (service : Service S) {uri : Uri} (h : P { method := .delete, uri }) :
    Sends P (service.delete uri) :=
  service.sends_send_bind (fun _ => sends_bind (sends_ofOutcome _) fun _ => sends_pure _) h

end Service

namespace Repository

theorem entityUri?_of_id {r : Repository S t} {a : S.Content t} {i : r.identity.Id} (hid : r.identity.id a = some i)
    (unplaced : r.identity.slot.get a = none) :
    r.entityUri? a = some (r.collection.memberUri (r.identity.text i)) := by
  rw [entityUri?, Collection.entityUri?, unplaced, hid]
  rfl

/-- **Members live below their collection, and apart.**  The member with a plain id has the address of the collection,
but for a slash and the encoded id behind the path without the slashes at its end.  This is not the address of the
collection, and it is the address of another member with a plain id just if the two ids are encoded alike; ids without
percent signs are not, unless they are the same.  Reading, replacing and deleting by such an id sends no request to any
other address. -/
theorem members_apart (r : Repository S t) (sound : r.collection.uri.Sound) (web : r.collection.uri.IsWeb)
    {i : r.identity.Id} (plain : Path.IsPlain (r.identity.text i).toList) :
    let uri := r.collection.uri
    let encoded (i : r.identity.Id) := Percent.encode Percent.pathSet (r.identity.text i).toList
    let member (i : r.identity.Id) := r.collection.memberUri (r.identity.text i)
    (encoded i ≠ [] ∧ member i = { uri with path := String.ofList (uri.front ++ '/' :: encoded i) }) ∧
    (member i).text ≠ uri.text ∧
    (∀ j, Path.IsPlain (r.identity.text j).toList →
      ((member i).text = (member j).text ↔ encoded i = encoded j) ∧
      ('%' ∉ (r.identity.text i).toList → '%' ∉ (r.identity.text j).toList →
        ((member i).text = (member j).text ↔ r.identity.text i = r.identity.text j))) ∧
    Sends (·.uri = member i) (r.get? i) ∧
    ∀ a, r.identity.id a = some i → r.identity.slot.get a = none →
      Sends (·.uri = member i) (r.collection.put r.identity a) ∧ Sends (·.uri = member i) (r.delete a) := by
  intro uri encoded member
  have hmember : ∀ j, Path.IsPlain (r.identity.text j).toList →
      member j = { uri with path := String.ofList (uri.front ++ '/' :: encoded j) } :=
        fun j => Uri.append_plain sound web
  have hne : encoded i ≠ [] := Percent.encode_ne_nil _ plain.ne_nil
  refine ⟨⟨hne, hmember i plain⟩, fun htext => ?_, fun j hj => ?_, ?_, fun a hid unplaced => ⟨?_, ?_⟩⟩
  · rw [hmember i plain] at htext
    have hpath := Uri.text_path_inj.1 (htext : _ = ({ uri with path := uri.path } : Uri).text)
    refine uri.front_append_ne hne (Percent.head?_encode_pathSet plain.first) ?_
    rw [← hpath, String.toList_ofList]
  · have halike : (member i).text = (member j).text ↔ encoded i = encoded j := by
      rw [hmember i plain, hmember j hj, Uri.text_path_inj, String.ofList_inj,
        List.append_cancel_left_eq, List.cons.injEq]
      exact and_iff_right rfl
    refine ⟨halike, fun hi hj => halike.trans ⟨fun h => ?_, fun h => ?_⟩⟩
    · exact String.toList_injective (Percent.encode_pathSet_inj hi hj h)
    · exact congrArg (fun s : String => Percent.encode Percent.pathSet s.toList) h
  · have hget : Sends (·.uri = member i) (r.collection.get? (member i)) := r.collection.sends_get? rfl
    exact sends_execute hget _ _
  · have hput : r.collection.put r.identity a = r.collection.service.put (member i) ((S.entity t).encode a) := by
      have huri := entityUri?_of_id hid unplaced
      rw [entityUri?] at huri
      rw [Collection.put, huri]
    rw [hput]
    exact r.collection.service.sends_put fun _ _ => rfl
  · rw [delete, entityUri?_of_id hid unplaced]
    exact r.collection.service.sends_delete rfl

end Repository

namespace Family

/-- Items at an address. -/
def itemsAt (uri : Uri) : Repository schema Ty.item :=
  { items [] with collection := { (items []).collection with uri } }

/-- An item with blanks, a slash, a colon and letters of no escape in its code, in a collection with slashes at the end
of the path and a query. -/
theorem lamp_apart :
    let uri : Uri := { base with path := "/api/items/all//", query := some "key=1" }
    let r := itemsAt uri
    let code := "shelf 2/größe:4½"
    let member : Uri := { uri with path := "/api/items/all/shelf%202/gr%C3%B6%C3%9Fe:4%C2%BD" }
    Uri.parse? "http://host/api/items/all//?key=1" = .ok uri ∧
    r.collection.memberUri code = member ∧ member.text ≠ uri.text ∧
    member.text ≠ (r.collection.memberUri "shelf").text ∧
    Sends (·.uri = member) (r.get? code) ∧
    Sends (·.uri = member) (r.collection.put r.identity { code := some code, name := "Lamp" }) ∧
    Sends (·.uri = member) (r.delete { code := some code, name := "Lamp" }) := by
  intro uri r code member
  have hparse : Uri.parse? "http://host/api/items/all//?key=1" = .ok uri := by decide +kernel
  have hcode : Path.IsPlain code.toList := by decide +kernel
  have hshelf : Path.IsPlain "shelf".toList := by decide +kernel
  have hmember : r.collection.memberUri code = member := by decide +kernel
  obtain ⟨-, hcollection, hother, hget, hwrite⟩ :=
    r.members_apart (Uri.sound_of_parse? hparse) (.inl rfl) (i := code) hcode
  obtain ⟨hput, hdelete⟩ := hwrite { code := some code, name := "Lamp" } rfl rfl
  refine ⟨hparse, hmember, hmember ▸ hcollection, fun he => ?_, hmember ▸ hget, hmember ▸ hput, hmember ▸ hdelete⟩
  rw [← hmember] at he
  exact absurd (((hother "shelf" hshelf).2 (by decide) (by decide)).1 he) (by decide)

/-- **Codes that lead astray.**  One of them leads out of the collection, and deletes there; one that starts with a
slash and one without it are the same member, and so are a letter and its escape; and one changes the query. -/
theorem lamp_astray :
    let uri : Uri := { base with path := "/items/all/" }
    let r := itemsAt uri
    let outside : Uri := { base with path := "/items/lamp" }
    Uri.parse? "http://host/items/all/" = .ok uri ∧
    r.collection.memberUri "../lamp" = outside ∧ (¬ ∃ rest, outside.path.toList = uri.front ++ '/' :: rest) ∧
    (((r.delete { code := some "../lamp", name := "Lamp" }).after {}).2.requests.map fun q => (q.method, q.uri)) =
      [(.delete, outside)] ∧
    (r.collection.memberUri "/lamp").text = (r.collection.memberUri "lamp").text ∧
    (r.collection.memberUri "ö").text = (r.collection.memberUri "%C3%B6").text ∧
    (r.collection.memberUri "lamp?on").query ≠ uri.query := by
  intro uri r outside
  have hoff : ¬ uri.front <+: outside.path.toList := by decide +kernel
  refine ⟨by decide +kernel, by decide +kernel, fun ⟨rest, hrest⟩ => hoff ⟨'/' :: rest, hrest.symm⟩, ?_, ?_, ?_, ?_⟩ <;>
    decide +kernel

end Family
end Hypermedia
