import Hypermedia.Proofs.Repository.Saved
import Hypermedia.Proofs.Resolution.Member
import Hypermedia.Proofs.Uri.LongDomain
/-!
# Numbered entities

An entity whose id is a number of 64 bits lives at the address of its collection with this number behind it.  A server
that creates an entity tells this address, and from there its number is read again.
-/
namespace Hypermedia

open Hypermedia.Action

/-! ## Numbers in addresses -/

/-- **Ids that are numbers**: their texts are the decimal digits of the numbers, and any text that spells a number
spells an id. -/
structure Identity.Numbered {α : Type} (I : Identity α) where
  ofNumber : UInt64 → I.Id
  text_ofNumber : ∀ n, I.text (ofNumber n) = Json.natText n.toNat
  read?_eq : ∀ s, I.read? s = (Text.uint64? s).map ofNumber

theorem Json.isDigit_of_mem_natText {c : Char} {n : Nat} (h : c ∈ (natText n).toList) : c.isDigit = true := by
  rcases hc : c.isDigit with _ | _
  · exact absurd h (not_mem_natText hc n)
  · rfl

theorem Json.isName_natText (n : Nat) : Path.IsName (natText n).toList :=
  Path.isName_of_isDigit (fun _ hc => isDigit_of_mem_natText hc) (by
    rw [natText, String.toList_ofList]
    exact Nat.toDigits_ne_nil)

/-- **The digits of a number spell it.** -/
theorem Text.uint64?_natText (n : UInt64) : uint64? (Json.natText n.toNat) = some n := by
  have hdigits : ∀ c ∈ (Json.natText n.toNat).toList, c.isDigit = true := fun _ hc => Json.isDigit_of_mem_natText hc
  obtain ⟨c, cs, hcs⟩ := List.exists_cons_of_ne_nil (Json.isName_natText n.toNat).ne_nil
  have hsign : c ≠ '+' := fun he => absurd (hdigits c (hcs ▸ List.mem_cons_self)) (by rw [he]; decide)
  have hall : (c :: cs).all (fun c => '0' ≤ c && c ≤ '9') = true := by
    rw [← hcs]
    exact List.all_eq_true.2 fun d hd => hdigits d hd
  have hvalue : (c :: cs).foldl (fun n c => 10 * n + (c.toNat - 48)) 0 = n.toNat := by
    rw [← hcs, Json.natText, String.toList_ofList]
    exact Nat.ofDigitChars_eq_foldl.symm.trans (Nat.ofDigitChars_ten_toDigits ..)
  have hlt : n.toNat < Nat.pow 2 64 := n.toNat_lt
  unfold Text.uint64?
  simp only [hcs]
  split
  · rename_i hplus
    exact absurd (List.cons.inj hplus).1 hsign
  · rw [hall, hvalue, if_neg (by simp), if_pos hlt]
    exact congrArg some (UInt64.ofNat_toNat ..)

/-! ## Addresses of numbered members -/

variable {S : Schema} {t : S.Ty}

namespace Collection

open Hypermedia.Path (AllSound Segment)

variable {c : Collection S t}

/-- **The address of a numbered member** is that of the collection up to the path, and its path is one of segments, the
number the last of them. -/
theorem memberUri_natText (sound : c.uri.Sound) (web : c.uri.IsWeb) :
    ∃ segments : List Segment, AllSound true segments ∧ ∀ n, c.memberUri (Json.natText n) =
      { c.uri with path := String.ofList (Path.chars (segments ++ [(Json.natText n).toList])) } := by
  obtain ⟨-, segments, -, hsound, hpath⟩ := sound.stripped web
  refine ⟨segments, hsound, fun n => ?_⟩
  have happend := Uri.append_name sound web (Json.isName_natText n)
  rwa [String.ofList_toList, hpath, ← Path.chars_singleton, ← Path.chars_append] at happend

theorem sound_memberUri (sound : c.uri.Sound) (web : c.uri.IsWeb) (id : String) : (c.memberUri id).Sound :=
  Uri.sound_append sound web id

theorem isWeb_memberUri (sound : c.uri.Sound) (web : c.uri.IsWeb) (id : String) : (c.memberUri id).IsWeb :=
  Uri.isWeb_append sound web id

/-- The number of a member is the last segment of its address. -/
theorem lastSegment?_memberUri (sound : c.uri.Sound) (web : c.uri.IsWeb) (n : Nat) :
    Path.lastSegment? (c.memberUri (Json.natText n)).path = some (Json.natText n) := by
  obtain ⟨segments, hsound, hmember⟩ := memberUri_natText sound web
  have hall : AllSound true (segments ++ [(Json.natText n).toList]) := fun s hs =>
    (List.mem_append.1 hs).elim (hsound s) fun hs => List.mem_singleton.1 hs ▸ (Json.isName_natText n).sound
  unfold Path.lastSegment?
  rw [hmember, String.toList_ofList, Path.segments?_chars hall (by simp), Option.bind_some, List.getLast?_concat,
    Option.map_some, String.ofList_toList]

/-- **The address of a numbered member is read from its text** just when that of the collection is. -/
theorem join?_memberUri_iff (sound : c.uri.Sound) (web : c.uri.IsWeb) (n : Nat) :
    c.uri.join? (c.memberUri (Json.natText n)).text = .ok (c.memberUri (Json.natText n)) ↔
      Uri.parse? c.uri.text = .ok c.uri := by
  obtain ⟨segments, -, hmember⟩ := memberUri_natText sound web
  have hscheme : (c.memberUri (Json.natText n)).scheme = c.uri.scheme := by rw [hmember]
  have hauthority : (c.memberUri (Json.natText n)).authority = c.uri.authority := by rw [hmember]
  exact Uri.read_alike sound web (sound_memberUri sound web _) hscheme hauthority (some c.uri)

/-- **Members whose addresses have one text have one number.** -/
theorem natText_of_memberUri (sound : c.uri.Sound) (web : c.uri.IsWeb) {m n : Nat}
    (h : (c.memberUri (Json.natText m)).text = (c.memberUri (Json.natText n)).text) :
    Json.natText m = Json.natText n := by
  obtain ⟨segments, -, hmember⟩ := memberUri_natText sound web
  rw [hmember, hmember, Uri.text_path_inj] at h
  have hpaths := String.ofList_injective h
  rw [Path.chars_append, Path.chars_append, Path.chars_singleton, Path.chars_singleton] at hpaths
  exact String.toList_inj.1 (List.cons.inj (List.append_cancel_left hpaths)).2

end Collection

/-! ## Created entities -/

namespace Repository

variable {r : Repository S t} {a : S.Content t} {s : Traces S} {answer : Response} {location : String}

theorem after_post_of_created (answered : r.Answered a s answer)
    (accepted : Status.isSuccess answer.status = true) (told : answer.location = some location) :
    (r.collection.post a).after s =
      ((r.collection.uri.join? location).mapError (.invalidUri location),
        r.collection.service.noted s (r.creation a)) := by
  have hlocation : Service.locationOf r.collection.uri answer =
      (r.collection.uri.join? location).mapError (.invalidUri location) := by
    have hsuccess : answer.success = .ok answer := if_pos accepted
    unfold Service.locationOf
    rw [hsuccess]
    simp only [bind, Except.bind, told]
  rw [after_post_of_answered answered, hlocation]

theorem after_storeUri_of_created
    (answered : r.Answered a s answer)
    (accepted : Status.isSuccess answer.status = true) (told : answer.location = some location) :
    (r.storeUri a).after s =
      ((r.collection.uri.join? location).mapError (.invalidUri location),
        r.collection.service.noted s (r.creation a)) := by
  unfold storeUri
  rw [after_tryCatch, after_post_of_created answered accepted told]
  rcases r.collection.uri.join? location with e | uri <;> rfl

/-- **An entity that was created** gets its address where the server says that it is, and its id behind that. -/
theorem after_save_of_created (answered : r.Answered a s answer)
    (accepted : Status.isSuccess answer.status = true) (told : answer.location = some location)
    (unplaced : r.identity.slot.get a = none) :
    (r.save a).after s = match r.collection.uri.join? location with
      | .ok uri => (r.withId uri (r.identity.slot.put a uri)).after (r.collection.service.noted s (r.creation a))
      | .error e => (.error (.invalidUri location e), r.collection.service.noted s (r.creation a)) := by
  have hstored := after_storeUri_of_created answered accepted told
  rcases hjoin : r.collection.uri.join? location with e | uri <;> rw [hjoin] at hstored
  · exact after_bind_error hstored _
  · have hset : r.identity.slot.set a uri = .ok (r.identity.slot.put a uri) := by
      unfold AddressSlot.set
      rw [unplaced]
    unfold save
    rw [after_bind_ok hstored, hset]
    rfl

variable {uri : Uri}

/-- Ids that are numbers are read from the addresses of their members, whatever host is read from these. -/
theorem idOf?_of_join? (numbered : r.identity.Numbered) (sound : r.collection.uri.Sound) (web : r.collection.uri.IsWeb)
    {n : UInt64} (h : r.collection.uri.join? (r.collection.memberUri (Json.natText n.toNat)).text = .ok uri) :
    r.idOf? uri = some (numbered.ofNumber n) := by
  have hpath : uri.path = (r.collection.memberUri (Json.natText n.toNat)).path :=
    Uri.path_of_parseFrom?_text (Collection.sound_memberUri sound web _) (Collection.isWeb_memberUri sound web _) h
  unfold idOf?
  rw [hpath, Collection.lastSegment?_memberUri sound web, Option.bind_some, numbered.read?_eq,
    Text.uint64?_natText, Option.map_some]

/-- **An entity that was created as a numbered member** has this number and the address that was read. -/
theorem after_save_of_member (numbered : r.identity.Numbered) (sound : r.collection.uri.Sound)
    (web : r.collection.uri.IsWeb) {n : UInt64} (unnumbered : r.identity.id a = none)
    (unplaced : r.identity.slot.get a = none)
    (answered : r.Answered a s answer)
    (accepted : Status.isSuccess answer.status = true)
    (told : answer.location = some (r.collection.memberUri (Json.natText n.toNat)).text)
    (h : r.collection.uri.join? (r.collection.memberUri (Json.natText n.toNat)).text = .ok uri) :
    (r.save a).after s = (.ok (r.identity.setId (r.identity.slot.put a uri) (numbered.ofNumber n)),
      r.collection.service.noted s (r.creation a)) := by
  have hid : r.identity.id (r.identity.slot.put a uri) = none := (r.identity.id_put a uri).trans unnumbered
  rw [after_save_of_created answered accepted told unplaced, h]
  simp only [withId, hid, idOf?_of_join? numbered sound web h, after_pure]

/-- **An entity that was created as a member is not saved** when the host of the collection is not read. -/
theorem after_save_of_unread (sound : r.collection.uri.Sound) (web : r.collection.uri.IsWeb) {n : Nat} {host : Host}
    {e : UriError} (hhost : r.collection.uri.authority = some { host := some host })
    (unread : Host.special? host.chars = .error e) (unplaced : r.identity.slot.get a = none)
    (answered : r.Answered a s answer)
    (accepted : Status.isSuccess answer.status = true)
    (told : answer.location = some (r.collection.memberUri (Json.natText n)).text) :
    (r.save a).after s = (.error (.invalidUri (r.collection.memberUri (Json.natText n)).text e),
      r.collection.service.noted s (r.creation a)) := by
  obtain ⟨segments, -, hmember⟩ := Collection.memberUri_natText sound web
  have hauthority : (r.collection.memberUri (Json.natText n)).authority = some { host := some host } := by
    rw [hmember, hhost]
  have hread : r.collection.uri.join? (r.collection.memberUri (Json.natText n)).text = .error e := by
    have hweb := Collection.isWeb_memberUri sound web (Json.natText n)
    rw [Uri.join?, Uri.parseFrom?_text_web (Collection.sound_memberUri sound web _) hweb hauthority rfl, unread]
    rfl
  rw [after_save_of_created answered accepted told unplaced, hread]

/-- **Numbers go into addresses and come back.**  In a collection on the web no two numbers have members with one
address.  An entity without id and address is created, and the server says that it is the member with a number.  It is
saved with this number as its id and with the address of this member, and no other request is sent, just if the text of
the address of the collection is read as this address. -/
theorem numbered_save (r : Repository S t) (numbered : r.identity.Numbered) (sound : r.collection.uri.Sound)
    (web : r.collection.uri.IsWeb) :
    let member (n : UInt64) := r.collection.memberUri (r.identity.text (numbered.ofNumber n))
    (∀ m n, m ≠ n → (member m).text ≠ (member n).text) ∧
    ∀ (n : UInt64) (a : S.Content t) (s : Traces S) (answer : Response),
      r.identity.id a = none → r.identity.slot.get a = none →
      r.Answered a s answer → answer.status = 201 → answer.location = some (member n).text →
      ((∃ saved s', (r.save a).after s = (.ok saved, s') ∧ r.identity.id saved = some (numbered.ofNumber n) ∧
          r.identity.slot.get saved = some (member n) ∧ s'.requests = r.creation a :: s.requests) ↔
        Uri.parse? r.collection.uri.text = .ok r.collection.uri) := by
  intro member
  have hmember : ∀ n, member n = r.collection.memberUri (Json.natText n.toNat) := fun n =>
    congrArg r.collection.memberUri (numbered.text_ofNumber n)
  refine ⟨fun m n hne heq => hne ?_, fun n a s answer unnumbered unplaced answered status told => ?_⟩
  · rw [hmember, hmember] at heq
    have htext := congrArg Text.uint64? (Collection.natText_of_memberUri sound web heq)
    rw [Text.uint64?_natText, Text.uint64?_natText] at htext
    exact Option.some.inj htext
  have accepted : Status.isSuccess answer.status = true := by rw [status]; rfl
  rw [hmember] at told ⊢
  have hsaved : ∀ uri, r.collection.uri.join? (r.collection.memberUri (Json.natText n.toNat)).text = .ok uri →
      (r.save a).after s = (.ok (r.identity.setId (r.identity.slot.put a uri) (numbered.ofNumber n)),
        r.collection.service.noted s (r.creation a)) := fun _ =>
    after_save_of_member numbered sound web unnumbered unplaced answered accepted told
  rw [← Collection.join?_memberUri_iff sound web n.toNat]
  constructor
  · rintro ⟨saved, s', hsave, -, hget, -⟩
    rcases hjoin : r.collection.uri.join? (r.collection.memberUri (Json.natText n.toNat)).text with e | uri
    · rw [after_save_of_created answered accepted told unplaced, hjoin] at hsave
      cases hsave
    · rw [hsaved uri hjoin] at hsave
      cases hsave
      rw [r.identity.get_setId, r.identity.slot.get_put] at hget
      exact congrArg _ (Option.some.inj hget)
  · intro hjoin
    refine ⟨_, _, hsaved _ hjoin, r.identity.id_setId _ _, ?_, rfl⟩
    rw [r.identity.get_setId, r.identity.slot.get_put]

end Repository

namespace Family

def Person.numbered : Person.identity.Numbered where
  ofNumber n := n
  text_ofNumber _ := rfl
  read?_eq _ := Option.map_id'.symm

/-- Parents at an address, and a server that creates whatever it is asked for at a location. -/
def parentsAt (uri : Uri) (location : String) : Repository schema Ty.parent where
  collection :=
    { service :=
        { configuration := { base }
          transport := { answer := fun _ _ => .ok { status := 201, location := some location } } }
      uri
      batchUri := base.append "/batch" }
  identified := parentIdentified
  retry := .once

/-- The largest number, in a collection with a slash at the end of the path and a query. -/
theorem bart_numbered :
    let uri : Uri := { base with path := "/api/parents/", query := some "key=1" }
    let member : Uri := { base with path := "/api/parents/18446744073709551615", query := some "key=1" }
    Uri.parse? "http://host/api/parents/?key=1" = .ok uri ∧
    ∃ saved s', ((parentsAt uri member.text).save { name := "Bart" }).after {} = (.ok saved, s') ∧
      saved.id = some 18446744073709551615 ∧ saved.uri = some member ∧ s'.requests.length = 1 := by
  intro uri member
  have hparse : Uri.parse? "http://host/api/parents/?key=1" = .ok uri := by decide +kernel
  have hread : Uri.parse? uri.text = .ok uri := by decide +kernel
  let r := parentsAt uri member.text
  let n : UInt64 := 18446744073709551615
  have hmember : r.collection.memberUri (Person.identity.text (Person.numbered.ofNumber n)) = member := by
    decide +kernel
  obtain ⟨-, hsave⟩ := r.numbered_save Person.numbered (Uri.sound_of_parse? hparse) (.inl rfl)
  obtain ⟨saved, s', hsaved, hid, huri, hrequests⟩ :=
    (hsave n { name := "Bart" } {} _ rfl rfl ⟨rfl, rfl⟩ rfl (congrArg (some ·.text) hmember.symm)).2 hread
  exact ⟨hparse, saved, s', hsaved, hid, huri.trans (congrArg some hmember), congrArg List.length hrequests⟩

/-- **An entity that is not saved though it was created as a member**: the address of the collection was read from a
host of ideographs, and the text of that address has a host that is too long to be read. -/
theorem homer_unsaved :
    let uri := Uri.ideographBase
    let r := parentsAt uri (uri.append "7").text
    Uri.parse? (String.ofList ("http://".toList ++ Domain.ideographs)) = .ok uri ∧
    r.collection.memberUri (Person.identity.text (Person.numbered.ofNumber 7)) = uri.append "7" ∧
    ((r.save { name := "Homer" }).after {}).1 = .error (.invalidUri (uri.append "7").text .invalidDomain) := by
  intro uri r
  have hparse : Uri.parse? (String.ofList ("http://".toList ++ Domain.ideographs)) = .ok uri := Uri.parse?_ideographs
  have hseven : Person.identity.text (Person.numbered.ofNumber 7) = Json.natText 7 := rfl
  have htext : Json.natText 7 = "7" := by decide
  have hsave := @Repository.after_save_of_unread schema Ty.parent r { name := "Homer" } {}
    { status := 201, location := some (uri.append "7").text } (Uri.sound_of_parse? hparse) (.inl rfl) 7 _ _ rfl
    Uri.special?_ideographs.2 rfl ⟨rfl, rfl⟩ rfl (by rw [htext]; rfl)
  rw [htext] at hsave
  exact ⟨hparse, by rw [hseven, htext]; rfl, congrArg Prod.fst hsave⟩

end Family
end Hypermedia
