import Hypermedia.Entity.Identity
/-!
# Items and parcels

Items have a code that the server assigns, a name, and an address that proxies do not see.  A parcel is an item that is
written only under a name.
-/
namespace Hypermedia
namespace Family

structure Item where
  code : Option String := none
  name : String
  uri : Option Uri := none

namespace Item

def slot : AddressSlot Item where
  get := Item.uri
  put i u := { i with uri := some u }
  get_put _ _ := rfl

def identity : Identity Item where
  Id := String
  sameId c d := c == d
  id := Item.code
  setId i c := { i with code := some c }
  text c := c
  read? := some
  bytes := Identity.textBytes
  slot := slot
  id_setId _ _ := rfl
  id_put _ _ := rfl
  get_setId _ _ := rfl

/-- Whether two items are the same: by code, by address, or by name. -/
def same (i j : Item) : Bool := identity.same (fun i j => i.name == j.name) i j

def fingerprint (i : Item) : List UInt8 := identity.fingerprint (fun i => Identity.textBytes i.name) i

def decoder : Json.RecordDecoder Item where
  name := "Item"
  blank := { name := "" }
  fields :=
    [.defaulted "code" (Json.Decoder.optional Json.Decoder.text) fun c i => { i with code := c },
      .needed "name" Json.Decoder.text fun s i => { i with name := s }]

theorem uri_of_decode {v : Json} {i : Item} (h : decoder.decode v = .ok i) : i.uri = none :=
  Json.RecordDecoder.decode_keeps decoder (P := fun i => i.uri = none) rfl
    (by
      intro fd hfd
      simp only [decoder, List.mem_cons, List.not_mem_nil, or_false] at hfd
      rcases hfd with rfl | rfl
      · exact Json.RecordDecoder.keeps_defaulted fun _ _ hi => hi
      · exact Json.RecordDecoder.keeps_needed fun _ _ hi => hi) h

def toJson (i : Item) : Json :=
  .object ((i.code.map fun c => ("code", Json.text c)).toList ++ [("name", .text i.name)])

def entity (κ : Type) : EntityType κ Item where
  kind := "Item"
  path := some "items/all/"
  decode _ := decoder.decode
  encode i := .ok i.toJson
  equal := same
  slot := some slot
  encode_put := by rintro s h _ _; cases h; rfl
  contentKind_put := by rintro s h _ _; rfl
  get_of_decode := by rintro s h _ _ _ hv; cases h; exact uri_of_decode hv
  put_get := by rintro s h i _ hi; cases h; cases i; cases hi; rfl

end Item

def parcelEntity (κ : Type) : EntityType κ Item :=
  { Item.entity κ with
    kind := "Parcel"
    path := some "/parcels"
    accepts := fun kind => kind == "Parcel"
    encode := fun i => if i.name.isEmpty then .error "a parcel needs a name" else .ok i.toJson
    contentKind := fun _ => "Parcel"
    encode_put := by rintro s h _ _; cases h; rfl
    contentKind_put := by rintro s h _ _; rfl }

end Family
end Hypermedia
