import Hypermedia.Entity.Identity
import Hypermedia.Text.Digit
/-!
# Parents and children

Persons have a number that the server assigns, a name, and an address.
-/
namespace Hypermedia
namespace Family

structure Person where
  id : Option UInt64 := none
  name : String
  uri : Option Uri := none

namespace Person

def slot : AddressSlot Person where
  get := Person.uri
  put p u := { p with uri := some u }
  get_put _ _ := rfl

def identity : Identity Person where
  Id := UInt64
  sameId i j := i == j
  id := Person.id
  setId p i := { p with id := some i }
  text i := Json.natText i.toNat
  read? := Text.uint64?
  bytes := Identity.wordBytes
  slot := slot
  id_setId _ _ := rfl
  id_put _ _ := rfl
  get_setId _ _ := rfl

/-- Whether two persons are the same: by number, by address, or by name. -/
def same (p q : Person) : Bool := identity.same (fun p q => p.name == q.name) p q

def fingerprint (p : Person) : List UInt8 := identity.fingerprint (fun p => Identity.textBytes p.name) p

def decoder (kind : String) : Json.RecordDecoder Person where
  name := kind
  blank := { name := "" }
  fields :=
    [.defaulted "id" (Json.Decoder.optional (Json.Decoder.unsigned 64 "u64"))
        fun i p => { p with id := i.map Nat.toUInt64 },
      .needed "name" Json.Decoder.text fun s p => { p with name := s }]

theorem uri_of_decode {kind : String} {v : Json} {p : Person} (h : (decoder kind).decode v = .ok p) : p.uri = none :=
  Json.RecordDecoder.decode_keeps (decoder kind) (P := fun p => p.uri = none) rfl
    (by
      intro fd hfd
      simp only [decoder, List.mem_cons, List.not_mem_nil, or_false] at hfd
      rcases hfd with rfl | rfl
      · exact Json.RecordDecoder.keeps_defaulted fun _ _ hp => hp
      · exact Json.RecordDecoder.keeps_needed fun _ _ hp => hp) h

def toJson (p : Person) : Json :=
  .object ((p.id.map fun i => ("id", Json.ofNat i.toNat)).toList ++ [("name", .text p.name)])

def entity {κ : Type} (kind path : String) (declarations : List (Accessor κ)) : EntityType κ Person where
  kind := kind
  path := some path
  declarations := declarations
  decode _ := (decoder kind).decode
  encode p := .ok p.toJson
  equal := same
  slot := some slot
  exposed := true
  encode_put := by rintro s h _ _; cases h; rfl
  contentKind_put := by rintro s h _ _; rfl
  get_of_decode := by rintro s h _ _ _ hv; cases h; exact uri_of_decode hv
  put_get := by rintro s h p _ hp; cases h; cases p; cases hp; rfl

end Person
end Family
end Hypermedia
