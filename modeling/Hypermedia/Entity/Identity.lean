import Hypermedia.Entity.Basic
/-!
# Identity

Entities whose ids the server assigns are the same when their ids are; as long as one of them has none, when their
addresses are; and otherwise when what they say is.  A fingerprint is made from the first of the three that an entity
has.
-/
namespace Hypermedia

structure Identity (α : Type) where
  Id : Type
  /-- Whether two ids are equal, as their type compares them. -/
  sameId : Id → Id → Bool
  id : α → Option Id
  setId : α → Id → α
  /-- The text of an id in an address. -/
  text : Id → String
  /-- The id that a segment of an address spells. -/
  read? : String → Option Id
  /-- The bytes of an id in a fingerprint. -/
  bytes : Id → List UInt8
  slot : AddressSlot α
  id_setId : ∀ a i, id (setId a i) = some i
  id_put : ∀ a u, id (slot.put a u) = id a
  get_setId : ∀ a i, slot.get (setId a i) = slot.get a

namespace Identity

variable {α : Type}

/-- Whether two entities are the same, where `alike` compares what they say. -/
def same (I : Identity α) (alike : α → α → Bool) (a b : α) : Bool :=
  match I.id a, I.id b with
  | some i, some j => I.sameId i j
  | _, _ =>
    match I.slot.get a, I.slot.get b with
    | some u, some v => u.same v
    | _, _ => alike a b

def textBytes (s : String) : List UInt8 := s.toUTF8.toList ++ [0xff]

/-- The bytes of a number of 64 bits in a fingerprint, the lowest first. -/
def wordBytes (n : UInt64) : List UInt8 :=
  (List.range 8).map fun i => (n.toNat / Nat.pow 256 i).toUInt8

/-- The fingerprint of an entity, where `content` is that of what it says. -/
def fingerprint (I : Identity α) (content : α → List UInt8) (a : α) : List UInt8 :=
  match I.id a, I.slot.get a with
  | some i, _ => I.bytes i
  | none, some u => textBytes u.text
  | none, none => content a

end Identity

/-- How the entities of a type of a schema are told apart: their addresses are kept where the type keeps them. -/
structure Schema.Identified (S : Schema) (t : S.Ty) where
  identity : Identity (S.Content t)
  slot_eq : (S.entity t).slot = some identity.slot

end Hypermedia
