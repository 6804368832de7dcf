import Hypermedia.Accessor.Table
import Hypermedia.Entity.TypeInfo
/-!
# Entity types

What a client has to know about a type of resources: its kind and its collection, its accessors, how its content is
read from a document and written to one, which may fail both ways, and whether the content has room for the address of
its resource.  The address is never part of the document.  A schema holds the entity types of an application, which may
lead to each other.
-/
namespace Hypermedia

structure AddressSlot (α : Type) where
  get : α → Option Uri
  put : α → Uri → α
  get_put : ∀ a u, get (put a u) = some u

/-- Sets the address of a value.  An address that is known may be set again but not changed. -/
def AddressSlot.set {α : Type} (s : AddressSlot α) (a : α) (u : Uri) : Outcome α :=
  match s.get a with
  | none => .ok (s.put a u)
  | some known => if known.same u then .ok (s.put a u) else .error (.uriConflict known u)

/-- A type of resources with content of type `α`, whose associations lead to the types in `κ`. -/
structure EntityType (κ α : Type) where
  kind : String
  /-- The path of the collection below the base address. -/
  path : Option String := none
  declarations : List (Accessor κ) := []
  typeInfo : Option TypeInfo := none
  /-- Whether a resource of a kind has content of this type. -/
  accepts : String → Bool := (· == kind)
  decode : String → Json.Decoder α
  encode : α → Json.Encoded
  contentKind : α → String := fun _ => kind
  equal : α → α → Bool
  /-- Where the content keeps its address. -/
  slot : Option (AddressSlot α) := none
  /-- Whether proxies see that place. -/
  exposed : Bool := false
  /-- The address is not part of the document. -/
  encode_put : ∀ s, slot = some s → ∀ a u, encode (s.put a u) = encode a := by intro s h; cases h
  /-- The address says nothing about the kind. -/
  contentKind_put : ∀ s, slot = some s → ∀ a u, contentKind (s.put a u) = contentKind a := by intro s h; cases h
  /-- Content that was just read has no address. -/
  get_of_decode : ∀ s, slot = some s → ∀ k v a, decode k v = .ok a → s.get a = none := by intro s h; cases h
  /-- Setting the address that content has changes nothing. -/
  put_get : ∀ s, slot = some s → ∀ a u, s.get a = some u → s.put a u = a := by intro s h; cases h

namespace EntityType

variable {κ α : Type}

def descriptor (e : EntityType κ α) : Descriptor := ⟨e.kind, e.path⟩

def address? (e : EntityType κ α) : Option (AddressSlot α) := if e.exposed then e.slot else none

def toJson (e : EntityType κ α) (a : α) : Outcome Json := Failure.encoded (e.encode a)

def assign (e : EntityType κ α) (a : α) (u : Option Uri) : Outcome α :=
  match e.address?, u with
  | some s, some u => s.set a u
  | _, _ => .ok a

end EntityType

structure Schema where
  Ty : Type
  decEq : DecidableEq Ty
  Content : Ty → Type
  entity : (t : Ty) → EntityType Ty (Content t)

namespace Schema

instance (S : Schema) : DecidableEq S.Ty := S.decEq

def kind (S : Schema) (t : S.Ty) : String := (S.entity t).kind

def table (S : Schema) (t : S.Ty) : Outcome (AccessorTable S.Ty) :=
  (AccessorTable.ofDeclarations S.kind (S.kind t) (S.entity t).declarations).mapError .configuration

end Schema
end Hypermedia
