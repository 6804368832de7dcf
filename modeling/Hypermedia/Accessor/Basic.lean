import Hypermedia.RelationName
import Hypermedia.Text.Outline
/-!
# Accessors

An entity type declares what its accessors stand for: the address of the resource, an association with resources of
another type, or a plain property.  `κ` is the type of entity types that associations may lead to.
-/
namespace Hypermedia

inductive Cardinality where
  | one
  | many
  deriving DecidableEq

def Cardinality.name : Cardinality → String
  | .one => "One"
  | .many => "Many"

structure Association (κ : Type) where
  /-- The relation to follow in place of the one that the accessor's name stands for. -/
  relation : Option String := none
  /-- Whether a missing link stands for an empty association. -/
  mayLack : Bool := false
  target : κ
  cardinality : Cardinality

/-- The relation that an association of the given accessor follows.  An empty relation counts as none. -/
def Association.linkName {κ : Type} (a : Association κ) (accessor : String) : String :=
  match a.relation with
  | some relation => if relation.isEmpty then RelationName.ofAccessor accessor else relation
  | none => RelationName.ofAccessor accessor

inductive Role (κ : Type) where
  | resourceId
  | association (a : Association κ)
  | property

def Role.name {κ : Type} : Role κ → String
  | .resourceId => "resource id"
  | .association _ => "linked resource"
  | .property => "simple property"

structure Accessor (κ : Type) where
  name : String
  role : Role κ

namespace Accessor

variable {κ : Type}

def isResourceId (a : Accessor κ) : Bool :=
  match a.role with
  | .resourceId => true
  | _ => false

def isProperty (a : Accessor κ) : Bool :=
  match a.role with
  | .property => true
  | _ => false

def association? (a : Accessor κ) : Option (Association κ) :=
  match a.role with
  | .association assoc => some assoc
  | _ => none

def linkName? (a : Accessor κ) : Option String :=
  a.association?.map (·.linkName a.name)

end Accessor

def Association.outline {κ : Type} (kindOf : κ → String) (a : Association κ) : Outline :=
  .record "LinkedTarget" [("kind", .text (kindOf a.target)), ("cardinality", .word a.cardinality.name)]

end Hypermedia
