import Hypermedia.Accessor.Basic
import Hypermedia.Failure
/-!
# Accessor tables

The table of an entity type holds its declared accessors, each name once and in the order of the first declarations,
and an index from the names to where their accessors stand.  A name may be declared again with the same meaning, but not
with another one.  Every name that is not declared is a plain property.
-/
namespace Hypermedia

structure AccessorTable (κ : Type) where
  /-- The kind of the entity type. -/
  owner : String
  accessors : List (Accessor κ)
  /-- Where the accessor of a name stands. -/
  index : List (String × Nat)
  index_eq : ∀ name, index.lookup name = accessors.findIdx? (·.name == name)

namespace AccessorTable

variable {κ : Type}

/-- Whether two associations are declared alike.  Their targets are compared by kind. -/
def alike (kindOf : κ → String) (a b : Association κ) : Bool :=
  a.relation == b.relation && a.mayLack == b.mayLack && kindOf a.target == kindOf b.target &&
    a.cardinality == b.cardinality

def clash? (kindOf : κ → String) (owner : String) (first second : Accessor κ) : Option ConfigurationFault :=
  match first.role, second.role with
  | .resourceId, .resourceId => none
  | .property, .property => none
  | .association a, .association b => if alike kindOf a b then none else some (.twoLinks second.name owner)
  | r, s => some (.twoRoles second.name owner r.name s.name)

def empty (owner : String) : AccessorTable κ where
  owner
  accessors := []
  index := []
  index_eq _ := rfl

theorem lookup_index_add {accessors : List (Accessor κ)} {index : List (String × Nat)}
    (h : ∀ name, index.lookup name = accessors.findIdx? (·.name == name)) {a : Accessor κ}
    (unknown : index.lookup a.name = none) (name : String) :
    ((a.name, accessors.length) :: index).lookup name = (accessors ++ [a]).findIdx? (·.name == name) := by
  have hnone := (h a.name).symm.trans unknown
  rw [List.lookup_cons, h, List.findIdx?_append, List.findIdx?_singleton]
  by_cases hname : a.name = name
  · rw [← hname, hnone]
    simp
  · rw [beq_false_of_ne hname, beq_false_of_ne (Ne.symm hname)]
    simp

/-- Adds an accessor whose name is not in the index. -/
def add (t : AccessorTable κ) (a : Accessor κ) (unknown : t.index.lookup a.name = none) : AccessorTable κ where
  owner := t.owner
  accessors := t.accessors ++ [a]
  index := (a.name, t.accessors.length) :: t.index
  index_eq := lookup_index_add t.index_eq unknown

/-- The accessor that the index knows by a name. -/
def known? (t : AccessorTable κ) (name : String) : Option (Accessor κ) :=
  (t.index.lookup name).bind (t.accessors[·]?)

theorem known?_eq (t : AccessorTable κ) (name : String) : t.known? name = t.accessors.find? (·.name == name) := by
  rw [known?, t.index_eq, List.find?_eq_bind_findIdx?_getElem?]

/-- Takes in one more declaration: a name that is known must be declared again as the accessor that is known by it. -/
def declare (kindOf : κ → String) (t : AccessorTable κ) (d : Accessor κ) :
    Except ConfigurationFault (AccessorTable κ) :=
  match h : t.index.lookup d.name with
  | none => .ok (t.add d h)
  | some i =>
    match t.accessors[i]?.bind fun first => clash? kindOf t.owner first d with
    | none => .ok t
    | some fault => .error fault

def ofDeclarations (kindOf : κ → String) (owner : String) (ds : List (Accessor κ)) :
    Except ConfigurationFault (AccessorTable κ) :=
  ds.foldlM (declare kindOf) (empty owner)

def lookup (t : AccessorTable κ) (name : String) : Accessor κ :=
  (t.known? name).getD ⟨name, .property⟩

theorem lookup_eq (t : AccessorTable κ) (name : String) :
    t.lookup name = (t.accessors.find? (·.name == name)).getD ⟨name, .property⟩ := by
  rw [lookup, known?_eq]

def resourceId? (t : AccessorTable κ) : Option (Accessor κ) := t.accessors.find? (·.isResourceId)

end AccessorTable
end Hypermedia
