import Hypermedia.Entity.Document
import Hypermedia.Family.Animal
import Hypermedia.Family.Content
import Hypermedia.Family.Item
import Hypermedia.Family.Person
import Hypermedia.Family.Widget
import Hypermedia.Script
import Hypermedia.Service.Basic
/-!
# A family of entity types

A schema to try clients on.  Parents and children lead to each other; the other types have every shape that an entity
type may have, also those that do not work: one declares an accessor in two roles, another one names a subtype that it
does not accept, and others do not accept their own kind, change kinds with a field, or cannot always be written.  Its
server answers from a script.
-/
namespace Hypermedia
namespace Family

inductive Ty where
  | parent
  | child
  | item
  | boy
  | girl
  | toddler
  | rooted
  | odd
  | nowhere
  | content
  | media
  | document
  | widget
  | scalar
  | badRoles
  | stray
  | kid
  | animal
  | parcel
  deriving DecidableEq

def Ty.Content : Ty → Type
  | .parent | .child => Person
  | .item | .parcel => Item
  | .boy | .girl | .toddler | .rooted | .odd | .nowhere | .badRoles | .stray | .kid => Named
  | .content => Family.Content
  | .animal => Animal
  | .media => Medium
  | .document => Json.Fields
  | .widget => Widget
  | .scalar => String

def one (name : String) (target : Ty) (relation : Option String) (mayLack : Bool) : Accessor Ty :=
  ⟨name, .association { relation, mayLack, target, cardinality := .one }⟩

def many (name : String) (target : Ty) (relation : Option String) (mayLack : Bool) : Accessor Ty :=
  ⟨name, .association { relation, mayLack, target, cardinality := .many }⟩

def parentAccessors : List (Accessor Ty) :=
  [⟨"getUri", .resourceId⟩, many "getChildren" .child none false, ⟨"getName", .property⟩]

def childAccessors : List (Accessor Ty) :=
  [⟨"getUri", .resourceId⟩, one "getParent" .parent none false, one "getSibling" .child none true,
    many "getFriends" .child (some "playmates") true]

def widgetAccessors : List (Accessor Ty) :=
  [one "getOwner" .parent none false, many "owner" .parent none false, one "isOwner" .child none true,
    one "getContent" .content none false, many "allContent" .content (some "contents") true,
    one "getSelf" .widget none true, one "getBroken" .badRoles none false, many "getMedia" .media (some "") false,
    ⟨"setName", .property⟩]

def Ty.entity : (t : Ty) → EntityType Ty t.Content
  | .parent => Person.entity "Parent" "/parents" parentAccessors
  | .child => Person.entity "Child" "/children" childAccessors
  | .item => Item.entity Ty
  | .boy => Named.entity boys.kind boys.path [] none
  | .girl => Named.entity girls.kind girls.path [] none
  | .toddler => Named.entity "Toddler" (some "/boys/toddlers/") [] none
  | .rooted => Named.entity "Rooted" (some "/") [] none
  | .odd => Named.entity "Odd" (some "odd/?x=1") [] none
  | .nowhere => Named.entity "Nowhere" none [] none
  | .content => Content.entity [⟨"getUri", .resourceId⟩]
  | .media => Medium.entity Ty
  | .document => EntityType.document Ty
  | .widget => Widget.entity widgetAccessors
  | .scalar => scalarEntity Ty
  | .badRoles => Named.entity "BadRoles" none [⟨"getName", .property⟩, one "getName" .parent none false] none
  | .stray =>
    Named.entity "Stray" (some "/strays") [] (some { subtypes := [⟨"Parent", some "/parents"⟩] })
  | .kid => kidEntity Ty
  | .animal => Animal.entity Ty
  | .parcel => parcelEntity Ty

@[reducible] def schema : Schema where
  Ty := Ty
  decEq := inferInstance
  Content := Ty.Content
  entity := Ty.entity

def Ty.all : List Ty :=
  [.parent, .child, .item, .boy, .girl, .toddler, .rooted, .odd, .nowhere, .content, .media, .document, .widget,
    .scalar, .badRoles, .stray, .kid, .animal, .parcel]

def Ty.ofKind? (kind : String) : Option Ty := Ty.all.find? (·.entity.kind == kind)

def parentIdentified : schema.Identified Ty.parent := ⟨Person.identity, rfl⟩

def itemIdentified : schema.Identified Ty.item := ⟨Item.identity, rfl⟩

def parcelIdentified : schema.Identified Ty.parcel := ⟨Item.identity, rfl⟩

def identified? : (t : Ty) → Option (schema.Identified t)
  | .parent => some parentIdentified
  | .child => some ⟨Person.identity, rfl⟩
  | .item => some itemIdentified
  | .parcel => some parcelIdentified
  | _ => none

def base : Uri := { scheme := "http", authority := some { host := some (.name "host") }, path := "/" }

@[reducible] def service (script : Script) : Service schema where
  configuration := { base }
  transport := script.transport

def answering (document : Json) : Response := { body := document.compact }

end Family
end Hypermedia
