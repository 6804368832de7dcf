import Hypermedia.Entity.Basic
import Hypermedia.Settings.Basic
/-!
# Configurations

A configuration holds the base address of a service, the settings, and the type information that an application
registers in place of what its types say themselves.  A builder collects what is wrong with registrations and reports
all of it at once; types that are registered are prepared when the configuration is built, all others when they are
first used.
-/
namespace Hypermedia

structure Metadata (S : Schema) where
  table : AccessorTable S.Ty
  /-- Chooses concrete kinds; a type without one stands for itself. -/
  resolver : Option Resolver

structure Configuration (S : Schema) where
  base : Uri
  settings : Settings := {}
  typeInfos : List (String × TypeInfo) := []
  /-- The types that were prepared when the configuration was built, the latest first. -/
  prepared : List S.Ty := []

namespace Configuration

variable {S : Schema}

def batchUri (c : Configuration S) : Uri := c.base.append c.settings.service.batchPath

/-- The type information of an entity type: the registered one, or else its own. -/
def typeInfo? (c : Configuration S) (t : S.Ty) : Option TypeInfo :=
  (c.typeInfos.lookup (S.kind t)).or (S.entity t).typeInfo

/-- The resolver of an entity type with the given information, which has to fit the type. -/
def resolverOf (t : S.Ty) : Option TypeInfo → Outcome (Option Resolver)
  | none => .ok none
  | some info =>
    match info.fault? (S.entity t).descriptor (S.entity t).accepts with
    | some fault => .error (.configuration fault)
    | none => .ok (some info.resolverToUse)

def metadata (c : Configuration S) (t : S.Ty) : Outcome (Metadata S) := do
  let table ← S.table t
  let resolver ← resolverOf t (c.typeInfo? t)
  return ⟨table, resolver⟩

/-- Whether the second kind is known to be a subtype of the first.  Every kind is one of itself, and the prepared
types know about theirs. -/
def isSubtype (prepared : List S.Ty) (declared candidate : String) : Bool :=
  declared == candidate ||
    match prepared.find? (S.kind · == declared) with
    | some t => (S.entity t).accepts candidate
    | none => false

def resolve (c : Configuration S) (prepared : List S.Ty) (t : S.Ty) (resolver : Option Resolver) (links : Links) :
    Outcome String :=
  match resolver with
  | none => .ok (S.kind t)
  | some r => do
    let kind ← r ⟨c.base, isSubtype prepared⟩ (S.entity t).descriptor links
    if (S.entity t).accepts kind then return kind
    else throw (.configuration (.foreignResolution kind (S.kind t)))

def prepare (prepared : List S.Ty) (t : S.Ty) : List S.Ty :=
  if t ∈ prepared then prepared else t :: prepared

def prepareAll (c : Configuration S) : List S.Ty → Outcome (Configuration S)
  | [] => .ok c
  | t :: ts => do
    let _ ← c.metadata t
    prepareAll { c with prepared := prepare c.prepared t } ts

structure Builder (S : Schema) where
  base : Option Uri := none
  settings : Settings := {}
  typeInfos : List (String × TypeInfo) := []
  registrations : List S.Ty := []
  faults : List ConfigurationFault := []

namespace Builder

def location (b : Builder S) (text : String) : Builder S :=
  match Uri.parse? text with
  | .ok uri => { b with base := some uri }
  | .error reason => { b with faults := b.faults ++ [.badLocation text reason] }

def withBase (b : Builder S) (uri : Uri) : Builder S := { b with base := some uri }

def withSettings (b : Builder S) (settings : Settings) : Builder S := { b with settings }

def resourceType (b : Builder S) (t : S.Ty) (info : TypeInfo) : Builder S :=
  { b with
    faults := b.faults ++ (info.fault? (S.entity t).descriptor (S.entity t).accepts).toList
    typeInfos := (S.kind t, info) :: b.typeInfos.filter (·.1 != S.kind t)
    registrations := b.registrations ++ [t] }

def entity (b : Builder S) (t : S.Ty) : Builder S := { b with registrations := b.registrations ++ [t] }

/-- The base address that was given, or else the location in the settings. -/
def baseOf (b : Builder S) : Outcome Uri :=
  match b.base with
  | some uri => .ok uri
  | none => (Uri.parse? b.settings.service.location).mapError (.invalidUri b.settings.service.location)

def build (b : Builder S) : Outcome (Configuration S) := do
  if !b.faults.isEmpty then throw (.configuration (.collected b.faults))
  let base ← b.baseOf
  prepareAll { base, settings := b.settings, typeInfos := b.typeInfos } b.registrations

end Builder

def ofSettings (settings : Settings) : Outcome (Configuration S) :=
  ({ settings } : Builder S).build

def outline (c : Configuration S) (prepared : List S.Ty) : Outline :=
  .record "Configuration" [("base_uri", .text c.base.text), ("settings", c.settings.outline),
    ("registered_types", .number c.typeInfos.length), ("cached_entities", .number prepared.length)]

end Configuration

def Metadata.outline {S : Schema} (m : Metadata S) (t : S.Ty) : Outline :=
  .record "EntityMetadata" [("descriptor", (S.entity t).descriptor.outline),
    ("methods", .number m.table.accessors.length), ("polymorphic", .bool m.resolver.isSome)]

end Hypermedia
