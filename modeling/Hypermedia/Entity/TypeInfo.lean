import Hypermedia.Entity.Descriptor
import Hypermedia.Href
/-!
# Type information

A declared type may stand for several concrete ones.  Which of them a fetched resource has is told either by the
address of the resource, which lies below the collection of its type, or by a rule of the application's own.
-/
namespace Hypermedia

structure ResolutionContext where
  base : Uri
  /-- Whether the second kind is known to be a subtype of the first. -/
  isSubtype : String → String → Bool

abbrev Resolver := ResolutionContext → Descriptor → Links → Outcome String

/-- The subtypes of a declared type, or the resolver that knows about them. -/
structure TypeInfo where
  subtypes : List Descriptor := []
  resolver : Option Resolver := none

namespace Resolver

def below (collection uri : Uri) : Bool :=
  (Text.stripRight (· == '/') collection.chars ++ ['/']).isPrefixOf uri.chars

/-- The first candidate whose collection an address lies below.  A candidate without a path has no collection. -/
def candidate? (base : Uri) (candidates : List Descriptor) (uri : Uri) : Option Descriptor :=
  candidates.find? fun c =>
    match c.path with
    | some path => below (base.append path) uri
    | none => false

/-- Chooses among candidates by the address of the resource, and keeps the declared type when there is no address or
no candidate for it. -/
def bySelfLink (candidates : List Descriptor) : Resolver := fun context declared links => do
  match ← links.selfUri? context.base with
  | none => return declared.kind
  | some uri =>
    match candidate? context.base candidates uri with
    | none => return declared.kind
    | some c =>
      if context.isSubtype declared.kind c.kind then return c.kind
      else throw (.configuration (.notSubtype c.kind declared.kind))

end Resolver

namespace TypeInfo

def subtypeFault? (declared : Descriptor) (accepts : String → Bool) (s : Descriptor) : Option ConfigurationFault :=
  if !accepts s.kind then some (.notSubtype s.kind declared.kind)
  else if s.path.isNone then some (.subtypeWithoutPath s.kind declared.kind)
  else none

def fault? (info : TypeInfo) (declared : Descriptor) (accepts : String → Bool) : Option ConfigurationFault :=
  if info.subtypes.isEmpty == info.resolver.isNone then some (.typeInfoShape declared.kind)
  else info.subtypes.findSome? (subtypeFault? declared accepts)

def resolverToUse (info : TypeInfo) : Resolver :=
  info.resolver.getD (.bySelfLink info.subtypes)

end TypeInfo
end Hypermedia
