import Hypermedia.Proxy.Creation
import Hypermedia.Proxy.Property
/-!
# Handlers of proxies

Every proxy has the same three handlers.  The resource's address comes from its link to itself, associations are fetched
from the server the first time and remembered by relation, and properties come from the content.  Only associations
lead to requests.  A call that fails leaves content and memory as they were.
-/
namespace Hypermedia

variable {S : Schema}

/-- A call on a proxy: what it gives, and what it leaves of content and memory. -/
abbrev Call (S : Schema) (t : S.Ty) := ProxyState S t → Action S (Invocation S × ProxyState S t)

namespace Handler

/-! ## The resource's address -/

/-- Gives the address in the link of a resource to itself, which the content gets as its own. -/
def readAddress {t : S.Ty} (base : Uri) (links : Links) (state : ProxyState S t) :
    Outcome (Invocation S × ProxyState S t) := do
  let uri ← links.selfUri? base
  let content ← (S.entity t).assign state.content uri
  return (.resourceId uri, { state with content })

def resourceId (t : S.Ty) (base : Uri) (links : Links) : Handler S.Ty (Call S t) where
  name := "resource id"
  claims := Accessor.isResourceId
  run _ _ state := Action.ofOutcome (readAddress base links state)

/-! ## Associations -/

def emptyValue (a : Association S.Ty) : LinkedValue S :=
  match a.cardinality with
  | .one => .one a.target none
  | .many => .many a.target []

/-- The address that an association leads to; none when its link is missing and may be. -/
def target? (base : Uri) (links : Links) (a : Association S.Ty) (relation : String) : Outcome (Option Uri) :=
  match links.get? relation with
  | some link => (base.resolve link.expand).map some
  | none => if a.mayLack then .ok none else .error (.noSuchLink relation)

def fetch (service : Service S) (links : Links) (a : Association S.Ty) (relation : String) :
    Action S (LinkedValue S) := do
  match ← Action.ofOutcome (target? service.base links a relation) with
  | none => return emptyValue a
  | some uri =>
    Action.measure (.fetch relation)
    service.load a uri

/-- Gives the value of an association.  A remembered value counts as a hit, unless the call has `waited` for the one
that brought it. -/
def follow {t : S.Ty} (service : Service S) (links : Links) (waited : Bool) (a : Association S.Ty)
    (relation : String) : Call S t := fun state => do
  match state.memory.lookup relation with
  | some value =>
    if !waited then Action.measure (.hit relation)
    return (.linked value, state)
  | none =>
    let value ← fetch service links a relation
    return (.linked value, { state with memory := (relation, value) :: state.memory })

def association (t : S.Ty) (service : Service S) (links : Links) (waited : Bool) : Handler S.Ty (Call S t) where
  name := "linked resource"
  claims a := a.association?.isSome
  run a _ :=
    match a.association? with
    | some assoc => follow service links waited assoc (assoc.linkName a.name)
    | none => fun _ => throw (Property.refused t a.name .linkAccessor)

/-! ## Properties -/

def property (t : S.Ty) : Handler S.Ty (Call S t) where
  name := "simple property"
  claims := Accessor.isProperty
  run a args state := Action.ofOutcome do
    let (v, content) ← Property.run a.name args state.content
    return (v, { state with content })

end Handler

def Service.chain (service : Service S) (t : S.Ty) (links : Links) (waited : Bool) : Chain S.Ty (Call S t) :=
  [.resourceId t service.base links, .association t service links waited, .property t]

end Hypermedia
