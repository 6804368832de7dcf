import Hypermedia.Service.Resources
/-!
# Making proxies

A proxy is made from a resource.  Its content gets the address of the resource, which is where the link of the resource
to itself leads.  What an association leads to is fetched and made into proxies at once.
-/
namespace Hypermedia

variable {S : Schema}

namespace Traces

def proxy? (s : Traces S) (id : Nat) : Option ((t : S.Ty) × Proxy S t) := s.proxies[id]?

def addProxy {t : S.Ty} (s : Traces S) (p : Proxy S t) : Traces S := { s with proxies := s.proxies ++ [⟨t, p⟩] }

def setProxy {t : S.Ty} (s : Traces S) (id : Nat) (p : Proxy S t) : Traces S :=
  { s with proxies := s.proxies.set id ⟨t, p⟩ }

/-- Whether two proxies are the same, or of one type and have equal contents. -/
def equalProxies (s : Traces S) (id other : Nat) : Bool :=
  id == other ||
    match s.proxy? id, s.proxy? other with
    | some ⟨t, p⟩, some ⟨u, q⟩ => if h : u = t then (S.entity t).equal p.content (h ▸ q.content) else false
    | _, _ => false

end Traces

namespace Service

def proxyOf {t : S.Ty} (service : Service S) (table : AccessorTable S.Ty) (r : Resource (S.Content t)) :
    Outcome (Proxy S t) := do
  let selfUri ← r.links.selfUri? service.base
  let content ← (S.entity t).assign r.content selfUri
  return { content, links := r.links, table, selfUri }

def create (service : Service S) (t : S.Ty) (r : Resource (S.Content t)) : Action S Nat := do
  let m ← service.metadata t
  let p ← Action.ofOutcome (service.proxyOf m.table r)
  let id := (← get).proxies.length
  modify (·.addProxy p)
  return id

def createEach (service : Service S) (t : S.Ty) : List (Resource (S.Content t)) → Action S (List Nat)
  | [] => return []
  | r :: rs => do
    let id ← service.create t r
    let ids ← service.createEach t rs
    return id :: ids

def createOption (service : Service S) (t : S.Ty) : Option (Resource (S.Content t)) → Action S (Option Nat)
  | some r => return some (← service.create t r)
  | none => return none

def load (service : Service S) (a : Association S.Ty) (uri : Uri) : Action S (LinkedValue S) :=
  match a.cardinality with
  | .one => do return .one a.target (← service.createOption a.target (← service.getResource? a.target uri))
  | .many => do return .many a.target (← service.createEach a.target (← service.getResources a.target uri))

end Service
end Hypermedia
