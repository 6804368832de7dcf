import Hypermedia.Proxy.Handler
/-!
# Calls on proxies

Proxies are called by their numbers.  A call that gives something else than its caller asked for is refused after it
ran.  Calls that are made together take turns: one of them fetches an association, the others wait for it.
-/
namespace Hypermedia

variable {S : Schema}

/-- Runs a call of an accessor on a proxy, and gives the proxy as it is afterwards. -/
def Proxy.invoke {t : S.Ty} (p : Proxy S t) (service : Service S) (waited : Bool) (method : String)
    (args : List Json) : Action S (Invocation S × Proxy S t) := do
  let accessor := p.table.lookup method
  let unhandled : Call S t := fun _ => throw (Property.refused t method .handled)
  let (v, state) ← (service.chain t p.links waited).run unhandled accessor args p.toProxyState
  return (v, { p with toProxyState := state })

namespace Service

def proxy (id : Nat) : Action S ((t : S.Ty) × Proxy S t) := do
  match (← get).proxy? id with
  | some p => return p
  | none => throw (.protocol (.other "no such proxy"))

/-- Calls an accessor of a proxy; `waited` tells whether the call had to wait for another one. -/
def invokeAfter (service : Service S) (waited : Bool) (id : Nat) (method : String) (args : List Json) :
    Action S (Invocation S) := do
  let ⟨_, p⟩ ← proxy id
  let (v, p) ← p.invoke service waited method args
  modify (·.setProxy id p)
  return v

/-- Calls an accessor of a proxy while no other call is under way. -/
def invoke (service : Service S) (id : Nat) (method : String) (args : List Json) : Action S (Invocation S) :=
  service.invokeAfter false id method args

def mismatch (id : Nat) (method : String) (expected : Expectation) : Action S Failure := do
  let ⟨_, p⟩ ← proxy id
  return .unsupportedMethod p.kind method expected

/-- The address of a proxy's resource, by the declared accessor if there is one. -/
def resourceId (service : Service S) (id : Nat) : Action S (Option Uri) := do
  let ⟨_, p⟩ ← proxy id
  match p.table.resourceId? with
  | none => return p.selfUri
  | some accessor =>
    match ← service.invoke id accessor.name [] with
    | .resourceId uri => return uri
    | _ => throw (← mismatch id accessor.name .resourceId)

def linked (service : Service S) (id : Nat) (method : String) (u : S.Ty) : Action S (Option Nat) := do
  match ← service.invoke id method [] with
  | .linked (.one t proxy) => if t = u then return proxy else throw (← mismatch id method .singleLink)
  | .linked _ => throw (← mismatch id method .singleLink)
  | _ => throw (← mismatch id method .link)

def linkedAll (service : Service S) (id : Nat) (method : String) (u : S.Ty) : Action S (List Nat) := do
  match ← service.invoke id method [] with
  | .linked (.many t proxies) => if t = u then return proxies else throw (← mismatch id method .linkCollection)
  | .linked _ => throw (← mismatch id method .linkCollection)
  | _ => throw (← mismatch id method .link)

def property (service : Service S) (id : Nat) (method : String) : Action S Json := do
  match ← service.invoke id method [] with
  | .property v => return v
  | _ => throw (← mismatch id method .property)

def setProperty (service : Service S) (id : Nat) (method : String) (value : Json) : Action S Unit := do
  match ← service.invoke id method [value] with
  | .updated => return ()
  | _ => throw (← mismatch id method .propertySetter)

/-! ## Calls made together -/

/-- Calls that wait for each other, one after the other. -/
def invokeWaiting (service : Service S) (id : Nat) (method : String) (args : List Json) :
    Nat → Action S (List (Outcome (Invocation S)))
  | 0 => return []
  | n + 1 => do
    let o ← Action.attempt (service.invokeAfter true id method args)
    return o :: (← service.invokeWaiting id method args n)

/-- Calls made together.  As long as they send no request they are over before the next one starts; once one sends a
request all others have started and wait. -/
def invokeTogether (service : Service S) (id : Nat) (method : String) (args : List Json) :
    Nat → Action S (List (Outcome (Invocation S)))
  | 0 => return []
  | n + 1 => do
    let before := (← get).requests.length
    let o ← Action.attempt (service.invoke id method args)
    if (← get).requests.length == before then return o :: (← service.invokeTogether id method args n)
    else return o :: (← service.invokeWaiting id method args n)

end Service
end Hypermedia
