import Hypermedia.Configuration
import Hypermedia.Exchange
import Hypermedia.Measurement
import Hypermedia.Proxy.Basic
/-!
# Services

A service is a configuration and the transport that reaches its server.  Actions on it may fail, and whether they do or
not they leave their traces: requests that were sent, types that were prepared, measurements, and proxies.
-/
namespace Hypermedia

structure Service (S : Schema) where
  configuration : Configuration S
  transport : Transport

structure Traces (S : Schema) where
  /-- The requests that were sent, the latest first. -/
  requests : List Request := []
  /-- The types that were prepared, the latest first. -/
  prepared : List S.Ty := []
  /-- What was measured, the latest first. -/
  measurements : List Measurement := []
  /-- The proxies that were made, in order. -/
  proxies : List ((t : S.Ty) × Proxy S t) := []

abbrev Action (S : Schema) (α : Type) := ExceptT Failure (StateM (Traces S)) α

namespace Action

variable {S : Schema} {α : Type}

/-- The outcome of an action after the given traces, and all traces after it. -/
def after (traces : Traces S) (a : Action S α) : Outcome α × Traces S := a.run.run traces

def ofOutcome (o : Outcome α) : Action S α := ExceptT.mk (pure o)

def measure (m : Measurement) : Action S Unit :=
  modify fun s => { s with measurements := m :: s.measurements }

def attempt (a : Action S α) : Action S (Outcome α) := ExceptT.mk (a.run >>= fun o => pure (.ok o))

end Action

namespace Service

variable {S : Schema}

/-- The traces before the first action: the types that the configuration prepared. -/
def start (service : Service S) : Traces S := { prepared := service.configuration.prepared }

def base (service : Service S) : Uri := service.configuration.base

def statusOf : Except TransportFault Response → Nat
  | .ok r => r.status
  | .error _ => 0

def send (service : Service S) (request : Request) : Action S Response := do
  let sent := (← get).requests
  let answer := service.transport.answer sent request
  modify fun s => { s with requests := request :: sent }
  if service.transport.metered then
    Action.measure (.exchange request.method.name (statusOf answer) 0)
  Action.ofOutcome (answer.mapError (·.toFailure (service.transport.named request.uri)))

/-- What is known about an entity type, which is prepared when it was not before. -/
def metadata (service : Service S) (t : S.Ty) : Action S (Metadata S) := do
  let m ← Action.ofOutcome (service.configuration.metadata t)
  modify fun s => { s with prepared := Configuration.prepare s.prepared t }
  return m

def resolve (service : Service S) (t : S.Ty) (links : Links) : Action S String := do
  let m ← service.metadata t
  let prepared := (← get).prepared
  Action.ofOutcome (service.configuration.resolve prepared t m.resolver links)

end Service
end Hypermedia
