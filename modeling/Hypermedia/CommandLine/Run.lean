import Hypermedia.CommandLine.Arguments
import Hypermedia.Entity.Document
import Hypermedia.LogFilter
import Hypermedia.Service.Resources
import Hypermedia.Settings.Load
/-!
# Running commands

A command works on untyped documents.  Its settings are loaded and checked before anything is sent, and a command that
fails prints nothing.
-/
namespace Hypermedia
namespace CommandLine

@[reducible] def documents : Schema where
  Ty := Unit
  decEq := inferInstance
  Content _ := Json.Fields
  entity _ := EntityType.document Unit

abbrev DocumentResource := Resource Json.Fields

inductive Fault where
  | settings (fault : Settings.LoadFault)
  | body
  | failure (f : Failure)

def Fault.message : Fault → String
  | .settings fault => fault.message
  | .body => "the body is not JSON"
  | .failure f => f.message

abbrev Step (α : Type) := ExceptT Fault (StateM (Traces documents)) α

def Step.ofAction {α : Type} (a : Action documents α) : Step α :=
  ExceptT.mk (a.run >>= fun o => pure (o.mapError .failure))

/-! ## Navigation -/

def fetch (service : Service documents) (uri : Uri) : Action documents DocumentResource := do
  match ← service.getResource? () uri with
  | some r => return r
  | none => throw (.protocol (.notFound uri))

def resourceAt (service : Service documents) (href : String) : Action documents DocumentResource := do
  fetch service (← Action.ofOutcome (service.base.resolve href))

def followOne (service : Service documents) (r : DocumentResource) (relation : String) :
    Action documents DocumentResource := do
  match r.links.get? relation with
  | some link => resourceAt service link.expand
  | none => throw (.noSuchLink relation)

def follow (service : Service documents) (r : DocumentResource) : List String → Action documents DocumentResource
  | [] => return r
  | relation :: relations => do follow service (← followOne service r relation) relations

/-! ## Output -/

def documentOf (r : DocumentResource) : Outcome Json := r.toDocument (EntityType.document Unit)

def printed (document : Json) : String := document.indented ++ "\n"

def printedResource (r : DocumentResource) : Action documents String := do
  return printed (← Action.ofOutcome (documentOf r))

def execute (service : Service documents) : Command → Step String
  | .get href => .ofAction do printedResource (← resourceAt service href)
  | .list href => .ofAction do
    let uri ← Action.ofOutcome (service.base.resolve href)
    let rs ← service.getResources () uri
    return printed (.array (← Action.ofOutcome (rs.mapM documentOf)))
  | .follow href relations => .ofAction do printedResource (← follow service (← resourceAt service href) relations)
  | .post href body => do
    let uri ← Step.ofAction (Action.ofOutcome (service.base.resolve href))
    match Json.parse? body with
    | some v => .ofAction do return (← service.post uri (.ok v)).text ++ "\n"
    | none => throw .body

/-! ## The program -/

def settingsFor (files : String → Option ByteArray) (o : Options) : Except Settings.LoadFault Settings := do
  let settings ← match o.config with
    | some path => Settings.ofFile (files path)
    | none => .ok {}
  return match o.url with
    | some url => { settings with service := { settings.service with location := url } }
    | none => settings

def configure (settings : Settings) : Outcome (Configuration documents) := do
  LogFilter.check settings.logging
  Configuration.ofSettings settings

def serviceFor (files : String → Option ByteArray) (transport : Transport) (o : Options) :
    Except Fault (Service documents) := do
  let settings ← (settingsFor files o).mapError .settings
  let configuration ← (configure settings).mapError .failure
  return ⟨configuration, transport⟩

inductive Ending where
  | done (output : String)
  | failed (fault : Fault)
  | usage (usage : Usage)

/-- The exit status: one for a failure, two for a command line that is wrong. -/
def Ending.exit : Ending → Nat
  | .done _ => 0
  | .failed _ => 1
  | .usage .help => 0
  | .usage .wrong => 2

def Arguments.run (files : String → Option ByteArray) (transport : Transport) (a : Arguments) : Ending :=
  match serviceFor files transport a.options with
  | .error fault => .failed fault
  | .ok service =>
    match ((execute service a.command).run.run service.start).1 with
    | .ok output => .done output
    | .error fault => .failed fault

def run (files : String → Option ByteArray) (transport : Transport) (arguments : List String) : Ending :=
  match parse arguments with
  | .ok a => a.run files transport
  | .error usage => .usage usage

end CommandLine
end Hypermedia
