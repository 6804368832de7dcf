import Hypermedia.Json.Decode
import Hypermedia.Status
import Hypermedia.Uri.Basic
/-!
# Failures

Everything that can go wrong, by cause.  A resource that does not exist is no failure of a read; every other status
outside the success range is.  The wording of a failure is made from its cause alone.
-/
namespace Hypermedia

open Json (DecodeError)

structure ServerFault where
  status : Nat
  timestamp : Option String := none
  message : String
  deriving DecidableEq

inductive TransportFault where
  | connect
  | timeout
  | unbuilt
  | unsupported
  deriving DecidableEq

inductive JsonFault where
  | malformed
  | undecodable (e : DecodeError)
  /-- A value that cannot be written as JSON, with what its writer says. -/
  | unencodable (reason : String)
  deriving DecidableEq

inductive ProtocolFault where
  | linksNotObject (found : Json)
  | repeatedSelf (count : Nat)
  | resourceNotObject (found : Json)
  | collectionNotObject (found : Json)
  | embeddedNotObject (found : Json)
  | contentNotObject
  | propertiesNotObject (kind : String)
  | noLocation (uri : Uri)
  | createdNotReadable (uri : Uri)
  | createdWithoutId (uri : Uri)
  | conflictWithoutUri
  | putWithoutAddress (kind : String)
  | deleteWithoutAddress (kind : String)
  | notFound (uri : Uri)
  | other (message : String)
  deriving DecidableEq

inductive ConfigurationFault where
  | badLocation (location : String) (reason : UriError)
  | typeInfoShape (declared : String)
  | notSubtype (candidate declared : String)
  | subtypeWithoutPath (subtype declared : String)
  | foreignResolution (kind declared : String)
  | twoRoles (method owner first second : String)
  | twoLinks (method owner : String)
  | badLogLevel (level : String)
  | other (message : String)
  /-- The faults that a builder collected; those of type infos are quoted as failures of their own. -/
  | collected (faults : List ConfigurationFault)

namespace ConfigurationFault

mutual

def same : ConfigurationFault → ConfigurationFault → Bool
  | .badLocation l r, .badLocation l' r' => l == l' && r == r'
  | .typeInfoShape d, .typeInfoShape d' => d == d'
  | .notSubtype c d, .notSubtype c' d' => c == c' && d == d'
  | .subtypeWithoutPath s d, .subtypeWithoutPath s' d' => s == s' && d == d'
  | .foreignResolution k d, .foreignResolution k' d' => k == k' && d == d'
  | .twoRoles m o r s, .twoRoles m' o' r' s' => m == m' && o == o' && r == r' && s == s'
  | .twoLinks m o, .twoLinks m' o' => m == m' && o == o'
  | .badLogLevel l, .badLogLevel l' => l == l'
  | .other m, .other m' => m == m'
  | .collected fs, .collected gs => sameEach fs gs
  | _, _ => false

def sameEach : List ConfigurationFault → List ConfigurationFault → Bool
  | [], [] => true
  | f :: fs, g :: gs => same f g && sameEach fs gs
  | _, _ => false

end

mutual

theorem same_iff : ∀ f g : ConfigurationFault, same f g = true ↔ f = g
  | .collected fs, g => by cases g <;> simp [same, sameEach_iff fs]
  | .badLocation _ _, g | .typeInfoShape _, g | .notSubtype _ _, g | .subtypeWithoutPath _ _, g
  | .foreignResolution _ _, g | .twoRoles _ _ _ _, g | .twoLinks _ _, g | .badLogLevel _, g | .other _, g => by
    cases g <;> simp [same, and_assoc]

theorem sameEach_iff : ∀ fs gs : List ConfigurationFault, sameEach fs gs = true ↔ fs = gs
  | [], gs => by cases gs <;> simp [sameEach]
  | f :: fs, gs => by cases gs <;> simp [sameEach, same_iff f, sameEach_iff fs]

end

instance : DecidableEq ConfigurationFault := fun f g => decidable_of_iff _ (same_iff f g)

end ConfigurationFault

inductive ProxyFault where
  | unhandled (method : String)
  | contested (method : String) (claimants : List String)
  | content (e : DecodeError)
  deriving DecidableEq

inductive Expectation where
  | singleLink
  | linkCollection
  | link
  | resourceId
  | property
  | propertySetter
  | handled
  | linkAccessor
  | existingProperty
  | setter
  | getter
  deriving DecidableEq

inductive ReconciliationFault where
  | disappeared
  | stillDiffers (kind : String)
  deriving DecidableEq

inductive Failure where
  | noSuchLink (relation : String)
  | proxy (kind : String) (fault : ProxyFault)
  | configuration (fault : ConfigurationFault)
  | uriConflict (current attempted : Uri)
  | server (fault : ServerFault)
  | transport (uri : String) (fault : TransportFault)
  | protocol (fault : ProtocolFault)
  | json (fault : JsonFault)
  | invalidUri (text : String) (reason : UriError)
  | unsupportedMethod (kind method : String) (expected : Expectation)
  | noNaturalId (kind : String)
  | reconciliation (uri : Uri) (fault : ReconciliationFault)
  | retriesExhausted (uri : String) (attempts : Nat) (cause : Failure)
  deriving DecidableEq

abbrev Outcome (α : Type) := Except Failure α

namespace ServerFault

/-- The status code, its reason phrase, and the message if there is one. -/
def display (f : ServerFault) : String :=
  Json.natText f.status ++ " " ++ Status.reason f.status ++ (if f.message.isEmpty then "" else ": " ++ f.message)

end ServerFault

def TransportFault.message : TransportFault → String
  | .connect => "connection failed"
  | .timeout => "timed out"
  | .unbuilt => "request could not be built"
  | .unsupported => "address takes no requests"

def JsonFault.message : JsonFault → String
  | .malformed => "malformed text"
  | .undecodable e => e.message
  | .unencodable reason => reason

def ProtocolFault.message : ProtocolFault → String
  | .linksNotObject v => "_links must be an object, found " ++ v.compact
  | .repeatedSelf n => "resource declares " ++ Json.natText n ++ " self links"
  | .resourceNotObject v => "expected a HAL resource object, found " ++ v.compact
  | .collectionNotObject v => "expected a HAL collection object, found " ++ v.compact
  | .embeddedNotObject v => "_embedded must be an object, found " ++ v.compact
  | .contentNotObject => "resource content must serialize to a JSON object"
  | .propertiesNotObject kind => kind ++ " content is not a JSON object"
  | .noLocation uri => "POST " ++ uri.text ++ " returned no Location header"
  | .createdNotReadable uri => "created resource " ++ uri.text ++ " is not readable"
  | .createdWithoutId uri => "created resource " ++ uri.text ++ " carries no id"
  | .conflictWithoutUri => "conflicting resource has no URI"
  | .putWithoutAddress kind => "cannot PUT " ++ kind ++ " without a URI or id"
  | .deleteWithoutAddress kind => "cannot delete " ++ kind ++ " without a URI or id"
  | .notFound uri => uri.text ++ " not found"
  | .other message => message

mutual

def ConfigurationFault.message : ConfigurationFault → String
  | .badLocation location reason => "invalid location '" ++ location ++ "': " ++ reason.message
  | .typeInfoShape declared =>
    "type info for " ++ declared ++ " must specify exactly one of subtypes or type resolver"
  | .notSubtype candidate declared => candidate ++ " is not a subtype of " ++ declared
  | .subtypeWithoutPath subtype declared => "subtype " ++ subtype ++ " of " ++ declared ++ " has no resource path"
  | .foreignResolution kind declared => "resolved type " ++ kind ++ " is not a subtype of " ++ declared
  | .twoRoles method owner first second =>
    "method '" ++ method ++ "' of " ++ owner ++ " is declared as both " ++ first ++ " and " ++ second
  | .twoLinks method owner => "method '" ++ method ++ "' of " ++ owner ++ " is declared with conflicting link metadata"
  | .badLogLevel level => "invalid log level '" ++ level ++ "'"
  | .other message => message
  | .collected faults => "; ".intercalate (ConfigurationFault.quotedMessages faults)

/-- The wordings of collected faults: a bad location as it is, any other as a failure of its own. -/
def ConfigurationFault.quotedMessages : List ConfigurationFault → List String
  | [] => []
  | .badLocation location reason :: fs =>
    ("invalid location '" ++ location ++ "': " ++ reason.message) :: ConfigurationFault.quotedMessages fs
  | f :: fs => ("Configuration error: " ++ ConfigurationFault.message f) :: ConfigurationFault.quotedMessages fs

end

def ProxyFault.message : ProxyFault → String
  | .unhandled method => "no handler supports method '" ++ method ++ "'"
  | .contested method claimants =>
    "method '" ++ method ++ "' is claimed by several handlers: " ++ ", ".intercalate claimants
  | .content e => e.message

def ProxyFault.isCaused : ProxyFault → Bool
  | .content _ => true
  | _ => false

def Expectation.text : Expectation → String
  | .singleLink => "a single linked resource"
  | .linkCollection => "a linked collection"
  | .link => "linked resource"
  | .resourceId => "resource id"
  | .property => "simple property"
  | .propertySetter => "simple property setter"
  | .handled => "a handled accessor"
  | .linkAccessor => "a linked resource"
  | .existingProperty => "an accessor of an existing property"
  | .setter => "a setter taking one argument"
  | .getter => "a getter taking no arguments"

def ReconciliationFault.message : ReconciliationFault → String
  | .disappeared => "patched resource disappeared"
  | .stillDiffers kind => "patched " ++ kind ++ " still differs from the saved entity"

namespace Failure

def message : Failure → String
  | .noSuchLink relation => "Link '" ++ relation ++ "' could not be found!"
  | .proxy kind fault => "couldn't create proxy instance of " ++ kind ++ ": " ++ fault.message
  | .configuration fault => "Configuration error: " ++ fault.message
  | .uriConflict current attempted =>
    "URI already set to " ++ current.text ++ ", refusing to overwrite with " ++ attempted.text
  | .server fault => "Server error: " ++ fault.display
  | .transport uri fault => "Transport error for " ++ uri ++ ": " ++ fault.message
  | .protocol fault => "Protocol error: " ++ fault.message
  | .json fault => "JSON error: " ++ fault.message
  | .invalidUri text reason => "Invalid URI '" ++ text ++ "': " ++ reason.message
  | .unsupportedMethod kind method expected =>
    "Method '" ++ method ++ "' of " ++ kind ++ " cannot be invoked as " ++ expected.text
  | .noNaturalId kind => "Client<" ++ kind ++ "> has not registered a natural id"
  | .reconciliation uri fault => "Reconciliation failed for " ++ uri.text ++ ": " ++ fault.message
  | .retriesExhausted uri attempts _ =>
    "retries exhausted after " ++ Json.natText attempts ++ " attempts for " ++ uri

def category : Failure → String
  | .noSuchLink _ => "no_such_link"
  | .proxy _ _ => "proxy"
  | .configuration _ => "configuration"
  | .uriConflict _ _ => "uri_conflict"
  | .server _ => "server"
  | .transport _ _ => "transport"
  | .protocol _ => "protocol"
  | .json _ => "json"
  | .invalidUri _ _ => "invalid_uri"
  | .unsupportedMethod _ _ _ => "unsupported_method"
  | .noNaturalId _ => "natural_id"
  | .reconciliation _ _ => "reconciliation"
  | .retriesExhausted _ _ _ => "retries_exhausted"

/-- The status that the server answered, also behind exhausted retries. -/
def status? : Failure → Option Nat
  | .server fault => some fault.status
  | .retriesExhausted _ _ cause => cause.status?
  | _ => none

def isNotFound (f : Failure) : Bool := f.status? == some Status.notFound

def isConflict (f : Failure) : Bool := f.status? == some Status.conflict

/-- Whether no connection came about, also behind exhausted retries. -/
def isConnect : Failure → Bool
  | .transport _ fault => fault == .connect
  | .retriesExhausted _ _ cause => cause.isConnect
  | _ => false

/-- Whether the answer did not come in time, also behind exhausted retries. -/
def isTimeout : Failure → Bool
  | .transport _ fault => fault == .timeout
  | .retriesExhausted _ _ cause => cause.isTimeout
  | _ => false

/-- Whether the same request may succeed later.  Exhausted retries are not retried again. -/
def isRetryable : Failure → Bool
  | .server fault => Status.isTransient fault.status
  | .transport _ fault => fault == .connect || fault == .timeout
  | _ => false

def decoded {α : Type} (r : Except DecodeError α) : Outcome α :=
  r.mapError fun e => .json (.undecodable e)

def encoded (r : Json.Encoded) : Outcome Json := r.mapError fun reason => .json (.unencodable reason)

end Failure
end Hypermedia
