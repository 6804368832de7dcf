import Hypermedia.ServerFault
import Hypermedia.Json.Read
import Hypermedia.Text.Blank
import Hypermedia.Uri.Credentials
/-!
# Exchanges

A request, its answer, and the transport between them.  What a transport answers may depend on every request made
before, so any server is a transport.
-/
namespace Hypermedia

inductive Method where
  | get
  | post
  | put
  | patch
  | delete
  deriving DecidableEq

def Method.name : Method → String
  | .get => "GET"
  | .post => "POST"
  | .put => "PUT"
  | .patch => "PATCH"
  | .delete => "DELETE"

structure Request where
  method : Method
  uri : Uri
  body : Option Json := none
  deriving DecidableEq

structure Response where
  status : Nat := 200
  location : Option String := none
  body : String := ""
  deriving DecidableEq

namespace Response

/-- The body as JSON, absent when there is nothing but white space. -/
def json (r : Response) : Outcome (Option Json) :=
  if (Text.trim r.body).isEmpty then .ok none
  else match Json.parse? r.body with
    | some v => .ok (some v)
    | none => .error (.json .malformed)

/-- The answer itself when it reports success, and what the server said otherwise. -/
def success (r : Response) : Outcome Response :=
  if Status.isSuccess r.status then .ok r else .error (.server (ServerFault.ofResponse r.status r.body))

end Response

/-- Whether requests can be sent to an address: it is on the web, at most 65534 bytes long, and its host is free of
quotes and braces. -/
def Uri.takesRequests (u : Uri) : Bool :=
  (u.scheme == "http" || u.scheme == "https") && u.chars.length ≤ 65534 &&
    ((u.authority.bind (·.host)).map Host.chars).any (·.all fun c => !"\"`\x7b\x7d".toList.contains c)

structure Transport where
  /-- The answer to a request behind the requests made before, the latest of them first. -/
  answer : List Request → Request → Except TransportFault Response
  metered : Bool := false
  /-- The address that a request names. -/
  named : Uri → Uri := id

namespace Transport

/-- The network when no server can be reached: every exchange that can be tried at all fails to connect.  Requests carry
credentials apart from the address. -/
def offline : Transport where
  answer _ r := .error (if r.uri.withoutCredentials.takesRequests then .connect else .unsupported)
  metered := true
  named := Uri.withoutCredentials

end Transport

/-- A transport fault as a failure of a request; a request that could not be built has no address. -/
def TransportFault.toFailure (fault : TransportFault) (uri : Uri) : Failure :=
  match fault with
  | .unbuilt => .transport "" .unbuilt
  | f => .transport uri.text f

end Hypermedia
