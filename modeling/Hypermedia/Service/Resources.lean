import Hypermedia.Service.Basic
/-!
# Resources of a service

Reads and writes of single resources and collections.  A resource or a collection that is not found is absent or empty
when it is read or when a batch is posted; every other status outside the success range is a failure, and so is every
status of a write outside it.
-/
namespace Hypermedia
namespace Service

variable {S : Schema}

/-- The resource of type `t` that a document holds.  Its concrete kind is chosen before the content is read. -/
def decode (service : Service S) (t : S.Ty) (document : Json) : Action S (Resource (S.Content t)) := do
  let ⟨fields, links⟩ ← Action.ofOutcome (Document.split document)
  let kind ← service.resolve t links
  let content ← Action.ofOutcome (((S.entity t).decode kind fields).mapError fun e => .proxy kind (.content e))
  return ⟨content, links⟩

def decodeEach (service : Service S) (t : S.Ty) : List Json → Action S (List (Resource (S.Content t)))
  | [] => return []
  | d :: ds => do
    let r ← service.decode t d
    let rs ← service.decodeEach t ds
    return r :: rs

/-- The resources of a collection: a list of documents, or a document with embedded ones. -/
def decodeCollection (service : Service S) (t : S.Ty) : Json → Action S (List (Resource (S.Content t)))
  | .array items => service.decodeEach t items
  | document => do service.decodeEach t (← Action.ofOutcome (Document.members document))

def document? (r : Response) : Outcome (Option Json) := do (← r.success).json

def decodeAnswer? (service : Service S) (t : S.Ty) (r : Response) : Action S (Option (Resource (S.Content t))) := do
  match ← Action.ofOutcome (document? r) with
  | some d => return some (← service.decode t d)
  | none => return none

/-- The resources in an answer, none when nothing was found or there is no document. -/
def decodeAnswerEach (service : Service S) (t : S.Ty) (r : Response) : Action S (List (Resource (S.Content t))) :=
  if r.status == Status.notFound then return []
  else do
    match ← Action.ofOutcome (document? r) with
    | some d => service.decodeCollection t d
    | none => return []

def getResource? (service : Service S) (t : S.Ty) (uri : Uri) : Action S (Option (Resource (S.Content t))) := do
  let r ← service.send { method := .get, uri }
  if r.status == Status.notFound then return none
  service.decodeAnswer? t r

def getResources (service : Service S) (t : S.Ty) (uri : Uri) : Action S (List (Resource (S.Content t))) := do
  service.decodeAnswerEach t (← service.send { method := .get, uri })

/-- The address that the answer to a creation names; it may be relative to the address asked. -/
def locationOf (uri : Uri) (r : Response) : Outcome Uri := do
  match (← r.success).location with
  | none => throw (.protocol (.noLocation uri))
  | some location => (uri.join? location).mapError (.invalidUri location)

/-- Sends a request with a body, which has to be written before anything is sent. -/
def write (service : Service S) (method : Method) (uri : Uri) (body : Json.Encoded) : Action S Response := do
  let document ← Action.ofOutcome (Failure.encoded body)
  service.send { method, uri, body := some document }

def post (service : Service S) (uri : Uri) (body : Json.Encoded) : Action S Uri := do
  let r ← service.write .post uri body
  Action.ofOutcome (locationOf uri r)

def postBatch (service : Service S) (t : S.Ty) (uri : Uri) (body : Json.Encoded) :
    Action S (List (Resource (S.Content t))) := do
  service.decodeAnswerEach t (← service.write .post uri body)

def put (service : Service S) (uri : Uri) (body : Json.Encoded) : Action S Unit := do
  let r ← service.write .put uri body
  let _ ← Action.ofOutcome r.success

def delete (service : Service S) (uri : Uri) : Action S Unit := do
  let r ← service.send { method := .delete, uri }
  let _ ← Action.ofOutcome r.success

/-- Changes a resource and gives it as it is afterwards, if the answer tells. -/
def patch? (service : Service S) (t : S.Ty) (uri : Uri) (body : Json.Encoded) :
    Action S (Option (Resource (S.Content t))) := do
  service.decodeAnswer? t (← service.write .patch uri body)

end Service
end Hypermedia
