import Hypermedia.Batch
import Hypermedia.Entity.Identity
import Hypermedia.Proxy.Access
import Hypermedia.Uri.Form
/-!
# Collections

The members of a type live below the path of its collection.  A collection reads them as proxies, writes single members,
and saves batches at the batch endpoint of the service.
-/
namespace Hypermedia

structure Collection (S : Schema) (t : S.Ty) where
  service : Service S
  uri : Uri
  batchUri : Uri

variable {S : Schema} {t : S.Ty}

/-- The collection of a type, which is prepared when it was not before. -/
def Service.collection (service : Service S) (t : S.Ty) : Action S (Collection S t) := do
  let _ ← service.metadata t
  return {
    service
    uri := service.base.append (S.entity t).descriptor.collectionPath
    batchUri := service.configuration.batchUri }

namespace Collection

/-! ## Addresses -/

def memberUri (c : Collection S t) (id : String) : Uri := c.uri.append id

def searchUri (c : Collection S t) (path name value : String) : Uri :=
  (c.uri.append ("/search/" ++ String.ofList (path.toList.dropWhile (· == '/')))).appendPair name value

/-- The address of an entity: its own, or else that of the member with its id. -/
def entityUri? (c : Collection S t) (I : Identity (S.Content t)) (a : S.Content t) : Option Uri :=
  (I.slot.get a).or ((I.id a).map fun id => c.memberUri (I.text id))

/-! ## Reading -/

/-- A resource read from an address; without a link to itself it is taken to live there. -/
def settled (uri : Uri) (r : Resource (S.Content t)) : Resource (S.Content t) :=
  match r.links.self? with
  | some _ => r
  | none => { r with links := r.links ++ [⟨selfRelation, uri.text, false⟩] }

def get? (c : Collection S t) (uri : Uri) : Action S (Option Nat) := do
  match ← c.service.getResource? t uri with
  | some r => return some (← c.service.create t (settled uri r))
  | none => return none

def getAllAt (c : Collection S t) (uri : Uri) : Action S (List Nat) := do
  c.service.createEach t (← c.service.getResources t uri)

def getAll (c : Collection S t) : Action S (List Nat) := c.getAllAt c.uri

def findAll (c : Collection S t) : Action S (List Nat) := c.getAllAt (c.uri.append "/search/findAll")

def search? (c : Collection S t) (path name value : String) : Action S (Option Nat) := do
  c.service.createOption t (← c.service.getResource? t (c.searchUri path name value))

/-! ## Writing -/

def post (c : Collection S t) (a : S.Content t) : Action S Uri := c.service.post c.uri ((S.entity t).encode a)

def put (c : Collection S t) (I : Identity (S.Content t)) (a : S.Content t) : Action S Unit :=
  match c.entityUri? I a with
  | some uri => c.service.put uri ((S.entity t).encode a)
  | none => throw (.protocol (.putWithoutAddress (S.kind t)))

def patch? (c : Collection S t) (uri : Uri) (body : Json.Encoded) : Action S (Option Nat) := do
  c.service.createOption t (← c.service.patch? t uri body)

def delete (c : Collection S t) (uri : Uri) : Action S Unit := c.service.delete uri

def saveAll (c : Collection S t) (batch : List (S.Content t)) : Action S (List (Resource (S.Content t))) :=
  c.service.postBatch t c.batchUri (Batch.encode (S.entity t) batch)

def outline (c : Collection S t) : Outline :=
  .record "Client" [("kind", .text (S.kind t)), ("base_uri", .text c.uri.text)]

end Collection
end Hypermedia
