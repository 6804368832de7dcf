import Hypermedia.Collection
import Hypermedia.Retry
/-!
# Repositories

A repository saves entities one by one and gives them back with their address and their id.  A server that already has
the entity answers with a conflict; the repository then finds the stored resource and brings it in line with the entity.
Only reads are tried again.
-/
namespace Hypermedia

structure NaturalId (α : Type) where
  /-- The path of the search. -/
  path : String
  /-- The parameter of the search. -/
  name : String
  value : α → String

structure Repository (S : Schema) (t : S.Ty) where
  collection : Collection S t
  identified : S.Identified t
  naturalId : Option (NaturalId (S.Content t)) := none
  retry : RetryPolicy

namespace Repository

variable {S : Schema} {t : S.Ty}

def identity (r : Repository S t) : Identity (S.Content t) := r.identified.identity

def entityUri? (r : Repository S t) (a : S.Content t) : Option Uri := r.collection.entityUri? r.identity a

/-! ## Reading -/

def get? (r : Repository S t) (id : r.identity.Id) : Action S (Option Nat) :=
  let uri := r.collection.memberUri (r.identity.text id)
  r.retry.execute uri.text (r.collection.get? uri)

def getAll (r : Repository S t) : Action S (List Nat) :=
  r.retry.execute r.collection.uri.text r.collection.getAll

def findAll (r : Repository S t) : Action S (List Nat) :=
  r.retry.execute r.collection.uri.text r.collection.findAll

def find? (r : Repository S t) (a : S.Content t) : Action S (Option Nat) :=
  match r.naturalId with
  | none => throw (.noNaturalId (S.kind t))
  | some n =>
    let value := n.value a
    r.retry.execute (r.collection.searchUri n.path n.name value).text (r.collection.search? n.path n.name value)

/-! ## Saving one entity -/

inductive Locator (α : Type) where
  | naturalId
  | address (uri : Uri)
  | nowhere

/-- How to find the stored resource of an entity: by its natural id if the repository has one, or else by its
address. -/
def locator (r : Repository S t) (a : S.Content t) : Locator (S.Content t) :=
  match r.naturalId, r.entityUri? a with
  | some _, _ => .naturalId
  | none, some uri => .address uri
  | none, none => .nowhere

def locate? (r : Repository S t) (a : S.Content t) : Action S (Option Nat) :=
  match r.locator a with
  | .naturalId => r.find? a
  | .address uri => r.collection.get? uri
  | .nowhere => return none

def contentOf (id : Nat) : Action S (S.Content t) := do
  let ⟨u, p⟩ ← Service.proxy id
  if h : u = t then return h ▸ p.content else throw (.protocol (.other "no such proxy"))

def storedUri (r : Repository S t) (id : Nat) : Action S Uri := do
  match ← r.collection.service.resourceId id with
  | some uri => return uri
  | none =>
    let ⟨_, p⟩ ← Service.proxy id
    match p.selfUri with
    | some uri => return uri
    | none => throw (.protocol .conflictWithoutUri)

/-- Changes a stored resource into what an entity says, and reads it again when the answer does not tell. -/
def patched (r : Repository S t) (uri : Uri) (a : S.Content t) : Action S Nat := do
  match ← r.collection.patch? uri ((S.entity t).encode a) with
  | some id => return id
  | none =>
    match ← r.collection.get? uri with
    | some id => return id
    | none => throw (.reconciliation uri .disappeared)

def reconcile (r : Repository S t) (a : S.Content t) (id : Nat) : Action S Uri := do
  let uri ← r.storedUri id
  let stored ← contentOf id
  if !(S.entity t).equal stored a then
    let after ← contentOf (← r.patched uri a)
    if !(S.entity t).equal after a then throw (.reconciliation uri (.stillDiffers (S.kind t)))
  return uri

def recover (r : Repository S t) (a : S.Content t) (conflict : Failure) : Action S Uri := do
  match ← r.locate? a with
  | some id => r.reconcile a id
  | none => throw conflict

/-- The address under which an entity is stored after it was created, or was found to be there already. -/
def storeUri (r : Repository S t) (a : S.Content t) : Action S Uri :=
  tryCatch (r.collection.post a) fun e => if e.isConflict then r.recover a e else throw e

def idOf? (r : Repository S t) (uri : Uri) : Option r.identity.Id :=
  (Path.lastSegment? uri.path).bind r.identity.read?

/-- The entity that was created at an address, as the server has it. -/
def fetched (r : Repository S t) (uri : Uri) : Action S (S.Content t) := do
  match ← r.collection.get? uri with
  | none => throw (.protocol (.createdNotReadable uri))
  | some id =>
    let a ← contentOf id
    match r.identity.id a with
    | some _ => return a
    | none => throw (.protocol (.createdWithoutId uri))

def withId (r : Repository S t) (uri : Uri) (a : S.Content t) : Action S (S.Content t) :=
  match r.identity.id a, r.idOf? uri with
  | some _, _ => return a
  | none, some id => return r.identity.setId a id
  | none, none => r.fetched uri

def save (r : Repository S t) (a : S.Content t) : Action S (S.Content t) := do
  let uri ← r.storeUri a
  let a ← Action.ofOutcome (r.identity.slot.set a uri)
  r.withId uri a

/-! ## Deleting -/

def delete (r : Repository S t) (a : S.Content t) : Action S Unit :=
  match r.entityUri? a with
  | some uri => r.collection.delete uri
  | none => throw (.protocol (.deleteWithoutAddress (S.kind t)))

def deleteAll (r : Repository S t) : List (S.Content t) → Action S Unit
  | [] => return ()
  | a :: as => do
    r.delete a
    r.deleteAll as

end Repository
end Hypermedia
