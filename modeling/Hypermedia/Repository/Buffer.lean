import Hypermedia.Repository.Basic
/-!
# Buffered saving

Entities may be handed over one by one and saved in batches.  A batch is saved as soon as enough entities wait for it;
when the server does not accept it, they keep waiting.
-/
namespace Hypermedia

/-- The entities that wait to be saved, and how many of them are waited for. -/
structure Buffer (α : Type) where
  queue : List α := []
  maxSize : Nat := 1

/-- The buffer of a new repository, whose batches have at least one entity. -/
def Buffer.ofSize (α : Type) (maxSize : Nat) : Buffer α := { maxSize := max maxSize 1 }

abbrev Buffered (S : Schema) (α β : Type) := ExceptT Failure (StateT (Buffer α) (StateM (Traces S))) β

namespace Buffered

variable {S : Schema} {α β : Type}

def ofAction (a : Action S β) : Buffered S α β := ExceptT.mk (StateT.lift a.run)

def attempt (a : Buffered S α β) : Buffered S α (Outcome β) := ExceptT.mk (a.run >>= fun o => pure (.ok o))

end Buffered

namespace Repository

variable {S : Schema} {t : S.Ty}

def adopt (r : Repository S t) (saved : Resource (S.Content t)) : Outcome (S.Content t) := do
  match ← saved.links.selfUri? r.collection.service.base with
  | some uri => r.identity.slot.set saved.content uri
  | none => return saved.content

def adoptEach (r : Repository S t) : List (Resource (S.Content t)) → Outcome (List (S.Content t))
  | [] => .ok []
  | s :: ss => do
    let a ← r.adopt s
    let as ← adoptEach r ss
    return a :: as

def flush (r : Repository S t) : Buffered S (S.Content t) (List (S.Content t)) := do
  let waiting := (← get).queue
  if waiting.isEmpty then return []
  match ← Buffered.ofAction (Action.attempt (r.collection.saveAll waiting)) with
  | .error e => throw e
  | .ok saved =>
    modify fun b => { b with queue := [] }
    Buffered.ofAction (Action.ofOutcome (r.adoptEach saved))

/-- Hands over an entity; gives the saved entities when a batch was saved. -/
def persist (r : Repository S t) (a : S.Content t) : Buffered S (S.Content t) (List (S.Content t)) := do
  modify fun b => { b with queue := b.queue ++ [a] }
  let b ← get
  if b.maxSize ≤ b.queue.length then r.flush else return []

def persistAll (r : Repository S t) :
    List (S.Content t) → Buffered S (S.Content t) (List (S.Content t))
  | [] => return []
  | a :: as => do
    let saved ← r.persist a
    return saved ++ (← r.persistAll as)

def setMaxSize (n : Nat) : Buffered S (S.Content t) Unit := modify fun b => { b with maxSize := n }

def saveAll (r : Repository S t) (as : List (S.Content t)) :
    Buffered S (S.Content t) (List (S.Content t)) := do
  let b ← get
  modify fun b => { b with maxSize := b.queue.length + as.length }
  let o ← Buffered.attempt (r.persistAll as)
  modify ({ · with maxSize := b.maxSize })
  Buffered.ofAction (Action.ofOutcome o)

def outline (r : Repository S t) (b : Buffer (S.Content t)) : Outline :=
  .record "RepoClient" [
    ("client", r.collection.outline),
    ("pending", .number b.queue.length),
    ("max_size", .number b.maxSize),
    ("natural_id", .option
      (fun n => .record "NaturalId" [("path", .text n.path), ("name", .text n.name)]) r.naturalId)]

end Repository

/-- The repository over a collection, with the retry policy in the settings of the service. -/
def Collection.repository {S : Schema} {t : S.Ty} (c : Collection S t) (identified : S.Identified t) :
    Repository S t where
  collection := c
  identified := identified
  retry := .ofSettings c.service.configuration.settings.retries

/-- The buffer of a new repository over a collection, with the batch size in the settings of the service. -/
def Collection.buffer {S : Schema} {t : S.Ty} (c : Collection S t) : Buffer (S.Content t) :=
  .ofSize _ c.service.configuration.settings.service.maxBatchSize

end Hypermedia
