import Hypermedia.Entity.Basic
/-!
# Batches

Entities that are saved together are sent as one document.  Each of them is tagged with its concrete kind, and a reader
takes only kinds that the declared type accepts.
-/
namespace Hypermedia

/-- Entities that are collected to be saved together. -/
structure Batch (α : Type) where
  entities : List α := []

namespace Batch

open Json (DecodeError)

variable {κ α : Type}

/-! ## Collecting -/

def push (b : Batch α) (a : α) : Batch α := ⟨b.entities ++ [a]⟩

def extend (b : Batch α) (as : List α) : Batch α := ⟨b.entities ++ as⟩

/-- Moves the entities into a batch of their own; the one that they were in is empty then. -/
def take (b : Batch α) : Batch α × Batch α := (b, {})

def clear (_ : Batch α) : Batch α := {}

/-! ## Writing -/

def kindKey : String := "@class"

def tagged (e : EntityType κ α) (a : α) : Json.Encoded := do
  match ← e.encode a with
  | .object fields => return .object (Json.Fields.put fields kindKey (.text (e.contentKind a)))
  | _ => throw (e.kind ++ " does not serialize to an object")

def taggedEach (e : EntityType κ α) : List α → Except String (List Json)
  | [] => .ok []
  | a :: as => do
    let v ← tagged e a
    let vs ← taggedEach e as
    return v :: vs

def encode (e : EntityType κ α) (batch : List α) : Json.Encoded := do
  return .object [("entities", .array (← taggedEach e batch))]

/-! ## Reading -/

/-- Takes the kind out of a document; a document without one has the declared kind. -/
def untag (declared : String) : Json → String × Json
  | .object fields =>
    match Json.Fields.extract fields kindKey with
    | (some (.text kind), rest) => (kind, .object rest)
    | (_, rest) => (declared, .object rest)
  | v => (declared, v)

def decodeMember (e : EntityType κ α) (v : Json) : Except DecodeError α :=
  let (kind, document) := untag e.kind v
  if e.accepts kind then e.decode kind document else .error (.foreignKind kind e.kind)

def membersDecoder : Json.RecordDecoder (List Json) where
  name := "RawCollection"
  blank := []
  fields := [.defaulted "entities" (Json.Decoder.list Json.Decoder.any) fun vs _ => vs]

def decode (e : EntityType κ α) : Json.Decoder (List α) := fun v => do
  Json.Decoder.each (decodeMember e) (← membersDecoder.decode v)

end Batch
end Hypermedia
