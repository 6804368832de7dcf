import Hypermedia.Entity.Basic
/-!
# Resources and their documents

A resource is content with links.  Its document is the object of the content with one more field for the links; the
members of a collection are embedded in its document under any number of relations.
-/
namespace Hypermedia

structure Resource (α : Type) where
  content : α
  links : Links

namespace Document

def linksKey : String := "_links"

def embeddedKey : String := "_embedded"

/-- Splits a document into its own fields and its links; embedded resources are dropped. -/
def split : Json → Outcome (Resource Json)
  | .object fields => do
    let (entry, rest) := Json.Fields.extract fields linksKey
    let links ← match entry with
      | some v => Links.ofDocument v
      | none => .ok []
    return ⟨.object (Json.Fields.extract rest embeddedKey).2, links⟩
  | v => .error (.protocol (.resourceNotObject v))

def join (content : Json) (links : Links) : Outcome Json :=
  match content with
  | .object fields => .ok (.object (Json.Fields.put fields linksKey (Links.toDocument links)))
  | _ => .error (.protocol .contentNotObject)

/-- The documents embedded under one relation: the members of a list, a single object, and nothing else. -/
def membersOf : Json → List Json
  | .array items => items
  | .object fields => [.object fields]
  | _ => []

def members : Json → Outcome (List Json)
  | .object fields =>
    match Json.Fields.find? fields embeddedKey with
    | some (.object relations) => .ok (relations.flatMap fun r => membersOf r.2)
    | some .null => .ok []
    | none => .ok []
    | some v => .error (.protocol (.embeddedNotObject v))
  | v => .error (.protocol (.collectionNotObject v))

end Document

/-- The document of a resource of a type: that of its content, with its links. -/
def Resource.toDocument {κ α : Type} (e : EntityType κ α) (r : Resource α) : Outcome Json := do
  Document.join (← e.toJson r.content) r.links

end Hypermedia
