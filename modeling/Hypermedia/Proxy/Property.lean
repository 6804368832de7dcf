import Hypermedia.Proxy.Basic
/-!
# Properties

A plain property is a field of the content's document.  `getName` and `isName` read the field `name`, `setName`
replaces it, and any other accessor reads the field of its own name.  Only fields that are there can be read or
written, and a write that does not fit the content changes nothing.
-/
namespace Hypermedia
namespace Property

inductive Use where
  | read (field : String)
  | write (field : String)
  deriving DecidableEq

def useOf (name : String) : Use :=
  match RelationName.afterWord? "set" name with
  | some rest => if rest.isEmpty then .read (RelationName.ofAccessor name) else .write (Text.decapitalize rest)
  | none => .read (RelationName.ofAccessor name)

variable {S : Schema} {t : S.Ty}

def refused (t : S.Ty) (accessor : String) (expected : Expectation) : Failure :=
  .unsupportedMethod (S.kind t) accessor expected

def read (accessor field : String) (content : S.Content t) : Outcome Json := do
  match (← (S.entity t).toJson content).field? field with
  | some v => return v
  | none => throw (refused t accessor .existingProperty)

def replaceField (t : S.Ty) (accessor field : String) (value : Json) : Json → Outcome Json
  | .object fields =>
    if (Json.Fields.find? fields field).isSome then .ok (.object (Json.Fields.put fields field value))
    else .error (refused t accessor .existingProperty)
  | _ => .error (.protocol (.propertiesNotObject (S.kind t)))

/-- The content with another value in a field; it keeps its kind and its address. -/
def write (accessor field : String) (value : Json) (content : S.Content t) : Outcome (S.Content t) := do
  let e := S.entity t
  let document ← replaceField t accessor field value (← e.toJson content)
  let updated ← Failure.decoded (e.decode (e.contentKind content) document)
  e.assign updated (e.address?.bind (·.get content))

def run (accessor : String) (args : List Json) (content : S.Content t) : Outcome (Invocation S × S.Content t) :=
  match useOf accessor, args with
  | .read field, [] => (read accessor field content).map fun v => (.property v, content)
  | .write field, [value] => (write accessor field value content).map fun c => (.updated, c)
  | .read _, _ => .error (refused t accessor .getter)
  | .write _, _ => .error (refused t accessor .setter)

end Property
end Hypermedia
