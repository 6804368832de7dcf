import Hypermedia.Json.Basic
/-!
# TOML values

A TOML text spells a table, whose values are texts, numbers, truth values, moments, lists and tables.
-/
namespace Hypermedia
namespace Toml

inductive Value where
  | text (s : String)
  | integer (i : Int)
  /-- A real number, absent when it is infinite or not a number. -/
  | real (d : Option Number.Double)
  | bool (b : Bool)
  /-- A date, a time, or both, as it is written. -/
  | moment (text : String)
  | list (items : List Value)
  | table (fields : List (String × Value))

namespace Value

def momentKey : String := "$moment"

mutual

/-- The value as a document.  A moment is an object of its own kind, and a number that JSON lacks is null. -/
def toJson : Value → Json
  | .text s => .text s
  | .integer i => .number (.integer i)
  | .real (some d) => .number (.double d)
  | .real none => .null
  | .bool b => .bool b
  | .moment s => .object [(momentKey, .text s)]
  | .list items => .array (itemsToJson items)
  | .table fields => .object (fieldsToJson fields)

def itemsToJson : List Value → List Json
  | [] => []
  | v :: vs => toJson v :: itemsToJson vs

def fieldsToJson : List (String × Value) → Json.Fields
  | [] => []
  | (k, v) :: fs => (k, toJson v) :: fieldsToJson fs

end

end Value
end Toml
end Hypermedia
