import Hypermedia.Number.Shortest
/-!
# JSON values

Objects keep their fields in the order in which the keys were first written.  Taking a field out moves the last field
into the hole, and writing an existing key keeps its place.
-/
namespace Hypermedia

/-- A JSON number: an integer between `-2 ^ 63` and `2 ^ 64 - 1`, or a double. -/
inductive Number.Value where
  | integer (i : Int)
  | double (d : Number.Double)
  deriving DecidableEq

inductive Json where
  | null
  | bool (b : Bool)
  | number (n : Number.Value)
  | text (s : String)
  | array (items : List Json)
  | object (fields : List (String × Json))

namespace Json

instance : Inhabited Json := ⟨.null⟩

mutual

def decEq : (v w : Json) → Decidable (v = w)
  | .null, .null => isTrue rfl
  | .bool a, .bool b => decidable_of_iff (a = b) (by rw [bool.injEq])
  | .number m, .number n => decidable_of_iff (m = n) (by rw [number.injEq])
  | .text s, .text t => decidable_of_iff (s = t) (by rw [text.injEq])
  | .array xs, .array ys =>
    have := itemsDecEq xs ys
    decidable_of_iff (xs = ys) (by rw [array.injEq])
  | .object fs, .object gs =>
    have := fieldsDecEq fs gs
    decidable_of_iff (fs = gs) (by rw [object.injEq])
  | .null, .bool _ | .null, .number _ | .null, .text _ | .null, .array _ | .null, .object _
  | .bool _, .null | .bool _, .number _ | .bool _, .text _ | .bool _, .array _ | .bool _, .object _
  | .number _, .null | .number _, .bool _ | .number _, .text _ | .number _, .array _ | .number _, .object _
  | .text _, .null | .text _, .bool _ | .text _, .number _ | .text _, .array _ | .text _, .object _
  | .array _, .null | .array _, .bool _ | .array _, .number _ | .array _, .text _ | .array _, .object _
  | .object _, .null | .object _, .bool _ | .object _, .number _ | .object _, .text _ | .object _, .array _ =>
    isFalse nofun

def itemsDecEq : (xs ys : List Json) → Decidable (xs = ys)
  | [], [] => isTrue rfl
  | [], _ :: _ | _ :: _, [] => isFalse nofun
  | x :: xs, y :: ys =>
    have := decEq x y
    have := itemsDecEq xs ys
    decidable_of_iff (x = y ∧ xs = ys) (by rw [List.cons.injEq])

def fieldsDecEq : (fs gs : List (String × Json)) → Decidable (fs = gs)
  | [], [] => isTrue rfl
  | [], _ :: _ | _ :: _, [] => isFalse nofun
  | (k, v) :: fs, (l, w) :: gs =>
    have := decEq v w
    have := fieldsDecEq fs gs
    decidable_of_iff (k = l ∧ v = w ∧ fs = gs) (by rw [List.cons.injEq, Prod.mk.injEq, and_assoc])

end

instance : DecidableEq Json := decEq

abbrev Fields := List (String × Json)

/-- A value that is written as JSON, or what the writer says when it cannot be. -/
abbrev Encoded := Except String Json

def ofNat (n : Nat) : Json := .number (.integer n)

namespace Fields

def keys (fs : Fields) : List String := List.map Prod.fst fs

def find? : Fields → String → Option Json
  | [], _ => none
  | (k, v) :: fs, key => if k == key then some v else find? fs key

/-- Writes a key: in its place when it is present, at the end otherwise. -/
def put : Fields → String → Json → Fields
  | [], key, v => [(key, v)]
  | (k, w) :: fs, key, v => if k == key then (k, v) :: fs else (k, w) :: put fs key v

def lastToFront (fs : Fields) : Fields :=
  match fs.getLast? with
  | some f => f :: fs.dropLast
  | none => []

def extract : Fields → String → Option Json × Fields
  | [], _ => (none, [])
  | (k, w) :: fs, key =>
    if k == key then (some w, lastToFront fs)
    else let r := extract fs key; (r.1, (k, w) :: r.2)

end Fields

def field? (v : Json) (key : String) : Option Json :=
  match v with
  | .object fs => Fields.find? fs key
  | _ => none

end Json
end Hypermedia
