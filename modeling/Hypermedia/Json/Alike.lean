import Hypermedia.Json.Basic
/-!
# Equal JSON values

Two values are alike when they hold the same data: the order of an object's fields does not matter, zero and negative
zero are the same double, and an integer is never the same as a double.
-/
namespace Hypermedia
namespace Json

def numbersAlike : Number.Value → Number.Value → Bool
  | .integer i, .integer j => i == j
  | .double d, .double e => d == e || (d.isZero && e.isZero)
  | _, _ => false

mutual

def alike : Json → Json → Bool
  | .null, .null => true
  | .bool a, .bool b => a == b
  | .number m, .number n => numbersAlike m n
  | .text s, .text t => s == t
  | .array xs, .array ys => itemsAlike xs ys
  | .object fs, .object gs => fs.length == gs.length && fieldsAlike fs gs
  | _, _ => false

def itemsAlike : List Json → List Json → Bool
  | [], [] => true
  | x :: xs, y :: ys => alike x y && itemsAlike xs ys
  | _, _ => false

def fieldsAlike : List (String × Json) → Fields → Bool
  | [], _ => true
  | (k, v) :: fs, gs =>
    (match Fields.find? gs k with
    | some w => alike v w
    | none => false) && fieldsAlike fs gs

end

end Json
end Hypermedia
