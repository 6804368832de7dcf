import Hypermedia.Json.Tree
/-!
# Reading JSON values

The value of a text.  Of a repeated key the last value counts and the first position stays.  An integer that fits
neither an unsigned nor a signed 64-bit number becomes a double, and so does a negative zero; a number beyond the
largest double, a string with an unpaired half, and more than 127 nested containers are refused.
-/
namespace Hypermedia
namespace Json

namespace Numeral

def digitValue (c : Char) : Nat := c.toNat - 48

/-- Appends digits to `n` as long as the result stays below `2 ^ 64`: the result, and how many digits were left. -/
def absorb (n : Nat) : List Char → Nat × Nat
  | [] => (n, 0)
  | d :: ds => if 10 * n + digitValue d < Nat.pow 2 64 then absorb (10 * n + digitValue d) ds else (n, ds.length + 1)

def exponentValue : Option (Bool × List Char) → Int
  | none => 0
  | some (negative, ds) =>
    let n : Nat := ds.foldl (fun n d => 10 * n + digitValue d) 0
    if negative then -(n : Int) else n

/-- The number of a numeral.  Digits beyond the first nineteen or twenty of the whole part only scale the number, and
those of the fraction are dropped. -/
def value? (n : Numeral) : Option Number.Value :=
  let w := absorb 0 n.whole
  let sign := fun d : Number.Double => Number.Value.double (if n.negative then d.neg else d)
  if n.fraction.isEmpty && n.exponent.isNone && w.2 == 0 then
    if n.negative then
      if w.1 == 0 || Nat.pow 2 63 < w.1 then (Number.Double.ofNat? w.1).map sign else some (.integer (-(w.1 : Int)))
    else some (.integer w.1)
  else
    let f := absorb w.1 n.fraction
    let taken : Nat := n.fraction.length - f.2
    (Number.Double.ofDecimal? f.1 ((w.2 : Int) - (taken : Int) + exponentValue n.exponent)).map sign

end Numeral

mutual

def Tree.toJson? (depth : Nat) : Tree → Option Json
  | .null => some .null
  | .bool b => some (.bool b)
  | .number n => n.value?.map .number
  | .text s => s.map .text
  | .array items =>
    match depth with
    | 0 => none
    | d + 1 => (Tree.itemsToJson? d items).map .array
  | .object fields =>
    match depth with
    | 0 => none
    | d + 1 => (Tree.fieldsToJson? d [] fields).map .object

def Tree.itemsToJson? (depth : Nat) : List Tree → Option (List Json)
  | [] => some []
  | t :: ts => (Tree.toJson? depth t).bind fun v => (Tree.itemsToJson? depth ts).map (v :: ·)

/-- The fields read so far, with those of the tree written over them in order. -/
def Tree.fieldsToJson? (depth : Nat) (read : Fields) : List (Option String × Tree) → Option Fields
  | [] => some read
  | (k, t) :: fs =>
    k.bind fun key => (Tree.toJson? depth t).bind fun v => Tree.fieldsToJson? depth (Fields.put read key v) fs

end

/-- How many containers may be nested. -/
def nestingLimit : Nat := 127

def parse? (s : String) : Option Json :=
  (Tree.parse? s).bind (Tree.toJson? nestingLimit)

end Json
end Hypermedia
