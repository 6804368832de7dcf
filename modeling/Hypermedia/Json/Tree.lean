import Hypermedia.Json.Token
/-!
# What a JSON text spells

The tree of a text keeps everything that the text spells: repeated keys, numerals of any size, strings with unpaired
halves, and any depth of nesting.  A reader of values refuses some of that, a reader that skips over fields does not.
-/
namespace Hypermedia
namespace Json

inductive Tree where
  | null
  | bool (b : Bool)
  | number (n : Numeral)
  | text (s : Option String)
  | array (items : List Tree)
  | object (fields : List (Option String × Tree))

namespace Tree

instance : Inhabited Tree := ⟨.null⟩

mutual

def value? : Nat → List Token → Option (Tree × List Token)
  | _ + 1, .null :: ts => some (.null, ts)
  | _ + 1, .bool b :: ts => some (.bool b, ts)
  | _ + 1, .number n :: ts => some (.number n, ts)
  | _ + 1, .text s :: ts => some (.text s, ts)
  | _ + 1, .openArray :: .closeArray :: ts => some (.array [], ts)
  | fuel + 1, .openArray :: ts => (items? fuel ts).map fun r => (.array r.1, r.2)
  | _ + 1, .openObject :: .closeObject :: ts => some (.object [], ts)
  | fuel + 1, .openObject :: ts => (fields? fuel ts).map fun r => (.object r.1, r.2)
  | _, _ => none

/-- The members of an array up to and with its closing bracket; there is at least one. -/
def items? : Nat → List Token → Option (List Tree × List Token)
  | 0, _ => none
  | fuel + 1, ts =>
    match value? fuel ts with
    | some (v, .closeArray :: rest) => some ([v], rest)
    | some (v, .comma :: rest) => (items? fuel rest).map fun r => (v :: r.1, r.2)
    | _ => none

/-- The fields of an object up to and with its closing brace; there is at least one. -/
def fields? : Nat → List Token → Option (List (Option String × Tree) × List Token)
  | fuel + 1, .text k :: .colon :: ts =>
    match value? fuel ts with
    | some (v, .closeObject :: rest) => some ([(k, v)], rest)
    | some (v, .comma :: rest) => (fields? fuel rest).map fun r => ((k, v) :: r.1, r.2)
    | _ => none
  | _, _ => none

end

def parse? (s : String) : Option Tree :=
  (Token.scan? .between s.toList).bind fun ts =>
    match value? (2 * ts.length + 2) ts with
    | some (t, []) => some t
    | _ => none

end Tree
end Json
end Hypermedia
