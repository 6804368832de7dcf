import Hypermedia.Toml.Quoted
import Hypermedia.Toml.Table
import Hypermedia.Toml.Word
/-!
# Statements of TOML

A text is a list of statements, each on a line of its own: a header in brackets, or a key with a value.  Lists may run
over several lines and hold comments; tables in braces stand on one line.
-/
namespace Hypermedia
namespace Toml

inductive Statement where
  | table (path : List String) (key : String)
  | element (path : List String) (key : String)
  | assignment (path : List String) (key : String) (v : Value)

/-- A reader takes something off the head of a text, or refuses it. -/
abbrev Reader := StateT (List Char) Option

namespace Reader

def exactly (c : Char) : Reader Unit
  | d :: cs => if d == c then some ((), cs) else none
  | [] => none

/-- Takes a given character if it is there, and tells whether it is. -/
def found (c : Char) : Reader Bool
  | d :: cs => if d == c then some (true, cs) else some (false, d :: cs)
  | [] => some (false, [])

def blanks : Reader Unit := fun cs => some ((), cs.dropWhile fun c => c == ' ' || c == '\t')

def comment : Reader Unit
  | '#' :: cs => some ((), cs.dropWhile isPrinted)
  | cs => some ((), cs)

def lineEnd : Reader Unit := do
  blanks
  comment
  match ← get with
  | [] => return
  | _ => exactly '\n'

/-- Takes blanks, comments and line ends between the items of a list. -/
def gapFrom : Nat → Reader Unit
  | 0 => failure
  | fuel + 1 => do
    blanks
    comment
    if ← found '\n' then gapFrom fuel

def gap : Reader Unit := do gapFrom ((← get).length + 1)

/-! ## Keys -/

def isBare (c : Char) : Bool := c.isAlphanum || c == '_' || c == '-'

def part : Reader String
  | '"' :: cs => (Quoted.basic? cs).map fun r => (String.ofList r.1, r.2)
  | '\'' :: cs => (Quoted.literal? cs).map fun r => (String.ofList r.1, r.2)
  | cs =>
    let bare := cs.takeWhile isBare
    if bare.isEmpty then none else some (String.ofList bare, cs.dropWhile isBare)

/-- How many parts a key may have, and how deep values may be nested. -/
def depthLimit : Nat := 79

/-- So many parts of a key at most, and all but the last of them apart from it. -/
def parts : Nat → Reader (List String × String)
  | 0 => failure
  | room + 1 => do
    blanks
    let first ← part
    blanks
    if ← found '.' then
      let (path, last) ← parts room
      return (first :: path, last)
    return ([], first)

def key : Reader (List String × String) := parts depthLimit

/-! ## Values -/

/-- The items of a list behind its opening bracket; a comma may follow the last one. -/
def items (item : Reader Value) : Nat → Reader (List Value)
  | 0 => failure
  | fuel + 1 => do
    gap
    if ← found ']' then return []
    let v ← item
    gap
    if ← found ']' then return [v]
    exactly ','
    return v :: (← items item fuel)

/-- The assignments of a table behind its opening brace and before its closing one; there is at least one. -/
def pairs (item : Reader Value) : Nat → Entries → Reader Entries
  | 0, _ => failure
  | fuel + 1, es => do
    let (path, last) ← key
    exactly '='
    blanks
    let v ← item
    blanks
    let es ← StateT.lift (es.assign path last v)
    if ← found ',' then pairs item fuel es
    else return es

def scalar : Reader Value := fun cs =>
  match Quoted.text? cs with
  | some (t, rest) => some (.text (String.ofList t), rest)
  | none => (Word.value? (Word.split cs).1).map (·, (Word.split cs).2)

/-- A value with so many lists and tables inside each other at most. -/
def value : Nat → Reader Value
  | 0 => scalar
  | depth + 1 => do
    let fuel := (← get).length
    if ← found '[' then return .list (← items (value depth) fuel)
    if ← found '\x7b' then
      blanks
      if ← found '\x7d' then return .table []
      let es ← pairs (value depth) fuel []
      exactly '\x7d'
      return .table (Entries.fields es)
    scalar

/-! ## Statements -/

def statement : Reader Statement := do
  if ← found '[' then
    if ← found '[' then
      let (path, last) ← key
      exactly ']'
      exactly ']'
      return .element path last
    let (path, last) ← key
    exactly ']'
    return .table path last
  let (path, last) ← key
  exactly '='
  blanks
  return .assignment path last (← value depthLimit)

/-- The statements of all lines; a line may be blank or hold nothing but a comment. -/
def statements : Nat → Reader (List Statement)
  | 0 => failure
  | fuel + 1 => do
    blanks
    comment
    if (← get).isEmpty then return []
    if ← found '\n' then statements fuel
    else
      let s ← statement
      lineEnd
      return s :: (← statements fuel)

end Reader
end Toml
end Hypermedia
