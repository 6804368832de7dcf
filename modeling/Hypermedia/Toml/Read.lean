import Hypermedia.Toml.Statement
/-!
# Reading TOML

The table of a text: its statements are read first, and then put into effect in order.
-/
namespace Hypermedia
namespace Toml

def unifyLines : List Char → List Char
  | '\r' :: '\n' :: cs => '\n' :: unifyLines cs
  | c :: cs => c :: unifyLines cs
  | [] => []

def withoutMark : List Char → List Char
  | c :: cs => if c.toNat == 0xfeff then cs else c :: cs
  | [] => []

def statements? (text : String) : Option (List Statement) :=
  let cs := unifyLines (withoutMark text.toList)
  ((Reader.statements (cs.length + 1)).run cs).map (·.1)

/-- Puts statements into effect, the last header having opened the table at the given path. -/
def effect : List String → List Statement → Entries → Option Entries
  | _, [], es => some es
  | _, .table path key :: ss, es => (es.openTable path key).bind (effect (path ++ [key]) ss)
  | _, .element path key :: ss, es => (es.addTable path key).bind (effect (path ++ [key]) ss)
  | opened, .assignment path key v :: ss, es => (es.assignUnder opened path key v).bind (effect opened ss)

def parse? (text : String) : Option Value :=
  (statements? text).bind fun ss => (effect [] ss []).map fun es => .table (Entries.fields es)

end Toml
end Hypermedia
