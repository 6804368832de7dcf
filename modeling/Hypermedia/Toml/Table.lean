import Hypermedia.Toml.Basic
/-!
# Tables in TOML

A table grows by statements: a header opens a table or adds one to a list of tables, and an assignment puts a value
under a key of the open table.  A key with points leads through tables inside it.  No value is ever replaced, and a
table is open to those statements only that its origin allows.
-/
namespace Hypermedia
namespace Toml

inductive Origin where
  /-- By a header of its own. -/
  | header
  /-- On the way to another header. -/
  | passed
  /-- On the way to the last part of a key with points. -/
  | dotted
  deriving DecidableEq

inductive Node where
  | value (v : Value)
  | table (origin : Origin) (entries : List (String × Node))
  /-- Tables that were added one by one, the latest first. -/
  | tables (elements : List (List (String × Node)))

abbrev Entries := List (String × Node)

namespace Entries

/-- Changes what stands under a key, or puts something there; a change may be refused. -/
def alter (key : String) (change : Option Node → Option Node) : Entries → Option Entries
  | [] => (change none).map fun n => [(key, n)]
  | (k, n) :: es =>
    if k == key then (change (some n)).map fun n => (k, n) :: es else (alter key change es).map ((k, n) :: ·)

/-- Changes the entries at the end of a path, which is made where it is missing.  Of a list of tables the latest one
counts.  On the way to a header every table may be entered; the parts of a key may enter only tables that have no
header of their own. -/
def within (made : Origin) (change : Origin → Entries → Option Entries) :
    List String → Origin → Entries → Option Entries
  | [], origin, es => change origin es
  | key :: path, _, es => alter key (fun
    | none => (within made change path made []).map (.table made)
    | some (.value _) => none
    | some (.tables []) => none
    | some (.tables (latest :: older)) => (within made change path .header latest).map fun l => .tables (l :: older)
    | some (.table origin inner) =>
      if made == .dotted && origin == .header then none
      else (within made change path origin inner).map (.table origin)) es

/-- Puts a value under a key that is still free.  The table at the end of a path with points has to come from such
paths alone. -/
def assign (path : List String) (key : String) (v : Value) (es : Entries) : Option Entries :=
  within .dotted (fun origin inner =>
    if path.isEmpty || origin == .dotted then
      alter key (fun | none => some (.value v) | some _ => none) inner
    else none) path .header es

def assignUnder (header path : List String) (key : String) (v : Value) (es : Entries) : Option Entries :=
  within .passed (fun _ inner => assign path key v inner) header .header es

/-- Opens the table of a header, which may have been passed on the way to another header but not opened itself. -/
def openTable (path : List String) (key : String) (es : Entries) : Option Entries :=
  within .passed (fun _ inner => alter key (fun
    | none => some (.table .header [])
    | some (.table .passed entries) => some (.table .header entries)
    | some _ => none) inner) path .header es

def addTable (path : List String) (key : String) (es : Entries) : Option Entries :=
  within .passed (fun _ inner => alter key (fun
    | none => some (.tables [[]])
    | some (.tables elements) => some (.tables ([] :: elements))
    | some _ => none) inner) path .header es

end Entries

mutual

def Node.toValue : Node → Value
  | .value v => v
  | .table _ es => .table (Entries.fields es)
  | .tables ts => .list (Entries.tablesToValues ts).reverse

def Entries.fields : List (String × Node) → List (String × Value)
  | [] => []
  | (k, n) :: es => (k, n.toValue) :: Entries.fields es

def Entries.tablesToValues : List (List (String × Node)) → List Value
  | [] => []
  | t :: ts => .table (Entries.fields t) :: Entries.tablesToValues ts

end

end Toml
end Hypermedia
