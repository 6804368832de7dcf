import Hypermedia.LogFilter.Pattern.Class
import Hypermedia.LogFilter.Pattern.Group
/-!
# Patterns

Whether a text is a pattern: alternatives of elements in sequence, each of them a character, a class, a place or a
group, and followed by signs that repeat it.  A pattern comes from between braces and commas, so that it holds no count.
-/
namespace Hypermedia
namespace LogFilter
namespace Pattern

/-- How far a pattern is read: the modes, whether something stands before that can be repeated, the modes around each
open group, and the names of groups. -/
structure Progress where
  modes : Modes := {}
  repeatable : Bool := false
  around : List Modes := []
  names : List (List Char) := []

/-- The progress behind an opening parenthesis; no two groups have the same name. -/
def Progress.enter? (p : Progress) : Opening → Option Progress
  | .modes m => some { p with modes := m, repeatable := false }
  | .group m none => some { p with modes := m, repeatable := false, around := p.modes :: p.around }
  | .group m (some name) =>
    if p.names.contains name then none
    else some ⟨m, false, p.modes :: p.around, name :: p.names⟩

/-- The progress behind a closing parenthesis; there is none when no group is open. -/
def Progress.leave? (p : Progress) : Option Progress :=
  match p.around with
  | [] => none
  | m :: around => some { p with modes := m, around, repeatable := true }

/-- Reads one element, or one sign between elements, from a text that is not empty. -/
def Progress.step? (p : Progress) (c : Char) (cs : List Char) : Option (Progress × List Char) :=
  let item := { p with repeatable := true }
  match c with
  | '(' => (opening? p.modes cs).bind fun r => (p.enter? r.1).map (·, r.2)
  | ')' => p.leave?.map (·, cs)
  | '|' => some ({ p with repeatable := false }, cs)
  | '[' => (class? p.modes cs).map (item, ·)
  | '\x7b' => none
  | '?' | '*' | '+' => if p.repeatable then some (p, if cs.head? == some '?' then cs.drop 1 else cs) else none
  | '\\' => (escape? p.modes cs).bind fun r => if p.modes.allows r.1 then some (item, r.2) else none
  | '.' => if p.modes.wide then some (item, cs) else none
  | '^' | '$' => some (item, cs)
  | _ => if p.modes.allows (.literal c false) then some (item, cs) else none

/-- Whether a text is the rest of a pattern; the fuel is at least its length. -/
def Progress.accepts : (fuel : Nat) → Progress → List Char → Bool
  | 0, _, _ => false
  | fuel + 1, p, cs =>
    match p.modes.next cs with
    | [] => p.around.isEmpty
    | c :: rest =>
      match p.step? c rest with
      | none => false
      | some (q, rest) => accepts fuel q rest

def isPattern (cs : List Char) : Bool := Progress.accepts (cs.length + 1) {} cs

end Pattern
end LogFilter
end Hypermedia
