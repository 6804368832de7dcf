import Hypermedia.LogFilter.Pattern.Basic
import Hypermedia.Text.Alphanumeric
/-!
# Groups in patterns

What stands behind an opening parenthesis: a group, a group with a name, a group with modes of its own, or modes for the
rest of the group around.  Nothing looks ahead or behind.
-/
namespace Hypermedia
namespace LogFilter
namespace Pattern

inductive Opening where
  | group (modes : Modes) (name : Option (List Char))
  | modes (modes : Modes)

def isGroupName : List Char → Bool
  | [] => false
  | c :: cs =>
    (c == '_' || Text.alphabetic.contains c) && cs.all fun d => "_.[]".toList.contains d || Text.isAlphanumeric d

/-- Reads the letters of modes up to a colon or a parenthesis; `seen` holds the letters so far, and what follows a
hyphen is turned off. -/
def modeLetters? (m : Modes) (seen : List Char) (off dangling : Bool) : List Char → Option (Opening × List Char)
  | [] => none
  | c :: cs =>
    if c == ':' then if dangling then none else some (.group m none, cs)
    else if c == ')' then if dangling || seen.isEmpty then none else some (.modes m, cs)
    else if c == '-' then if off then none else modeLetters? m seen true true cs
    else if "imsUuRx".toList.contains c && !seen.contains c then
      modeLetters? (m.set c !off) (c :: seen) off false cs
    else none

def namedGroup? (m : Modes) (cs : List Char) : Option (Opening × List Char) :=
  match Text.splitFirst '>' cs with
  | (name, some rest) => if isGroupName name then some (.group m (some name), rest) else none
  | _ => none

def opening? (m : Modes) (cs : List Char) : Option (Opening × List Char) :=
  match m.next cs with
  | '?' :: 'P' :: '<' :: rest => namedGroup? m rest
  | '?' :: '<' :: rest => namedGroup? m rest
  | '?' :: rest => modeLetters? m [] false false rest
  | rest => some (.group m none, rest)

end Pattern
end LogFilter
end Hypermedia
