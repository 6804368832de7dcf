import Hypermedia.LogFilter.Pattern.Basic
/-!
# Classes in patterns

A class in brackets lists characters, ranges and classes; between its parts stand signs for common, missing and
distinct members.  The complement of a class holds more than ASCII, so that it does not stand where bytes count.
-/
namespace Hypermedia
namespace LogFilter
namespace Pattern

def classNames : List String :=
  ["alnum", "alpha", "ascii", "blank", "cntrl", "digit", "graph", "lower", "print", "punct", "space", "upper", "word",
    "xdigit"]

/-- Reads a named class behind its bracket: whether it is a complement, and what follows. -/
def namedClass? : List Char → Option (Bool × List Char)
  | ':' :: cs =>
    let negated := cs.head? == some '^'
    match Text.splitFirst ':' (if negated then cs.drop 1 else cs) with
    | (name, some (']' :: rest)) =>
      if classNames.contains (String.ofList name) then some (negated, rest) else none
    | _ => none
  | _ => none

def classElement? (m : Modes) : List Char → Option (Element × List Char)
  | [] => none
  | '\\' :: cs => escape? m cs
  | c :: cs => some (.literal c false, cs)

def afterHyphen (m : Modes) (cs : List Char) : Option Char :=
  if m.spacious then
    match cs.dropWhile Text.isBlank with
    | '#' :: rest => (rest.dropWhile Text.isBlank).head?
    | rest => rest.head?
  else cs.head?

/-- Reads an element of a class or a range of characters; gives what follows. -/
def classPart? (m : Modes) (cs : List Char) : Option (List Char) := do
  let (e, rest) ← classElement? m cs
  let single := match e with
    | .literal c _ => m.allowsInClass c
    | .anyOf => true
    | .place => false
  match m.next rest with
  | [] => none
  | '-' :: behind =>
    if afterHyphen m behind == some ']' || afterHyphen m behind == some '-' then
      if single then some ('-' :: behind) else none
    else
      let (e', rest') ← classElement? m (m.next behind)
      match e, e' with
      | .literal c _, .literal d _ =>
        if c.toNat ≤ d.toNat && m.allowsInClass c && m.allowsInClass d then some rest' else none
      | _, _ => none
  | rest => if single then some rest else none

/-- Drops the hyphens at the start of a class, which stand for themselves. -/
def dropHyphens (m : Modes) (cs : List Char) : List Char :=
  cs.dropWhile fun c => c == '-' || (m.spacious && Text.isBlank c)

/-- Reads the start of a class behind its bracket; gives what follows.  A closing bracket in the first place stands for
itself, as do hyphens. -/
def classStart? (m : Modes) (cs : List Char) : Option (List Char) :=
  let (negated, cs) := match m.next cs with
    | '^' :: rest => (true, m.next rest)
    | rest => (false, rest)
  if negated && !m.wide then none
  else match cs with
    | [] => none
    | '-' :: _ => if m.allowsInClass '-' then some (dropHyphens m cs) else none
    | ']' :: rest => if m.allowsInClass ']' then some rest else none
    | _ => some cs

/-- Reads the rest of a class of which the given number of brackets are open; gives what follows. -/
def classRest? (m : Modes) : (fuel depth : Nat) → List Char → Option (List Char)
  | 0, _, _ => none
  | fuel + 1, depth, cs =>
    match m.next cs with
    | [] => none
    | '[' :: rest =>
      match namedClass? rest with
      | some (negated, rest) =>
        if m.needsCases || (negated && !m.wide) then none else classRest? m fuel depth rest
      | none => (classStart? m rest).bind (classRest? m fuel (depth + 1))
    | ']' :: rest => if depth == 1 then some rest else classRest? m fuel (depth - 1) rest
    | '&' :: '&' :: rest => classRest? m fuel depth rest
    | '-' :: '-' :: rest => classRest? m fuel depth rest
    | '~' :: '~' :: rest => classRest? m fuel depth rest
    | cs => (classPart? m cs).bind (classRest? m fuel depth)

def class? (m : Modes) (cs : List Char) : Option (List Char) :=
  (classStart? m cs).bind (classRest? m (cs.length + 1) 1)

end Pattern
end LogFilter
end Hypermedia
