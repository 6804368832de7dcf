import Hypermedia.Text.Digit
/-!
# Texts in TOML

A text stands between double quotes, where a backslash starts an escape, or between single quotes, where every
character stands for itself; either kind may also be opened and closed by three quotes, and then runs over several
lines.  The readers here start behind the opening quotes and give what the text spells and what follows it.
-/
namespace Hypermedia
namespace Toml

/-- Whether a character may stand for itself in a text; of the control characters only the tab does. -/
def isPrinted (c : Char) : Bool :=
  c == '\t' || (0x20 ≤ c.toNat && c.toNat != 0x7f)

namespace Quoted

/-- The character that hexadecimal digits name; surrogates and numbers beyond the last character name none. -/
def scalar? (ds : List Char) : Option Char :=
  (Text.valueIn? 16 ds).bind fun n =>
    if n.isValidChar then some (Char.ofNat n) else none

/-- The character behind a backslash, for the escapes of two characters. -/
def shortEscape? (c : Char) : Option Char :=
  if c == '"' || c == '\\' then some c
  else if c == 'b' then some (Char.ofNat 0x08)
  else if c == 'f' then some (Char.ofNat 0x0c)
  else if c == 'n' then some '\n'
  else if c == 'r' then some '\r'
  else if c == 't' then some '\t'
  else none

/-- What follows the escape that a backslash starts, and the character that it stands for. -/
def escape? : List Char → Option (Char × List Char)
  | 'u' :: a :: b :: c :: d :: cs => (scalar? [a, b, c, d]).map (·, cs)
  | 'U' :: a :: b :: c :: d :: e :: f :: g :: h :: cs => (scalar? [a, b, c, d, e, f, g, h]).map (·, cs)
  | c :: cs => (shortEscape? c).map (·, cs)
  | [] => none

theorem length_of_escape? {cs rest : List Char} {c : Char} (h : escape? cs = some (c, rest)) :
    rest.length < cs.length := by
  unfold escape? at h
  split at h <;> simp only [Option.map_eq_some_iff, Prod.mk.injEq, reduceCtorEq] at h
  all_goals
    obtain ⟨_, _, _, rfl⟩ := h
    simp +arith

def basic? : List Char → Option (List Char × List Char)
  | [] => none
  | '"' :: cs => some ([], cs)
  | '\\' :: cs =>
    match h : escape? cs with
    | some (c, rest) =>
      have := length_of_escape? h
      (basic? rest).map fun r => (c :: r.1, r.2)
    | none => none
  | c :: cs => if isPrinted c then (basic? cs).map fun r => (c :: r.1, r.2) else none
termination_by cs => cs.length

def literal? (cs : List Char) : Option (List Char × List Char) :=
  let isInside := fun c => isPrinted c && c != '\''
  match cs.dropWhile isInside with
  | '\'' :: rest => some (cs.takeWhile isInside, rest)
  | _ => none

/-- The end of a text that is closed by three of the given quotes; up to two more of them belong to the text. -/
def closing? (quote : Char) (cs : List Char) : Option (List Char × List Char) :=
  let n := (cs.takeWhile (· == quote)).length
  if n < 3 then none
  else
    let kept := min (n - 3) 2
    some (List.replicate kept quote, cs.drop (kept + 3))

def isLineEnd (cs : List Char) : Bool :=
  (cs.dropWhile fun c => c == ' ' || c == '\t').head? == some '\n'

/-- Whether a character is skipped behind a backslash that ends a line. -/
def isGap (c : Char) : Bool := c == ' ' || c == '\t' || c == '\n'

/-- A text in three double quotes.  A backslash at the end of a line joins it with the next one that is not blank. -/
def basicLines? (cs : List Char) : Option (List Char × List Char) :=
  match closing? '"' cs with
  | some r => some r
  | none =>
    match cs with
    | [] => none
    | '\\' :: cs =>
      if isLineEnd cs then
        have := (List.dropWhile_suffix isGap (l := cs)).length_le
        basicLines? (cs.dropWhile isGap)
      else
        match h : escape? cs with
        | some (c, rest) =>
          have := length_of_escape? h
          (basicLines? rest).map fun r => (c :: r.1, r.2)
        | none => none
    | c :: cs =>
      if isPrinted c || c == '\n' then (basicLines? cs).map fun r => (c :: r.1, r.2) else none
termination_by cs.length

def literalLines? : List Char → Option (List Char × List Char)
  | [] => none
  | c :: cs =>
    match closing? '\'' (c :: cs) with
    | some r => some r
    | none => if isPrinted c || c == '\n' then (literalLines? cs).map fun r => (c :: r.1, r.2) else none

/-- A text over several lines does not hold the line break right behind its opening quotes. -/
def afterBreak : List Char → List Char
  | '\n' :: cs => cs
  | cs => cs

/-- The text at the head of a list of characters; the opening quotes are still there. -/
def text? : List Char → Option (List Char × List Char)
  | '"' :: '"' :: '"' :: cs => basicLines? (afterBreak cs)
  | '"' :: cs => basic? cs
  | '\'' :: '\'' :: '\'' :: cs => literalLines? (afterBreak cs)
  | '\'' :: cs => literal? cs
  | _ => none

end Quoted
end Toml
end Hypermedia
