import Hypermedia.Text.Digit
import Hypermedia.Text.Split
import Hypermedia.Toml.Basic
/-!
# Words in TOML

Truth values, numbers and moments are words: runs of letters, digits and a few signs.  Single underscores may stand
between the digits of a number.  Integers have 64 bits with a sign.
-/
namespace Hypermedia
namespace Toml
namespace Word

/-! ## Numbers -/

def digits? (base : Nat) (cs : List Char) : Option (List Char) :=
  let groups := Text.splitAll (· == '_') cs
  let isDigit := fun c => (Text.digitValue? c).any (· < base)
  if groups.all fun g => !g.isEmpty && g.all isDigit then some groups.flatten else none

def whole? (cs : List Char) : Option (List Char) :=
  (digits? 10 cs).bind fun ds => if ds.head? == some '0' && ds.length != 1 then none else some ds

/-- Whether a numeral begins with a minus sign, and what follows its sign. -/
def signed : List Char → Bool × List Char
  | '-' :: cs => (true, cs)
  | '+' :: cs => (false, cs)
  | cs => (false, cs)

def withSign (negative : Bool) (n : Nat) : Int := if negative then -(n : Int) else n

def unbounded? : List Char → Option Int
  | '0' :: 'x' :: cs => ((digits? 16 cs).bind (Text.valueIn? 16)).map (withSign false)
  | '0' :: 'o' :: cs => ((digits? 8 cs).bind (Text.valueIn? 8)).map (withSign false)
  | '0' :: 'b' :: cs => ((digits? 2 cs).bind (Text.valueIn? 2)).map (withSign false)
  | cs => ((whole? (signed cs).2).bind (Text.valueIn? 10)).map (withSign (signed cs).1)

def integer? (cs : List Char) : Option Int :=
  (unbounded? cs).filter fun i => -(Nat.pow 2 63 : Int) ≤ i && i < (Nat.pow 2 63 : Int)

def startsExponent (c : Char) : Bool := c == 'e' || c == 'E'

/-- The exponent at the end of a numeral, absent when there is none. -/
def exponent? : List Char → Option (Option Int)
  | [] => some none
  | _ :: cs => ((digits? 10 (signed cs).2).bind (Text.valueIn? 10)).map fun n => some (withSign (signed cs).1 n)

def fraction? : Option (List Char) → Option (Option (List Char))
  | none => some none
  | some cs => (digits? 10 cs).map some

/-- The real number that a word spells, absent inside when it is not finite.  A numeral beyond the largest double is
infinite, and only a negative one is taken. -/
def real? (cs : List Char) : Option (Option Number.Double) := do
  let (negative, cs) := signed cs
  if cs == "inf".toList || cs == "nan".toList then return none
  let (whole, fraction) := Text.splitFirst '.' (cs.takeWhile (!startsExponent ·))
  let whole ← whole? whole
  let fraction ← fraction? fraction
  let exponent ← exponent? (cs.dropWhile (!startsExponent ·))
  if fraction.isNone && exponent.isNone then failure
  let places := fraction.getD []
  let digits ← Text.valueIn? 10 (whole ++ places)
  match Number.Double.nearest? digits (exponent.getD 0 - places.length) with
  | some d => return some (if negative then d.neg else d)
  | none => if negative then return none else failure

/-! ## Moments -/

def daysIn (year month : Nat) : Nat :=
  if month == 2 then if (year % 4 == 0 && year % 100 != 0) || year % 400 == 0 then 29 else 28
  else if month == 4 || month == 6 || month == 9 || month == 11 then 30
  else 31

def within (low high : Nat) (ds : List Char) : Bool :=
  (Text.valueIn? 10 ds).any fun n => low ≤ n && n ≤ high

def isDate : List Char → Bool
  | [a, b, c, d, '-', e, f, '-', g, h] =>
    match Text.valueIn? 10 [a, b, c, d], Text.valueIn? 10 [e, f] with
    | some year, some month => within 1 12 [e, f] && within 1 (daysIn year month) [g, h]
    | _, _ => false
  | _ => false

/-- Whether what follows the seconds is a fraction of one, or nothing. -/
def isSubsecond : List Char → Bool
  | [] => true
  | '.' :: cs => !cs.isEmpty && cs.all Char.isDigit
  | _ => false

/-- Whether a word is a time of the day; a minute may have a second more than sixty of them. -/
def isTime : List Char → Bool
  | a :: b :: ':' :: c :: d :: ':' :: e :: f :: cs =>
    within 0 23 [a, b] && within 0 59 [c, d] && within 0 60 [e, f] && isSubsecond cs
  | _ => false

/-- Whether what follows a time is its distance from universal time, or nothing. -/
def isOffset : List Char → Bool
  | [] => true
  | [z] => z == 'Z' || z == 'z'
  | [s, a, b, ':', c, d] => (s == '+' || s == '-') && within 0 23 [a, b] && within 0 59 [c, d]
  | _ => false

def startsOffset (c : Char) : Bool := "Zz+-".toList.contains c

/-- Whether a word is a date, a time, or both; between them stands a blank or the letter T. -/
def isMoment (cs : List Char) : Bool :=
  isDate cs || isTime cs ||
    match cs.drop 10 with
    | t :: cs' => isDate (cs.take 10) && (t == 'T' || t == 't' || t == ' ') &&
        isTime (cs'.takeWhile (!startsOffset ·)) && isOffset (cs'.dropWhile (!startsOffset ·))
    | [] => false

/-! ## Values -/

def isPart (c : Char) : Bool := c.isAlphanum || "+-.:_".toList.contains c

def value? (cs : List Char) : Option Value :=
  if cs == "true".toList then some (.bool true)
  else if cs == "false".toList then some (.bool false)
  else if isMoment cs then some (.moment (String.ofList cs))
  else ((integer? cs).map Value.integer).or ((real? cs).map Value.real)

/-- The word at the head of a text: a time may follow a date behind a blank. -/
def split (cs : List Char) : List Char × List Char :=
  let word := cs.takeWhile isPart
  let rest := cs.dropWhile isPart
  match rest with
  | ' ' :: rest' =>
    let longer := word ++ ' ' :: rest'.takeWhile isPart
    if isMoment longer then (longer, rest'.dropWhile isPart) else (word, rest)
  | _ => (word, rest)

end Word
end Toml
end Hypermedia
