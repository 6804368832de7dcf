import Hypermedia.Json.Basic
import Hypermedia.Text.Digit
/-!
# JSON tokens

A text is cut into tokens one character at a time.  A string is held as the pieces it spells: an escape may spell half
of a surrogate pair, and such a string has no characters, which matters only to a reader that wants them.  A numeral is
held as its digits.
-/
namespace Hypermedia
namespace Json

structure Numeral where
  negative : Bool
  whole : List Char
  fraction : List Char
  exponent : Option (Bool × List Char)

namespace Numeral

def digits? (cs : List Char) : Option (List Char × List Char) :=
  match cs.takeWhile Char.isDigit with
  | [] => none
  | ds => some (ds, cs.dropWhile Char.isDigit)

/-- The digits of a whole part: a leading zero stands alone. -/
def whole? (cs : List Char) : Option (List Char × List Char) :=
  (digits? cs).bind fun r => if r.1.head? == some '0' && r.1.length != 1 then none else some r

def fraction? : List Char → Option (List Char × List Char)
  | '.' :: cs => digits? cs
  | cs => some ([], cs)

/-- The digits of an exponent with an optional sign; `true` marks a negative one. -/
def signedDigits? : List Char → Option (Bool × List Char)
  | '-' :: cs => (digits? cs).bind fun r => if r.2.isEmpty then some (true, r.1) else none
  | '+' :: cs => (digits? cs).bind fun r => if r.2.isEmpty then some (false, r.1) else none
  | cs => (digits? cs).bind fun r => if r.2.isEmpty then some (false, r.1) else none

def exponent? : List Char → Option (Option (Bool × List Char))
  | [] => some none
  | c :: cs => if c == 'e' || c == 'E' then (signedDigits? cs).map some else none

def ofChars? (cs : List Char) : Option Numeral :=
  let negative := cs.head? == some '-'
  (whole? (if negative then cs.drop 1 else cs)).bind fun w =>
    (fraction? w.2).bind fun f =>
      (exponent? f.2).map fun e => ⟨negative, w.1, f.1, e⟩

end Numeral

inductive Piece where
  | scalar (c : Char)
  | half (unit : Nat)

/-- The characters that the pieces spell; a half needs its partner behind it. -/
def Piece.join? : List Piece → Option (List Char)
  | [] => some []
  | .scalar c :: ps => (join? ps).map (c :: ·)
  | .half h :: .half l :: ps =>
    if h < 0xdc00 && 0xdc00 ≤ l then
      (join? ps).map (Char.ofNat (0x10000 + (h - 0xd800) * 0x400 + (l - 0xdc00)) :: ·)
    else none
  | .half _ :: _ => none

def Piece.ofUnit (n : Nat) : Piece :=
  if 0xd800 ≤ n && n ≤ 0xdfff then .half n else .scalar (Char.ofNat n)

/-- The text that the pieces spell, absent when a half has no partner. -/
def Piece.text? (ps : List Piece) : Option String :=
  (join? ps).map String.ofList

/-- A token; `text none` is a string with an unpaired half. -/
inductive Token where
  | openArray
  | closeArray
  | openObject
  | closeObject
  | comma
  | colon
  | null
  | bool (b : Bool)
  | number (n : Numeral)
  | text (s : Option String)

namespace Token

def ofWord? (cs : List Char) : Option Token :=
  if cs == "null".toList then some .null
  else if cs == "true".toList then some (.bool true)
  else if cs == "false".toList then some (.bool false)
  else (Numeral.ofChars? cs).map .number

def ofMark? (c : Char) : Option Token :=
  if c == '[' then some .openArray
  else if c == ']' then some .closeArray
  else if c == '\x7b' then some .openObject
  else if c == '\x7d' then some .closeObject
  else if c == ',' then some .comma
  else if c == ':' then some .colon
  else none

def isGap (c : Char) : Bool := c == ' ' || c == '\t' || c == '\n' || c == '\r'

/-- Where a scan stands.  Collected characters and pieces are held last first. -/
inductive Mode where
  | between
  | word (collected : List Char)
  | string (collected : List Piece)
  | escape (collected : List Piece)
  | unit (collected : List Piece) (missing : Nat) (value : Nat)

/-- The character behind a backslash, for the escapes of two characters. -/
def shortEscape? (c : Char) : Option Char :=
  if c == '"' || c == '\\' || c == '/' then some c
  else if c == 'b' then some (Char.ofNat 0x08)
  else if c == 'f' then some (Char.ofNat 0x0c)
  else if c == 'n' then some '\n'
  else if c == 'r' then some '\r'
  else if c == 't' then some '\t'
  else none

/-- What a character between tokens starts: the tokens it completes, and the mode behind it. -/
def start (c : Char) : List Token × Mode :=
  if isGap c then ([], .between)
  else if c == '"' then ([], .string [])
  else match ofMark? c with
    | some t => ([t], .between)
    | none => ([], .word [c])

/-- Reads one character: the tokens it completes and the mode behind it. -/
def step : Mode → Char → Option (List Token × Mode)
  | .between, c => some (start c)
  | .word cs, c =>
    if isGap c || c == '"' || (ofMark? c).isSome then
      (ofWord? cs.reverse).map fun t => (t :: (start c).1, (start c).2)
    else some ([], .word (c :: cs))
  | .string ps, c =>
    if c == '"' then some ([.text (Piece.text? ps.reverse)], .between)
    else if c == '\\' then some ([], .escape ps)
    else if c.toNat < 0x20 then none
    else some ([], .string (.scalar c :: ps))
  | .escape ps, c =>
    if c == 'u' then some ([], .unit ps 3 0)
    else (shortEscape? c).map fun d => ([], .string (.scalar d :: ps))
  | .unit ps missing value, c =>
    (Text.digitValue? c).map fun d =>
      match missing with
      | 0 => ([], .string (Piece.ofUnit (16 * value + d) :: ps))
      | m + 1 => ([], .unit ps m (16 * value + d))

def finish? : Mode → Option (List Token)
  | .between => some []
  | .word cs => (ofWord? cs.reverse).map ([·])
  | _ => none

def scan? : Mode → List Char → Option (List Token)
  | mode, [] => finish? mode
  | mode, c :: cs => (step mode c).bind fun r => (scan? r.2 cs).map (r.1 ++ ·)

end Token
end Json
end Hypermedia
