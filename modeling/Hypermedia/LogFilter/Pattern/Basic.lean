import Hypermedia.Text.Blank
import Hypermedia.Text.Digit
import Hypermedia.Text.Split
/-!
# Elements of patterns

What the modes of a pattern are, which characters count in it, and what an escape stands for.  Nothing is known about
the properties of characters beyond ASCII: what depends on them stands only where characters count as bytes.
-/
namespace Hypermedia
namespace LogFilter
namespace Pattern

structure Modes where
  /-- Characters count, not bytes. -/
  wide : Bool := true
  /-- Letters stand for both of their cases. -/
  caseless : Bool := false
  /-- Blanks and comments do not count. -/
  spacious : Bool := false

/-- The modes after a letter has turned one of them on or off; most letters concern what is matched and not what is a
pattern. -/
def Modes.set (m : Modes) (letter : Char) (on : Bool) : Modes :=
  if letter == 'u' then { m with wide := on }
  else if letter == 'i' then { m with caseless := on }
  else if letter == 'x' then { m with spacious := on }
  else m

def skip (inComment : Bool) : List Char → List Char
  | [] => []
  | c :: cs =>
    if inComment then skip (c != '\n') cs
    else if Text.isBlank c then skip false cs
    else if c == '#' then skip true cs
    else c :: cs

def Modes.next (m : Modes) (cs : List Char) : List Char := if m.spacious then skip false cs else cs

inductive Element where
  /-- One character; as a byte, if two hexadecimal digits spell it. -/
  | literal (c : Char) (byte : Bool)
  | anyOf
  | place

def Modes.needsCases (m : Modes) : Bool := m.wide && m.caseless

def Modes.allows (m : Modes) : Element → Bool
  | .literal c byte => !m.needsCases && (m.wide || !byte || c.toNat < 0x80)
  | _ => true

def Modes.allowsInClass (m : Modes) (c : Char) : Bool :=
  !m.needsCases && (m.wide || c.toNat < 0x80)

def hexValue? (m : Modes) : (digits value : Nat) → List Char → Option (Nat × List Char)
  | 0, value, cs => some (value, cs)
  | n + 1, value, cs =>
    match m.next cs with
    | [] => none
    | d :: ds => (Text.digitValue? d).bind fun v => hexValue? m n (16 * value + v) ds

def hexLiteral? (m : Modes) (digits : Nat) (cs : List Char) : Option (Element × List Char) :=
  (hexValue? m digits 0 cs).bind fun r =>
    if Nat.isValidChar r.1 then some (.literal (Char.ofNat r.1) (digits == 2), m.next r.2) else none

/-- Signs that stand for themselves behind a backslash: every sign of ASCII but the angles. -/
def isSign (c : Char) : Bool := c.toNat < 0x80 && !c.isAlphanum && c != '<' && c != '>'

def escape? (m : Modes) : List Char → Option (Element × List Char)
  | [] => none
  | c :: cs =>
    if isSign c then some (.literal c false, cs)
    else match c with
      | 'x' => hexLiteral? m 2 cs
      | 'u' => hexLiteral? m 4 cs
      | 'U' => hexLiteral? m 8 cs
      | 'd' | 's' | 'w' => if m.wide then none else some (.anyOf, cs)
      | 'b' | 'B' | '<' | '>' => if m.wide then none else some (.place, cs)
      | 'A' | 'z' => some (.place, cs)
      | 'a' => some (.literal '\x07' false, cs)
      | 'f' => some (.literal '\x0c' false, cs)
      | 't' => some (.literal '\t' false, cs)
      | 'n' => some (.literal '\n' false, cs)
      | 'r' => some (.literal '\r' false, cs)
      | 'v' => some (.literal '\x0b' false, cs)
      | _ => none

end Pattern
end LogFilter
end Hypermedia
