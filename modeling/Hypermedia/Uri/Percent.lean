import Hypermedia.Text.Digit
import Hypermedia.Text.Split
/-!
# Percent encoding

Each part of an address has its own set of characters that must not stand in it as they are.  They are written as the
bytes of their UTF-8 form; a percent sign is never in a set, so what is encoded already stays as it is.
-/
namespace Hypermedia
namespace Percent

def byte (b : UInt8) : List Char :=
  let digit := fun n : Nat => Char.ofNat (if n < 10 then 48 + n else 55 + n)
  ['%', digit (b.toNat / 16), digit (b.toNat % 16)]

def bytes (c : Char) : List Char := (String.utf8EncodeChar c).flatMap byte

def encode (set : Char → Bool) (cs : List Char) : List Char :=
  cs.flatMap fun c => if set c || 0x80 ≤ c.toNat then bytes c else [c]

def control (c : Char) : Bool := c.toNat < 0x20 || c.toNat == 0x7f

def fragmentSet (c : Char) : Bool := control c || " \"<>`".toList.contains c

def pathSet (c : Char) : Bool := fragmentSet c || "#?\x7b\x7d".toList.contains c

def credentialSet (c : Char) : Bool := pathSet c || "/:;=@[\\]^|".toList.contains c

/-- What is encoded in a query; a special address encodes the apostrophe too. -/
def querySet (special : Bool) (c : Char) : Bool :=
  control c || " \"#<>".toList.contains c || (special && c == '\'')

/-- The bytes of a text whose escapes are decoded; a percent sign without two digits behind it stands for itself. -/
def decode : List Char → List UInt8
  | [] => []
  | '%' :: a :: b :: cs =>
    match Text.digitValue? a, Text.digitValue? b with
    | some x, some y => UInt8.ofNat (16 * x + y) :: decode cs
    | _, _ => 0x25 :: decode (a :: b :: cs)
  | c :: cs => String.utf8EncodeChar c ++ decode cs

/-- The text that an escaped text stands for; the bytes may be no text. -/
def text? (cs : List Char) : Option String := String.fromUTF8? ⟨(decode cs).toArray⟩

end Percent
end Hypermedia
