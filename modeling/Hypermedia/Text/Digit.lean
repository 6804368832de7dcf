/-!
# Digits

The digits of bases up to sixteen, and the numbers that they spell.  Letters count as digits in either case; numbers
are written with small ones.  A number of 64 bits is spelled in decimal digits, and may have a plus sign in front.
-/
namespace Hypermedia
namespace Text

def digitValue? (c : Char) : Option Nat :=
  if '0' ≤ c && c ≤ '9' then some (c.toNat - 48)
  else if 'a' ≤ c && c ≤ 'f' then some (c.toNat - 87)
  else if 'A' ≤ c && c ≤ 'F' then some (c.toNat - 55)
  else none

/-- The number that digits of the given base spell; no digits spell zero. -/
def valueIn? (base : Nat) (cs : List Char) : Option Nat :=
  cs.foldl (fun acc c => acc.bind fun n => (digitValue? c).bind fun d =>
    if d < base then some (base * n + d) else none) (some 0)

/-- The number of 64 bits that a text spells in decimal digits, with a plus sign or without. -/
def uint64? (s : String) : Option UInt64 :=
  let digits := match s.toList with
    | '+' :: ds => ds
    | ds => ds
  if digits.isEmpty || !digits.all (fun c => '0' ≤ c && c ≤ '9') then none
  else
    let n : Nat := digits.foldl (fun n c => 10 * n + (c.toNat - 48)) 0
    if n < Nat.pow 2 64 then some n.toUInt64 else none

def hexDigits (n : Nat) : List Char := Nat.toDigits 16 n

end Text
end Hypermedia
