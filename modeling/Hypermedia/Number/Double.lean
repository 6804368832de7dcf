/-!
# Double-precision numbers

A double is its 64 bits.  Arithmetic is exact on fractions of natural numbers and rounded once, to the nearest double
and to the even one of two equally near; a result beyond the largest double is absent rather than infinite.
-/
namespace Hypermedia
namespace Number

/-- A finite double-precision number, held by its bits. -/
structure Double where
  bits : UInt64
  deriving DecidableEq

/-- A nonnegative fraction; the denominator is meant to be positive. -/
structure Fraction where
  num : Nat
  den : Nat

namespace Fraction

def ofBinary (m : Nat) (e : Int) : Fraction :=
  if 0 ≤ e then ⟨m * Nat.pow 2 e.toNat, 1⟩ else ⟨m, Nat.pow 2 (-e).toNat⟩

def mul (a b : Fraction) : Fraction :=
  ⟨a.num * b.num, a.den * b.den⟩

def div (a b : Fraction) : Fraction :=
  ⟨a.num * b.den, a.den * b.num⟩

def add (a b : Fraction) : Fraction :=
  ⟨a.num * b.den + b.num * a.den, a.den * b.den⟩

end Fraction

/-- The natural number nearest to `num / den`, the even one of two equally near. -/
def roundHalfEven (num den : Nat) : Nat :=
  let q := num / den
  let r := num % den
  if 2 * r < den then q
  else if den < 2 * r then q + 1
  else if q % 2 == 0 then q else q + 1

namespace Double

def zero : Double := ⟨0⟩

def isNegative (d : Double) : Bool :=
  d.bits.toNat / Nat.pow 2 63 == 1

def magnitudeBits (d : Double) : Nat :=
  d.bits.toNat % Nat.pow 2 63

def isZero (d : Double) : Bool :=
  d.magnitudeBits == 0

def neg (d : Double) : Double :=
  ⟨d.bits ^^^ (0x8000000000000000 : UInt64)⟩

/-- `(m, e)` such that the magnitude is `m · 2 ^ e`. -/
def parts (d : Double) : Nat × Int :=
  let field : Nat := d.magnitudeBits / Nat.pow 2 52
  let fraction := d.magnitudeBits % Nat.pow 2 52
  if field == 0 then (fraction, -1074) else (Nat.pow 2 52 + fraction, (field : Int) - 1075)

def magnitude (d : Double) : Fraction :=
  Fraction.ofBinary d.parts.1 d.parts.2

/-- The double nearest to a fraction, absent when the fraction rounds beyond the largest double. -/
def ofFraction? (x : Fraction) : Option Double :=
  if x.num == 0 then some zero
  else
    let e₀ : Int := (Nat.log2 x.num : Int) - (Nat.log2 x.den : Int) - 53
    let fits := fun e : Int => x.num * Nat.pow 2 (-e).toNat < x.den * Nat.pow 2 53 * Nat.pow 2 e.toNat
    let e₁ := if fits e₀ then e₀ else e₀ + 1
    let e := if e₁ < -1074 then -1074 else e₁
    let m := roundHalfEven (x.num * Nat.pow 2 (-e).toNat) (x.den * Nat.pow 2 e.toNat)
    let bits := if m < Nat.pow 2 52 then m else (e + 1075).toNat * Nat.pow 2 52 + (m - Nat.pow 2 52)
    if bits < 0x7ff0000000000000 then some ⟨UInt64.ofNat bits⟩ else none

def mul? (a b : Double) : Option Double :=
  ofFraction? (a.magnitude.mul b.magnitude)

/-- The quotient of two nonnegative doubles, the second one not zero. -/
def div? (a b : Double) : Option Double :=
  ofFraction? (a.magnitude.div b.magnitude)

def add? (a b : Double) : Option Double :=
  ofFraction? (a.magnitude.add b.magnitude)

def ofNat? (n : Nat) : Option Double :=
  ofFraction? ⟨n, 1⟩

/-- Divides by `10 ^ n` in steps of at most `10 ^ 308`, each rounded, and stops early at zero. -/
def scaleDown (d : Double) (n : Nat) : Option Double :=
  if n ≤ 308 then (ofNat? (Nat.pow 10 n)).bind d.div?
  else if d.isZero then some d
  else ((ofNat? (Nat.pow 10 308)).bind d.div?).bind (scaleDown · (n - 308))
termination_by n

/-- Multiplies by `10 ^ n`, rounding the power first; zero stays zero whatever the power. -/
def scaleUp (d : Double) (n : Nat) : Option Double :=
  if n ≤ 308 then (ofNat? (Nat.pow 10 n)).bind d.mul?
  else if d.isZero then some d
  else none

/-- The double read from `digits · 10 ^ e`: the digits are rounded to a double and then scaled, which is not always the
double nearest to the exact product. -/
def ofDecimal? (digits : Nat) (e : Int) : Option Double :=
  (ofNat? digits).bind fun d => if 0 ≤ e then d.scaleUp e.toNat else d.scaleDown (-e).toNat

/-- The double nearest to `digits · 10 ^ e`.  Powers far beyond the range of doubles are not worked out. -/
def nearest? (digits : Nat) (e : Int) : Option Double :=
  let magnitude : Int := (Nat.toDigits 10 digits).length + e
  if digits == 0 || magnitude < -400 then some zero
  else if 400 < magnitude then none
  else ofFraction? (if 0 ≤ e then ⟨digits * Nat.pow 10 e.toNat, 1⟩ else ⟨digits, Nat.pow 10 (-e).toNat⟩)

end Double
end Number
end Hypermedia
