import Hypermedia.Number.Double
/-!
# The shortest decimal

The decimal text of a double has the fewest digits that read back as the same number, and of those the digits nearest
to it.  A decimal reads back when it lies between the midpoints to the two neighbouring doubles, the midpoints
themselves included when the double's significand is even.
-/
namespace Hypermedia
namespace Number

/-- `digits · 10 ^ exponent`. -/
structure Decimal where
  digits : Nat
  exponent : Int
  deriving DecidableEq

/-- The number of decimal digits of a natural number; zero has one. -/
def decimalLength (n : Nat) : Nat :=
  (Nat.toDigits 10 n).length

/-- The greatest `k` with `10 ^ k ≤ num / den`, for a positive fraction. -/
def Fraction.decimalExponent (x : Fraction) : Int :=
  if x.den ≤ x.num then (decimalLength (x.num / x.den) : Int) - 1
  else -(decimalLength ((x.den + x.num - 1) / x.num - 1) : Int)

/-- The interval of numbers that round to `m · 2 ^ e`, in quarters of `2 ^ e`. -/
structure Rounding where
  low : Nat
  middle : Nat
  high : Nat
  exponent : Int
  closed : Bool

/-- The rounding interval of a double that is not zero. -/
def Double.rounding (d : Double) : Rounding :=
  let m := d.parts.1
  let e := d.parts.2
  let below := if m == Nat.pow 2 52 && decide (-1074 < e) then 1 else 2
  ⟨4 * m - below, 4 * m, 4 * m + 2, e, m % 2 == 0⟩

namespace Rounding

/-- The nearest decimal with unit `10 ^ p` that lies in the interval, if one does. -/
def onGrid? (r : Rounding) (p : Int) : Option Decimal :=
  let a := 4 * Nat.pow 10 p.toNat * Nat.pow 2 (-r.exponent).toNat
  let b := Nat.pow 10 (-p).toNat * Nat.pow 2 r.exponent.toNat
  let inside := fun c : Nat =>
    if r.closed then r.low * b ≤ c * a && c * a ≤ r.high * b else r.low * b < c * a && c * a < r.high * b
  let c := r.middle * b / a
  match inside c, inside (c + 1) with
  | true, true =>
    let down := r.middle * b - c * a
    let up := (c + 1) * a - r.middle * b
    some ⟨if down < up || (down == up && c % 2 == 0) then c else c + 1, p⟩
  | true, false => some ⟨c, p⟩
  | false, true => some ⟨c + 1, p⟩
  | false, false => none

/-- The first hit on the grids with units `10 ^ p`, `10 ^ (p - 1)`, …, trying `tries` of them. -/
def shortestFrom (r : Rounding) : Nat → Int → Decimal
  | 0, p => ⟨0, p⟩
  | tries + 1, p => (r.onGrid? p).getD (r.shortestFrom tries (p - 1))

end Rounding

def Decimal.normalise (d : Decimal) : Decimal :=
  if h : d.digits ≠ 0 ∧ d.digits % 10 = 0 then
    have : d.digits / 10 < d.digits := Nat.div_lt_self (Nat.pos_of_ne_zero h.1) (by decide)
    normalise ⟨d.digits / 10, d.exponent + 1⟩
  else d
termination_by d.digits

/-- The shortest decimal of a double that is not zero, its sign left aside. -/
def Double.shortest (d : Double) : Decimal :=
  (d.rounding.shortestFrom 17 d.magnitude.decimalExponent).normalise

/-- How decimals are laid out: the scientific exponents that are written positionally. -/
structure Layout where
  leastPositional : Int
  greatestPositional : Int

/-- The text of a positive decimal without trailing zeros.  A positional text always has a point and a digit after it;
an exponent is signed in both directions. -/
def Layout.render (layout : Layout) (d : Decimal) : List Char :=
  let ds := Nat.toDigits 10 d.digits
  let x := d.exponent + (ds.length : Int) - 1
  if layout.leastPositional ≤ x ∧ x ≤ layout.greatestPositional then
    if 0 ≤ d.exponent then ds ++ List.replicate d.exponent.toNat '0' ++ ['.', '0']
    else if 0 ≤ x then ds.take (x + 1).toNat ++ '.' :: ds.drop (x + 1).toNat
    else ['0', '.'] ++ List.replicate (-x - 1).toNat '0' ++ ds
  else
    let point := if ds.length ≤ 1 then ds else ds.take 1 ++ '.' :: ds.drop 1
    point ++ 'e' :: (if x < 0 then '-' else '+') :: Nat.toDigits 10 x.natAbs

def Double.text (layout : Layout) (d : Double) : List Char :=
  (if d.isNegative then ['-'] else []) ++
    if d.isZero then ['0', '.', '0'] else layout.render d.shortest

end Number
end Hypermedia
