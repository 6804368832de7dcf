/-!
# Character maps

A map from characters to characters is written as runs, along which characters and images advance together.
-/
namespace Hypermedia
namespace Text

/-- The characters `first`, `first + step`, … up to `last`, with images that start at `image` and advance by the same
step. -/
structure CharRun where
  first : Nat
  last : Nat
  step : Nat
  image : Nat

def CharRun.covers (r : CharRun) (n : Nat) : Bool :=
  r.first ≤ n && n ≤ r.last && (n - r.first) % r.step == 0

structure CharMap where
  runs : List CharRun

/-- The image of a character, which the first run that covers it gives. -/
def CharMap.image? (m : CharMap) (c : Char) : Option Char :=
  (m.runs.find? (·.covers c.toNat)).map fun r => Char.ofNat (r.image + (c.toNat - r.first))

end Text
end Hypermedia
