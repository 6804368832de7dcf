/-!
# Character sets

A set of characters is written as the code points where membership changes, so that a property with thousands of
characters stays one short list.
-/
namespace Hypermedia
namespace Text

/-- A set of characters: an odd number of bounds at or below a code point means that it is in the set. -/
structure CharSet where
  bounds : List Nat

def CharSet.contains (s : CharSet) (c : Char) : Bool :=
  (s.bounds.takeWhile (· ≤ c.toNat)).length % 2 == 1

end Text
end Hypermedia
