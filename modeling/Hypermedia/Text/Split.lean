/-!
# Cutting lists

Stripping the ends of a list, splitting it at separators, and testing how it begins.  Texts are cut as lists of
characters.
-/
namespace Hypermedia
namespace Text

def stripBoth {α : Type} (p : α → Bool) (xs : List α) : List α :=
  ((xs.dropWhile p).reverse.dropWhile p).reverse

def stripRight {α : Type} (p : α → Bool) (xs : List α) : List α :=
  (xs.reverse.dropWhile p).reverse

/-- The members before and after the first one equal to `a`; the second part is absent when there is none. -/
def splitFirst {α : Type} [BEq α] (a : α) : List α → List α × Option (List α)
  | [] => ([], none)
  | x :: xs => if x == a then ([], some xs) else let r := splitFirst a xs; (x :: r.1, r.2)

/-- The maximal runs between members that satisfy `p`; there is always at least one run. -/
def splitAll {α : Type} (p : α → Bool) : List α → List (List α)
  | [] => [[]]
  | x :: xs =>
    if p x then [] :: splitAll p xs
    else match splitAll p xs with
      | [] => [[x]]
      | s :: ss => (x :: s) :: ss

def afterStart? {α : Type} [BEq α] : List α → List α → Option (List α)
  | [], xs => some xs
  | _ :: _, [] => none
  | a :: as, x :: xs => if a == x then afterStart? as xs else none

end Text
end Hypermedia
