import Hypermedia.Text.LowerCase
import Hypermedia.Text.Split
/-!
# Relation names

An accessor that is not told which relation to follow follows the one of its own name: `getChildren` and `isChildren`
lead to `children`.
-/
namespace Hypermedia
namespace RelationName

/-- What follows `start` in an accessor name that begins with it; nothing is left of a name that is no longer. -/
def afterWord? (start name : String) : Option String :=
  (Text.afterStart? start.toList name.toList).map String.ofList

/-- The name without a leading `get`, or else `is`; a name that is nothing but that word stays whole. -/
def stripGetter (name : String) : String :=
  match (afterWord? "get" name).or (afterWord? "is" name) with
  | some rest => if rest.isEmpty then name else rest
  | none => name

/-- The relation or the field that an accessor name stands for. -/
def ofAccessor (name : String) : String := Text.decapitalize (stripGetter name)

end RelationName
end Hypermedia
