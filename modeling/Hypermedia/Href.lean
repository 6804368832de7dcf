import Hypermedia.Link
import Hypermedia.Uri.Edit
/-!
# Resolving hrefs

A href that is an address stands for itself.  Any other href is appended to the path of the base, even when it starts
with a slash: what the base's path leads to is the service, and hrefs stay inside it.
-/
namespace Hypermedia
namespace Uri

/-- The address with `path` below its own path.  A question mark in `path` starts a query that replaces the one of the
address. -/
def append (base : Uri) (path : String) : Uri :=
  let r := Text.splitFirst '?' path.toList
  let head := Text.stripRight (· == '/') base.path.toList
  let tail := r.1.dropWhile (· == '/')
  let joined := base.setPath (String.ofList (
    if tail.isEmpty then if head.isEmpty then ['/'] else head else head ++ '/' :: tail))
  match r.2 with
  | some query => joined.setQuery (String.ofList query)
  | none => joined

def resolve (base : Uri) (href : String) : Outcome Uri :=
  match parse? href with
  | .ok uri => .ok uri
  | .error .relativeWithoutBase => .ok (base.append href)
  | .error e => .error (.invalidUri href e)

end Uri

namespace Links

def selfUri? (ls : Links) (base : Uri) : Outcome (Option Uri) :=
  match self? ls with
  | some l => (base.resolve l.expand).map some
  | none => .ok none

end Links
end Hypermedia
