import Hypermedia.Uri.Basic
import Hypermedia.Uri.Percent
/-!
# Credentials

The credentials of an address are meant for the server alone.  Whoever sends them apart from the address takes them out
of it first, which needs that they can be read.
-/
namespace Hypermedia

/-- Whether there are credentials to send apart: the name must be text, and without a name the password must be. -/
def Authority.hasCredentials (a : Authority) : Bool :=
  match Percent.text? a.username.toList with
  | some name => !name.isEmpty || (a.password.bind fun p => Percent.text? p.toList).isSome
  | none => false

def Uri.withoutCredentials (u : Uri) : Uri :=
  match u.authority with
  | some a => if a.hasCredentials then { u with authority := some { a with username := "", password := none } } else u
  | none => u

end Hypermedia
