import Hypermedia.Uri.Basic
import Hypermedia.Uri.Percent
/-!
# Form encoding

Names and values in a query: letters, digits and `*-._` stand for themselves, a plus sign for a blank, and every other
character is written as the bytes of its UTF-8 form.  Pairs are joined by ampersands.
-/
namespace Hypermedia
namespace Form

def isPlain (c : Char) : Bool := c.isAlphanum || "*-._".toList.contains c

def encodeChar (c : Char) : List Char :=
  if isPlain c then [c] else if c == ' ' then ['+'] else Percent.bytes c

def encode (s : String) : List Char := s.toList.flatMap encodeChar

def pair (name value : String) : List Char := encode name ++ '=' :: encode value

def append (query : Option String) (name value : String) : String :=
  match query with
  | none => String.ofList (pair name value)
  | some q => if q.isEmpty then String.ofList (pair name value) else String.ofList (q.toList ++ '&' :: pair name value)

end Form

def Uri.appendPair (u : Uri) (name value : String) : Uri :=
  { u with query := some (Form.append u.query name value) }

end Hypermedia
