import Hypermedia.Failure
import Hypermedia.Json.Tree
import Hypermedia.Text.Blank
/-!
# Reading what a server says

The body of an answer that reports no success may be an object with a timestamp and a message, or a list of the two.
Other fields are skipped unread, so nothing in them matters beyond its grammar; a timestamp or a message of another
type, or one that is given twice, makes the whole body plain text.
-/
namespace Hypermedia
namespace ServerFault

open Json (Tree)

structure Body where
  timestamp : Option String := none
  message : Option String := none

def optionalText? : Tree → Option (Option String)
  | .null => some none
  | .text (some s) => some (some s)
  | _ => none

/-- Reads the fields of an object; the flags tell which of the two parts have been seen. -/
def readFields? : List (Option String × Tree) → (seenTimestamp seenMessage : Bool) → Body → Option Body
  | [], _, _, b => some b
  | (none, _) :: _, _, _, _ => none
  | (some k, t) :: fs, st, sm, b =>
    if k == "timestamp" then
      if st then none else (optionalText? t).bind fun v => readFields? fs true sm { b with timestamp := v }
    else if k == "message" then
      if sm then none else (optionalText? t).bind fun v => readFields? fs st true { b with message := v }
    else readFields? fs st sm b

def Body.ofTree? : Tree → Option Body
  | .object fields => readFields? fields false false {}
  | .array [] => some {}
  | .array [t] => (optionalText? t).map ({ timestamp := · })
  | .array [t, m] => (optionalText? t).bind fun timestamp => (optionalText? m).map ({ timestamp, message := · })
  | _ => none

/-- What a server said with the given status and body: the message of a structured body, the body itself when it is
structured without one, and otherwise the body without the white space around it. -/
def ofResponse (status : Nat) (body : String) : ServerFault :=
  match (Tree.parse? body).bind Body.ofTree? with
  | some ⟨timestamp, some message⟩ => { status, timestamp, message }
  | some ⟨timestamp, none⟩ => { status, timestamp, message := body }
  | none => { status, message := Text.trim body }

end ServerFault
end Hypermedia
