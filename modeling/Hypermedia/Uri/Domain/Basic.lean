import Hypermedia.Text.Composition
import Hypermedia.Text.Mark
import Hypermedia.Uri.Domain.Direction
import Hypermedia.Uri.Domain.Encoded
import Hypermedia.Uri.Domain.Joining
import Hypermedia.Uri.Domain.Spelling
/-!
# Domains

A domain is a name of labels between points.  It is read in its one spelling and written in ASCII, where a label beyond
ASCII is encoded behind a sign of its own.  A label that comes encoded has to be the encoded form of a label that is
spelled as it should be.
-/
namespace Hypermedia
namespace Domain

/-- Characters that stand in no domain, among those of ASCII. -/
def isForbidden (c : Char) : Bool :=
  c.toNat ≤ 0x20 || c.toNat == 0x7f || "#/:<>?@[\\]^|%".toList.contains c

def isAscii (cs : List Char) : Bool := cs.all fun c => c.toNat < 0x80

/-- A text in the spelling of domains: each character is spelled, and the marks are composed with their letters. -/
def spelled? (cs : List Char) : Option (List Char) :=
  (cs.mapM spelling?).bind fun images =>
    let text := Text.composed images.flatten
    if text.any isForbidden then none else some text

def mark : List Char := "xn--".toList

def label? (cs : List Char) : Option (List Char) :=
  match Text.afterStart? mark cs with
  | none => some cs
  | some encoded =>
    if encoded.length ≤ 2000 then
      (Encoded.decode? encoded).bind fun label => if spelled? label == some label then some label else none
    else none

/-- Whether the joiners in a text stand where they have an effect: behind a sign that kills the vowel of a letter, or,
if they keep letters apart, between letters that would join.  The characters before the text are given, the last one
first. -/
def joinersFit (before : List Char) : List Char → Bool
  | [] => true
  | c :: cs =>
    let behindKiller := before.head?.any (Text.markClass · == 9)
    let fits :=
      if c.toNat == 0x200c then
        behindKiller || (reachesJoining joinsForward before && reachesJoining joinsBackward cs)
      else c.toNat != 0x200d || behindKiller
    fits && joinersFit (c :: before) cs

/-- Whether a label can stand in a domain: it does not start with a mark, its joiners have an effect, and it is not
overly long. -/
def isSound (label : List Char) : Bool :=
  isAscii label || (!label.head?.any Text.mark.contains && joinersFit [] label && label.length ≤ 1000)

def written (label : List Char) : List Char :=
  if isAscii label then label else mark ++ Encoded.encode label

/-- The ASCII form of a domain.  Once a character is written from right to left, the directions in every label have to
go together. -/
def ascii? (cs : List Char) : Option (List Char) := do
  let parts := Text.splitAll (· == '.') (← spelled? cs)
  let labels ← parts.mapM label?
  if labels.all isSound && (!labels.any (·.any isRightward) || labels.all isDirected) then
    some (['.'].intercalate (parts.map written))
  else none

end Domain
end Hypermedia
