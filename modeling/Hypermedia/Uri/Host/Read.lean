import Hypermedia.Uri.Basic
import Hypermedia.Uri.Domain.Basic
import Hypermedia.Uri.Percent
/-!
# Reading hosts

The host of a special address is a domain, an IPv4 address, or an IPv6 address in brackets; a domain whose last label is
a number has to be an IPv4 address.  Other addresses take any host text that holds no delimiter, or none.
-/
namespace Hypermedia
namespace Host

/-- One number of an IPv4 address: hexadecimal behind `0x`, octal behind a zero, decimal otherwise. -/
def ipv4Number? (cs : List Char) : Option Nat :=
  match cs with
  | [] => none
  | '0' :: 'x' :: ds => Text.valueIn? 16 ds
  | '0' :: 'X' :: ds => Text.valueIn? 16 ds
  | '0' :: d :: ds => Text.valueIn? 8 (d :: ds)
  | ds => Text.valueIn? 10 ds

def labels (cs : List Char) : List (List Char) :=
  let parts := Text.splitAll (· == '.') cs
  if parts.length != 1 && parts.getLast? == some [] then parts.dropLast else parts

def endsInNumber (cs : List Char) : Bool :=
  match (labels cs).getLast? with
  | none => false
  | some [] => false
  | some l => l.all Char.isDigit || (ipv4Number? l).isSome

/-- The address with the numbers of an IPv4 address: the last one fills the bytes that the others leave. -/
def ipv4Value? (ns : List Nat) : Option Nat :=
  let last := ns.getLastD 0
  let front := ns.dropLast
  if front.any (255 < ·) || 4 < ns.length || Nat.pow 256 (4 - front.length) ≤ last then none
  else some (front.foldl (fun acc n => 256 * acc + n) 0 * Nat.pow 256 (4 - front.length) + last)

def ipv4? (cs : List Char) : Option Nat :=
  ((labels cs).mapM ipv4Number?).bind ipv4Value?

def ipv6Piece? (cs : List Char) : Option Nat :=
  if cs.isEmpty || 4 < cs.length then none else Text.valueIn? 16 cs

def byte? (cs : List Char) : Option Nat :=
  if cs.isEmpty || 3 < cs.length || (cs.head? == some '0' && cs.length != 1) then none
  else (Text.valueIn? 10 cs).bind fun n => if n ≤ 255 then some n else none

def embeddedIpv4? (cs : List Char) : Option (List Nat) :=
  match (Text.splitAll (· == '.') cs).mapM byte? with
  | some [a, b, c, d] => some [256 * a + b, 256 * c + d]
  | _ => none

/-- Pieces separated by colons; the last one may be an IPv4 address. -/
def ipv6Pieces? : List (List Char) → Option (List Nat)
  | [] => some []
  | [p] => if p.contains '.' then embeddedIpv4? p else (ipv6Piece? p).map ([·])
  | p :: ps => (ipv6Piece? p).bind fun n => (ipv6Pieces? ps).map (n :: ·)

def splitGap : List Char → List Char × Option (List Char)
  | ':' :: ':' :: cs => ([], some cs)
  | [] => ([], none)
  | c :: cs => let r := splitGap cs; (c :: r.1, r.2)

def ipv6Side? (cs : List Char) : Option (List Nat) :=
  if cs.isEmpty then some [] else ipv6Pieces? (Text.splitAll (· == ':') cs)

/-- The eight pieces of an IPv6 address; a double colon stands for one zero or more. -/
def ipv6Value? (cs : List Char) : Option (List Nat) :=
  match splitGap cs with
  | (a, none) => (ipv6Side? a).bind fun ps => if ps.length == 8 then some ps else none
  | (a, some b) =>
    if a.contains '.' then none
    else (ipv6Side? a).bind fun ps => (ipv6Side? b).bind fun qs =>
      if ps.length + qs.length < 8 then some (ps ++ List.replicate (8 - ps.length - qs.length) 0 ++ qs) else none

def bracketed? (cs : List Char) : Except UriError Host :=
  if cs.getLast? == some ']' then
    match ipv6Value? (cs.drop 1).dropLast with
    | some ps => .ok (.ipv6 ps)
    | none => .error .invalidIpv6
  else .error .invalidIpv6

/-- The domain that a text spells, in which escapes may stand for bytes, written in ASCII. -/
def domain? (cs : List Char) : Option (List Char) :=
  (Percent.text? cs).bind fun s => Domain.ascii? s.toList

def special? (cs : List Char) : Except UriError Host :=
  if cs.head? == some '[' then bracketed? cs
  else match domain? cs with
    | none => .error .invalidDomain
    | some [] => .error .emptyHost
    | some ds =>
      if endsInNumber ds then
        match ipv4? ds with
        | some a => .ok (.ipv4 a)
        | none => .error .invalidIpv4
      else .ok (.name (String.ofList ds))

/-- The host of an address without a special scheme, if there is one. -/
def plain? (cs : List Char) : Except UriError (Option Host) :=
  if cs.isEmpty then .ok none
  else if cs.head? == some '[' then (bracketed? cs).map some
  else if cs.any fun c => c.toNat == 0 || "\t\n\r #/:<>?@[\\]^|".toList.contains c then .error .invalidHostCharacter
  else .ok (some (.name (String.ofList (Percent.encode Percent.control cs))))

end Host
end Hypermedia
