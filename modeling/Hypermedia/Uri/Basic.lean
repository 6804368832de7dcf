import Hypermedia.Uri.Host.Basic
/-!
# Addresses

An address is its parts.  The text of an address puts the parts together again; two addresses are the same when their
texts are.
-/
namespace Hypermedia

/-- Who is asked: credentials, host and port.  The host may be absent; the port is when it is the scheme's own. -/
structure Authority where
  username : String := ""
  password : Option String := none
  host : Option Host := none
  port : Option Nat := none
  deriving DecidableEq

/-- An address.  The path of an address with an authority is empty or starts with a slash; a path without an authority
that does not start with a slash is opaque.  A dot may keep a path apart from a missing authority; it belongs to the
text of the address, but to none of its other parts. -/
structure Uri where
  scheme : String
  authority : Option Authority := none
  dotted : Bool := false
  path : String := ""
  query : Option String := none
  fragment : Option String := none
  deriving DecidableEq

inductive UriError where
  | relativeWithoutBase
  | relativeWithOpaqueBase
  | emptyHost
  | invalidPort
  | invalidIpv4
  | invalidIpv6
  | invalidDomain
  | invalidHostCharacter
  deriving DecidableEq

def UriError.message : UriError → String
  | .relativeWithoutBase => "relative URL without a base"
  | .relativeWithOpaqueBase => "relative URL with a cannot-be-a-base base"
  | .emptyHost => "empty host"
  | .invalidPort => "invalid port number"
  | .invalidIpv4 => "invalid IPv4 address"
  | .invalidIpv6 => "invalid IPv6 address"
  | .invalidDomain => "invalid international domain name"
  | .invalidHostCharacter => "invalid domain character"

namespace Authority

/-- The credentials with the sign behind them, empty when there are none. -/
def credentialChars (a : Authority) : List Char :=
  match a.password with
  | some p => a.username.toList ++ ':' :: p.toList ++ ['@']
  | none => if a.username.isEmpty then [] else a.username.toList ++ ['@']

/-- The port with the colon before it, empty when there is none. -/
def portChars (a : Authority) : List Char :=
  match a.port with
  | some n => ':' :: Nat.toDigits 10 n
  | none => []

def chars (a : Authority) : List Char :=
  a.credentialChars ++ (a.host.map Host.chars).getD [] ++ a.portChars

end Authority

namespace Uri

/-- The scheme, the authority, and the marks around them: all that stands before the path. -/
def originChars (u : Uri) : List Char :=
  u.scheme.toList ++ ':' ::
    match u.authority with
    | some a => '/' :: '/' :: a.chars
    | none => if u.dotted then ['/', '.'] else []

def markedChars (mark : Char) : Option String → List Char
  | some s => mark :: s.toList
  | none => []

def chars (u : Uri) : List Char :=
  u.originChars ++ u.path.toList ++ markedChars '?' u.query ++ markedChars '#' u.fragment

def text (u : Uri) : String := String.ofList u.chars

def same (u v : Uri) : Bool := u.chars == v.chars

/-- The schemes whose addresses name a host and have hierarchical paths. -/
def isSpecialScheme (s : String) : Bool :=
  s == "http" || s == "https" || s == "ws" || s == "wss" || s == "ftp" || s == "file"

def defaultPort? (scheme : String) : Option Nat :=
  if scheme == "http" || scheme == "ws" then some 80
  else if scheme == "https" || scheme == "wss" then some 443
  else if scheme == "ftp" then some 21
  else none

def isSpecial (u : Uri) : Bool := isSpecialScheme u.scheme

def isOpaque (u : Uri) : Bool :=
  u.authority.isNone && u.path.toList.head? != some '/'

end Uri
end Hypermedia
