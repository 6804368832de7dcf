import Hypermedia.Text.Digit
/-!
# Hosts

A host is a name or one of the two kinds of network addresses.
-/
namespace Hypermedia

inductive Host where
  | name (text : String)
  /-- An address of four bytes. -/
  | ipv4 (address : Nat)
  /-- An address of eight pieces of two bytes. -/
  | ipv6 (pieces : List Nat)
  deriving DecidableEq

namespace Host

def number (n : Nat) : List Char := Nat.toDigits 10 n

def ipv4Chars (v : Nat) : List Char :=
  number (v / Nat.pow 2 24) ++ '.' :: number (v / Nat.pow 2 16 % 256) ++ '.' :: number (v / Nat.pow 2 8 % 256) ++
    '.' :: number (v % 256)

def leadingZeros (ps : List Nat) : Nat := (ps.takeWhile (· == 0)).length

/-- Where the first of the longest runs of zeros starts, and how long it is. -/
def longestZeros : List Nat → Nat × Nat
  | [] => (0, 0)
  | p :: ps =>
    let here := leadingZeros (p :: ps)
    let later := longestZeros ps
    if later.2 ≤ here then (0, here) else (later.1 + 1, later.2)

def joinPieces (ps : List Nat) : List Char :=
  [':'].intercalate (ps.map Text.hexDigits)

/-- An IPv6 address; the first of the longest runs of at least two zeros is written as a double colon. -/
def ipv6Chars (ps : List Nat) : List Char :=
  let z := longestZeros ps
  if 2 ≤ z.2 then joinPieces (ps.take z.1) ++ [':', ':'] ++ joinPieces (ps.drop (z.1 + z.2)) else joinPieces ps

def chars : Host → List Char
  | .name text => text.toList
  | .ipv4 address => ipv4Chars address
  | .ipv6 pieces => '[' :: ipv6Chars pieces ++ [']']

end Host
end Hypermedia
