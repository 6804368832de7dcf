import Hypermedia.Json.Basic
import Hypermedia.Text.Quoted
/-!
# Writing JSON

The compact form has no blanks.  The indented form puts each member on its own line, two blanks deeper than its
container, and writes empty containers without a line break.
-/
namespace Hypermedia
namespace Json

/-- Numbers are written positionally from `10 ^ -5` up to `10 ^ 16`. -/
def numberLayout : Number.Layout := ⟨-5, 15⟩

def integerChars (i : Int) : List Char :=
  if i < 0 then '-' :: Nat.toDigits 10 i.natAbs else Nat.toDigits 10 i.natAbs

def numberChars : Number.Value → List Char
  | .integer i => integerChars i
  | .double d => d.text numberLayout

def fourHex (n : Nat) : List Char :=
  let ds := Text.hexDigits n
  List.replicate (4 - ds.length) '0' ++ ds

def escapeChar (c : Char) : List Char :=
  if c == '"' then ['\\', '"']
  else if c == '\\' then ['\\', '\\']
  else if c.toNat == 0x08 then ['\\', 'b']
  else if c.toNat == 0x0c then ['\\', 'f']
  else if c == '\n' then ['\\', 'n']
  else if c == '\r' then ['\\', 'r']
  else if c == '\t' then ['\\', 't']
  else if c.toNat < 0x20 then '\\' :: 'u' :: fourHex c.toNat
  else [c]

def stringChars (s : String) : List Char :=
  '"' :: s.toList.flatMap escapeChar ++ ['"']

mutual

def compactChars : Json → List Char
  | .null => "null".toList
  | .bool true => "true".toList
  | .bool false => "false".toList
  | .number n => numberChars n
  | .text s => stringChars s
  | .array items => '[' :: compactItems items
  | .object fields => '\x7b' :: compactFields fields

def compactItems : List Json → List Char
  | [] => [']']
  | [v] => compactChars v ++ [']']
  | v :: w :: vs => compactChars v ++ ',' :: compactItems (w :: vs)

def compactFields : List (String × Json) → List Char
  | [] => ['\x7d']
  | [(k, v)] => stringChars k ++ ':' :: compactChars v ++ ['\x7d']
  | (k, v) :: f :: fs => stringChars k ++ ':' :: compactChars v ++ ',' :: compactFields (f :: fs)

end

def compact (v : Json) : String := String.ofList (compactChars v)

def newLine (depth : Nat) : List Char := '\n' :: List.replicate (2 * depth) ' '

mutual

def indentedChars (depth : Nat) : Json → List Char
  | .array [] => "[]".toList
  | .object [] => ['\x7b', '\x7d']
  | .array items => '[' :: indentedItems (depth + 1) items
  | .object fields => '\x7b' :: indentedFields (depth + 1) fields
  | v => compactChars v

/-- The members of an array, each on its line, up to the closing bracket. -/
def indentedItems (depth : Nat) : List Json → List Char
  | [] => newLine (depth - 1) ++ [']']
  | [v] => newLine depth ++ indentedChars depth v ++ newLine (depth - 1) ++ [']']
  | v :: w :: vs => newLine depth ++ indentedChars depth v ++ ',' :: indentedItems depth (w :: vs)

/-- The fields of an object, each on its line, up to the closing brace. -/
def indentedFields (depth : Nat) : List (String × Json) → List Char
  | [] => newLine (depth - 1) ++ ['\x7d']
  | [(k, v)] => newLine depth ++ stringChars k ++ ':' :: ' ' :: indentedChars depth v ++ newLine (depth - 1) ++ ['\x7d']
  | (k, v) :: f :: fs =>
    newLine depth ++ stringChars k ++ ':' :: ' ' :: indentedChars depth v ++ ',' :: indentedFields depth (f :: fs)

end

def indented (v : Json) : String := String.ofList (indentedChars 0 v)

end Json
end Hypermedia
