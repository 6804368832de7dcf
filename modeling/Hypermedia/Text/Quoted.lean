import Hypermedia.Text.Digit
import Hypermedia.Text.Hidden
/-!
# Quoted texts

The quoted form of a text in diagnostics: quotation marks around it, a backslash before a quotation mark or a
backslash, short forms for the tab and the line ends, and a numbered form for every character that cannot be seen or
that would attach itself to the one before.
-/
namespace Hypermedia
namespace Text

def quoteChar (c : Char) : List Char :=
  if c == '"' then ['\\', '"']
  else if c == '\\' then ['\\', '\\']
  else if c == '\t' then ['\\', 't']
  else if c == '\r' then ['\\', 'r']
  else if c == '\n' then ['\\', 'n']
  else if c.toNat == 0 then ['\\', '0']
  else if hidden.contains c then ['\\', 'u', '\x7b'] ++ hexDigits c.toNat ++ ['\x7d']
  else [c]

def quoted (s : String) : String :=
  String.ofList ('"' :: s.toList.flatMap quoteChar ++ ['"'])

end Text
end Hypermedia
