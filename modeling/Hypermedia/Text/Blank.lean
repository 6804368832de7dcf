import Hypermedia.Text.Split
/-!
# White space

Which characters count as blank, and cutting them off both ends of a text.  The set is the Unicode property
White_Space: the no-break space and the ideographic space are in it, the zero-width space and the byte order mark
are not.
-/
namespace Hypermedia
namespace Text

/-- The characters of the Unicode property White_Space. -/
def isBlank (c : Char) : Bool :=
  let n := c.toNat
  (0x09 ≤ n && n ≤ 0x0d) || n == 0x20 || n == 0x85 || n == 0xa0 || n == 0x1680 || (0x2000 ≤ n && n ≤ 0x200a) ||
    n == 0x2028 || n == 0x2029 || n == 0x202f || n == 0x205f || n == 0x3000

def trim (s : String) : String :=
  String.ofList (stripBoth isBlank s.toList)

end Text
end Hypermedia
