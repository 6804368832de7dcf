import Hypermedia.Uri.Basic
import Hypermedia.Uri.Percent
/-!
# Paths

A hierarchical path is a list of segments.  Reading one removes dot segments: a single dot stands for nothing, a double
dot takes back the segment before it unless that is a drive, and either one at the end leaves an empty last segment.
The dots may be written as escapes.
-/
namespace Hypermedia
namespace Path

abbrev Segment := List Char

/-- Whether a character ends a segment: a slash, and in special addresses a backslash. -/
def isSeparator (special : Bool) (c : Char) : Bool := c == '/' || (special && c == '\\')

def plainDots : Segment → Segment
  | '%' :: '2' :: 'e' :: cs => '.' :: plainDots cs
  | '%' :: '2' :: 'E' :: cs => '.' :: plainDots cs
  | c :: cs => c :: plainDots cs
  | [] => []

def isSingleDot (s : Segment) : Bool := plainDots s == ['.']

def isDoubleDot (s : Segment) : Bool := plainDots s == ['.', '.']

/-- Whether a segment is a drive: a letter and a colon or a bar. -/
def isDrive : Segment → Bool
  | [c, d] => c.isAlpha && (d == ':' || d == '|')
  | _ => false

def isMendedDrive (s : Segment) : Bool := isDrive s && s.getLast? == some ':'

def startsWithDrive : List Char → Bool
  | c :: d :: rest => isDrive [c, d] && rest.head?.all fun e => "/\\?#".toList.contains e
  | _ => false

/-- Whether a segment holds on to its place: a drive, also one with a backslash and more behind it. -/
def isFixed : Segment → Bool
  | c :: d :: '\\' :: _ => isDrive [c, d]
  | s => isDrive s

/-- Takes back the last segment, held first; a fixed one stays. -/
def pop : List Segment → List Segment
  | [] => []
  | s :: ss => if isFixed s then s :: ss else ss

/-- Adds a segment to those read so far, the last one held first.  Where drives are mended, the one at the front gets
a colon for its bar. -/
def push (mend : Bool) (read : List Segment) (s : Segment) (final : Bool) : List Segment :=
  if isDoubleDot s then if final then [] :: pop read else pop read
  else if isSingleDot s then if final then [] :: read else read
  else match mend && read.isEmpty && isDrive s, s with
    | true, c :: _ => [c, ':'] :: read
    | _, _ => Percent.encode Percent.pathSet s :: read

def pushAll (mend : Bool) : List Segment → List Segment → List Segment
  | read, [] => read
  | read, [s] => push mend read s true
  | read, s :: ss => pushAll mend (push mend read s false) ss

def chars (segments : List Segment) : List Char := segments.flatMap ('/' :: ·)

def dropEmpty : List Segment → List Segment
  | [] :: s :: ss => dropEmpty (s :: ss)
  | ss => ss

/-- The segments that result from reading `cs` behind those of `base`, the last of them first. -/
def readFrom (mend special : Bool) (base : List Segment) (cs : List Char) : List Segment :=
  (pushAll mend base (Text.splitAll (isSeparator special) cs)).reverse

/-- The path of segments.  The paths of files do not start with empty segments. -/
def ofSegments (file : Bool) (segments : List Segment) : String :=
  String.ofList (chars (if file then dropEmpty segments else segments))

/-- The segments of a path text that starts with a slash; an opaque path has none. -/
def segments? (path : List Char) : Option (List Segment) :=
  match path with
  | '/' :: cs => some (Text.splitAll (· == '/') cs)
  | _ => none

def lastSegment? (path : String) : Option String :=
  ((segments? path.toList).bind List.getLast?).map String.ofList

end Path
end Hypermedia
