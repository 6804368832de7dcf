import Hypermedia.Failure
/-!
# Links

A link leads from a resource to an address under a relation.  In a document the links are an object from relations to
one link or a list of them; the order of relations is that of their first links, and the order within a relation is
kept.  The relation `self` is the resource's own address and has at most one link.
-/
namespace Hypermedia

open Json (DecodeError)

structure Link where
  relation : String
  href : String
  templated : Bool := false
  deriving DecidableEq

abbrev Links := List Link

def selfRelation : String := "self"

namespace Link

/-- Drops the sections in braces, which may be nested; `depth` of them are open.  A closing brace without an open one
is kept, and a section that is never closed reaches to the end. -/
def dropSections : Nat → List Char → List Char
  | _, [] => []
  | depth, c :: cs =>
    if c == '\x7b' then dropSections (depth + 1) cs
    else match depth with
      | 0 => c :: dropSections 0 cs
      | d + 1 => if c == '\x7d' then dropSections d cs else dropSections (d + 1) cs

/-- The href without its sections.  A link that is no template is looked through only if there is a section in it. -/
def expand (l : Link) : String :=
  if !l.templated && !l.href.toList.contains '\x7b' then l.href else String.ofList (dropSections 0 l.href.toList)

def decoder : Json.RecordDecoder Link where
  name := "Link"
  blank := { relation := "", href := "" }
  fields :=
    [.needed "rel" Json.Decoder.text fun s l => { l with relation := s },
      .needed "href" Json.Decoder.text fun s l => { l with href := s },
      .defaulted "templated" Json.Decoder.bool fun b l => { l with templated := b }]

def memberDecoder (relation : String) : Json.RecordDecoder Link where
  name := "HalLink"
  blank := { relation, href := "" }
  fields :=
    [.needed "href" Json.Decoder.text fun s l => { l with href := s },
      .defaulted "templated" Json.Decoder.bool fun b l => { l with templated := b }]

def toMember (l : Link) : Json :=
  .object (("href", .text l.href) :: if l.templated then [("templated", .bool true)] else [])

def toJson (l : Link) : Json :=
  .object [("rel", .text l.relation), ("href", .text l.href), ("templated", .bool l.templated)]

end Link

namespace Links

def get? (ls : Links) (relation : String) : Option Link := ls.find? (·.relation == relation)

def self? (ls : Links) : Option Link := get? ls selfRelation

def ofEntry (relation : String) : Json → Outcome Links
  | .array items => Failure.decoded (Json.Decoder.each (Link.memberDecoder relation).decode items)
  | v => Failure.decoded ((Link.memberDecoder relation).decode v) |>.map ([·])

def ofFields : Json.Fields → Outcome Links
  | [] => .ok []
  | (relation, v) :: fs => do
    let ls ← ofEntry relation v
    if relation == selfRelation && 1 < ls.length then throw (.protocol (.repeatedSelf ls.length))
    return ls ++ (← ofFields fs)

/-- The links that a document's entry for links holds; null holds none. -/
def ofDocument : Json → Outcome Links
  | .object fields => ofFields fields
  | .null => .ok []
  | v => .error (.protocol (.linksNotObject v))

def relations (ls : Links) : List String := (ls.map (·.relation)).eraseDups

def toEntry : Links → Json
  | [l] => l.toMember
  | ls => .array (ls.map Link.toMember)

def toDocument (ls : Links) : Json :=
  .object ((relations ls).map fun r => (r, toEntry (ls.filter (·.relation == r))))

end Links
end Hypermedia
