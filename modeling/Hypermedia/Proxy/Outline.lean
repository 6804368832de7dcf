import Hypermedia.Proxy.Basic
/-!
# How invocations are shown

A linked value is not shown, so that showing an invocation never follows an association.
-/
namespace Hypermedia

mutual

def Json.outline : Json → Outline
  | .null => .word "Null"
  | .bool b => .call "Bool" [.bool b]
  | .number n => .call "Number" [.word (String.ofList (Json.numberChars n))]
  | .text s => .call "String" [.text s]
  | .array items => .titled "Array" (.list (Json.outlineEach items))
  | .object fields => .titled "Object" (.table (Json.outlineFields fields))

def Json.outlineEach : List Json → List Outline
  | [] => []
  | v :: vs => v.outline :: Json.outlineEach vs

def Json.outlineFields : List (String × Json) → List (String × Outline)
  | [] => []
  | (k, v) :: fs => (k, v.outline) :: Json.outlineFields fs

end

/-- How a host is shown.  An IPv6 address that stands for an IPv4 address ends like one. -/
def Host.outline : Host → Outline
  | .name text => .call "Domain" [.text text]
  | .ipv4 address => .call "Ipv4" [.word (String.ofList (ipv4Chars address))]
  | .ipv6 [0, 0, 0, 0, 0, 0xffff, high, low] =>
    .call "Ipv6" [.word (String.ofList ("::ffff:".toList ++ ipv4Chars (0x10000 * high + low)))]
  | .ipv6 pieces => .call "Ipv6" [.word (String.ofList (ipv6Chars pieces))]

namespace Uri

def outline (u : Uri) : Outline :=
  .record "Url" [
    ("scheme", .text u.scheme),
    ("cannot_be_a_base", .bool u.isOpaque),
    ("username", .text ((u.authority.map (·.username)).getD "")),
    ("password", .option .text (u.authority.bind (·.password))),
    ("host", .option Host.outline (u.authority.bind (·.host))),
    ("port", .option .number (u.authority.bind (·.port))),
    ("path", .text u.path),
    ("query", .option .text u.query),
    ("fragment", .option .text u.fragment)]

end Uri

def Invocation.outline {S : Schema} : Invocation S → Outline
  | .resourceId uri => .call "ResourceId" [.option Uri.outline uri]
  | .linked _ => .word "Linked(..)"
  | .property v => .call "Property" [v.outline]
  | .updated => .word "Updated"

end Hypermedia
