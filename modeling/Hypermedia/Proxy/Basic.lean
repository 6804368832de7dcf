import Hypermedia.Accessor.Chain
import Hypermedia.Entity.Basic
import Hypermedia.Resource
/-!
# Proxies

A proxy stands for a resource: it holds the content and the links that came with it and remembers the associations that
were followed.  Proxies refer to each other by number, so that all who hold a number see the same proxy.
-/
namespace Hypermedia

/-- What an association leads to: the proxies of resources of a type. -/
inductive LinkedValue (S : Schema) where
  | one (target : S.Ty) (proxy : Option Nat)
  | many (target : S.Ty) (proxies : List Nat)
  deriving DecidableEq

/-- The associations that a proxy remembers, by relation. -/
abbrev Memory (S : Schema) := List (String × LinkedValue S)

structure ProxyState (S : Schema) (t : S.Ty) where
  content : S.Content t
  memory : Memory S := []

structure Proxy (S : Schema) (t : S.Ty) extends ProxyState S t where
  links : Links
  table : AccessorTable S.Ty
  /-- The address that the resource had when the proxy was made. -/
  selfUri : Option Uri

inductive Invocation (S : Schema) where
  | resourceId (uri : Option Uri)
  | linked (value : LinkedValue S)
  | property (value : Json)
  | updated

namespace Invocation

variable {S : Schema}

def kind : Invocation S → String
  | .resourceId _ => "resource id"
  | .linked _ => "linked resource"
  | .property _ => "simple property"
  | .updated => "update"

end Invocation

namespace Proxy

variable {S : Schema} {t : S.Ty}

def kind (p : Proxy S t) : String := (S.entity t).contentKind p.content

/-- The document of a proxy is that of its content; associations are not followed. -/
def toJson (p : Proxy S t) : Json.Encoded := (S.entity t).encode p.content

def outline (p : Proxy S t) : Outline :=
  .record "Proxy" [("kind", .text p.kind), ("self_uri", .option (fun u => .text u.text) p.selfUri),
    ("links", .number p.links.length)]

end Proxy
end Hypermedia
