import Hypermedia.Entity.Basic
import Hypermedia.Json.Alike
/-!
# Untyped documents

An entity type for resources about which nothing is known: their content is any object.
-/
namespace Hypermedia

def EntityType.document (κ : Type) : EntityType κ Json.Fields where
  kind := "Document"
  decode _ := Json.Decoder.fields
  encode fields := .ok (.object fields)
  equal a b := Json.alike (.object a) (.object b)

end Hypermedia
