import Hypermedia.Text.LowerCase
import Hypermedia.Text.Outline
/-!
# Descriptors

An entity type is known by its kind and by the path of its collection below the base address.
-/
namespace Hypermedia

structure Descriptor where
  kind : String
  path : Option String := none
  deriving DecidableEq

namespace Descriptor

/-- The registered path, or else the kind with a small first letter and an `s` behind it. -/
def collectionPath (d : Descriptor) : String :=
  d.path.getD ("/" ++ Text.decapitalize d.kind ++ "s")

def outline (d : Descriptor) : Outline :=
  .record "EntityDescriptor" [("kind", .text d.kind), ("resource_path", .option .text d.path)]

end Descriptor
end Hypermedia
