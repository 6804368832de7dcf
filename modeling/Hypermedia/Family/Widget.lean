import Hypermedia.Entity.Basic
import Hypermedia.Json.Alike
/-!
# Widgets, media and scalars

A widget has fields of all shapes and accessors of all roles, some of which follow the same relation.  A medium is any
object and remembers the kind that it was found to have.  A scalar is read from an object and written as a bare text.
-/
namespace Hypermedia
namespace Family

structure Widget where
  name : String
  active : Bool := false
  count : Option Int := none
  tags : List String := []
  extra : Json := .null
  url : Option String := none

namespace Widget

def decoder : Json.RecordDecoder Widget where
  name := "Widget"
  blank := { name := "" }
  fields :=
    [.needed "name" Json.Decoder.text fun s w => { w with name := s },
      .defaulted "active" Json.Decoder.bool fun b w => { w with active := b },
      .defaulted "count" (Json.Decoder.optional (Json.Decoder.integer (-(Nat.pow 2 31 : Int)) (Nat.pow 2 31 - 1) "i32"))
        fun i w => { w with count := i },
      .defaulted "tags" (Json.Decoder.list Json.Decoder.text) fun ts w => { w with tags := ts },
      .defaulted "meta" Json.Decoder.any fun v w => { w with extra := v },
      .defaulted "uRL" (Json.Decoder.optional Json.Decoder.text) fun s w => { w with url := s }]

def toJson (w : Widget) : Json :=
  .object ([("name", .text w.name), ("active", .bool w.active)] ++
    (w.count.map fun i => ("count", Json.number (.integer i))).toList ++
    [("tags", .array (w.tags.map .text)), ("meta", w.extra)] ++
    (w.url.map fun s => ("uRL", Json.text s)).toList)

def entity {κ : Type} (declarations : List (Accessor κ)) : EntityType κ Widget where
  kind := "Widget"
  declarations := declarations
  decode _ := decoder.decode
  encode w := .ok w.toJson
  equal a b := Json.alike a.toJson b.toJson

end Widget

structure Medium where
  kind : String
  fields : Json.Fields

namespace Medium

def anyKind : String := "Media"

def kinds : List String := [anyKind, "Boy", "Girl", "Toddler", "Rooted", "Odd", "Nowhere"]

def entity (κ : Type) : EntityType κ Medium where
  kind := anyKind
  accepts := kinds.contains
  decode kind v := (Json.Decoder.fields v).map (⟨if kinds.contains kind then kind else anyKind, ·⟩)
  encode m := .ok (.object m.fields)
  contentKind := Medium.kind
  equal a b := a.kind == b.kind && Json.alike (.object a.fields) (.object b.fields)

end Medium

def scalarDecoder : Json.RecordDecoder String where
  name := "ScalarRepr"
  blank := ""
  fields := [.needed "value" Json.Decoder.text fun s _ => s]

def scalarEntity (κ : Type) : EntityType κ String where
  kind := "Scalar"
  decode _ := scalarDecoder.decode
  encode s := .ok (.text s)
  equal a b := a == b

end Family
end Hypermedia
