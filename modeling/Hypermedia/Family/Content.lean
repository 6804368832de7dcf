import Hypermedia.Entity.Basic
/-!
# Boys, girls and contents

The plainest types have a name and nothing else.  A content is a boy or a girl; which of the two is told by the kind
that the resource was found to have, or by what fits.  A kid is one of them too, but there is no kid that is neither.
-/
namespace Hypermedia
namespace Family

open Json (DecodeError)

/-- Something with a name, and room for an address that only contents use. -/
structure Named where
  name : String
  uri : Option Uri := none
  deriving DecidableEq

namespace Named

def decoder (kind : String) : Json.RecordDecoder Named where
  name := kind
  blank := { name := "" }
  fields := [.needed "name" Json.Decoder.text fun s n => { n with name := s }]

theorem uri_of_decode {kind : String} {v : Json} {n : Named} (h : (decoder kind).decode v = .ok n) : n.uri = none :=
  Json.RecordDecoder.decode_keeps (decoder kind) (P := fun n => n.uri = none) rfl
    (by
      intro fd hfd
      simp only [decoder, List.mem_cons, List.not_mem_nil, or_false] at hfd
      subst hfd
      exact Json.RecordDecoder.keeps_needed fun _ _ hn => hn) h

def toJson (n : Named) : Json := .object [("name", .text n.name)]

def entity {κ : Type} (kind : String) (path : Option String) (declarations : List (Accessor κ))
    (typeInfo : Option TypeInfo) : EntityType κ Named where
  kind := kind
  path := path
  declarations := declarations
  typeInfo := typeInfo
  decode _ := (decoder kind).decode
  encode n := .ok n.toJson
  equal a b := a == b

end Named

def boys : Descriptor := ⟨"Boy", some "/boys"⟩

def girls : Descriptor := ⟨"Girl", some "/girls"⟩

inductive Content where
  | boy (n : Named)
  | girl (n : Named)
  deriving DecidableEq

namespace Content

def named : Content → Named
  | .boy n => n
  | .girl n => n

def kind : Content → String
  | .boy _ => boys.kind
  | .girl _ => girls.kind

def slot : AddressSlot Content where
  get c := c.named.uri
  put c u := match c with
    | .boy n => .boy { n with uri := some u }
    | .girl n => .girl { n with uri := some u }
  get_put c _ := by cases c <;> rfl

def decodeBoy (v : Json) : Except DecodeError Content := ((Named.decoder boys.kind).decode v).map .boy

def decodeGirl (v : Json) : Except DecodeError Content := ((Named.decoder girls.kind).decode v).map .girl

def decodeEither (v : Json) : Except DecodeError Content :=
  match decodeBoy v, decodeGirl v with
  | .ok c, _ => .ok c
  | _, .ok c => .ok c
  | _, _ => .error (.noVariant "Content")

def decode (kind : String) : Json.Decoder Content :=
  if kind == boys.kind then decodeBoy
  else if kind == girls.kind then decodeGirl
  else decodeEither

theorem uri_of_decodeBoy {v : Json} {c : Content} (h : decodeBoy v = .ok c) : c.named.uri = none := by
  unfold decodeBoy at h
  cases hv : (Named.decoder boys.kind).decode v with
  | error e => rw [hv] at h; cases h
  | ok n => rw [hv] at h; cases h; exact Named.uri_of_decode hv

theorem uri_of_decodeGirl {v : Json} {c : Content} (h : decodeGirl v = .ok c) : c.named.uri = none := by
  unfold decodeGirl at h
  cases hv : (Named.decoder girls.kind).decode v with
  | error e => rw [hv] at h; cases h
  | ok n => rw [hv] at h; cases h; exact Named.uri_of_decode hv

theorem uri_of_decode {kind : String} {v : Json} {c : Content} (h : decode kind v = .ok c) : c.named.uri = none := by
  unfold decode at h
  split at h
  · exact uri_of_decodeBoy h
  · split at h
    · exact uri_of_decodeGirl h
    · unfold decodeEither at h
      split at h
      · rename_i hb; cases h; exact uri_of_decodeBoy hb
      · rename_i hg _; cases h; exact uri_of_decodeGirl hg
      · cases h

def entity {κ : Type} (declarations : List (Accessor κ)) : EntityType κ Content where
  kind := "Content"
  path := some "/content"
  declarations := declarations
  typeInfo := some { subtypes := [boys, girls] }
  accepts kind := kind == "Content" || kind == boys.kind || kind == girls.kind
  decode := decode
  encode c := .ok c.named.toJson
  contentKind := kind
  equal a b := a == b
  slot := some slot
  exposed := true
  encode_put := by rintro s h c _; cases h; cases c <;> rfl
  contentKind_put := by rintro s h c _; cases h; cases c <;> rfl
  get_of_decode := by rintro s h _ _ _ hv; cases h; exact uri_of_decode hv
  put_get := by
    rintro s h c _ hc
    cases h
    rcases c with ⟨_, _⟩ | ⟨_, _⟩ <;> cases hc <;> rfl

end Content

/-- Kids are accepted as boys and as girls, and never as kids. -/
def kidEntity (κ : Type) : EntityType κ Named :=
  { Named.entity "Kid" (some "/kids") [] (some { subtypes := [boys, girls] }) with
    accepts := fun kind => kind == boys.kind || kind == girls.kind }

end Family
end Hypermedia
