import Hypermedia.Entity.Basic
/-!
# Animals

An animal is a cat or a dog, and only cats have a home.  Which of the two it is, its species tells, a field like any
other, whatever kind the resource was found to have.
-/
namespace Hypermedia
namespace Family

inductive Animal where
  | cat (name home : String)
  | dog (name : String)
  deriving DecidableEq

namespace Animal

/-- The fields of an animal. -/
structure Entry where
  species : String
  name : String
  home : Option String := none

def Entry.toJson (e : Entry) : Json :=
  .object ([("species", .text e.species), ("name", .text e.name)] ++ (e.home.map fun s => ("home", Json.text s)).toList)

def entry : Animal → Entry
  | .cat name home => { species := "cat", name, home := some home }
  | .dog name => { species := "dog", name }

def entryDecoder : Json.RecordDecoder Entry where
  name := "Animal"
  blank := { species := "", name := "" }
  fields :=
    [.needed "species" Json.Decoder.text fun s e => { e with species := s },
      .needed "name" Json.Decoder.text fun s e => { e with name := s },
      .defaulted "home" (Json.Decoder.optional Json.Decoder.text) fun s e => { e with home := s }]

def ofEntry? (e : Entry) : Option Animal :=
  if e.species = "dog" then some (.dog e.name)
  else if e.species = "cat" then e.home.map (.cat e.name)
  else none

def decode : Json.Decoder Animal := fun v => do
  match ofEntry? (← entryDecoder.decode v) with
  | some a => return a
  | none => throw (.noVariant "Animal")

def kind : Animal → String
  | .cat _ _ => "Cat"
  | .dog _ => "Dog"

def entity (κ : Type) : EntityType κ Animal where
  kind := "Animal"
  path := some "/animals"
  accepts kind := kind == "Animal" || kind == "Cat" || kind == "Dog"
  decode _ := decode
  encode a := .ok a.entry.toJson
  contentKind := kind
  equal a b := a == b

end Animal
end Family
end Hypermedia
