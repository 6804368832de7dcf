import Hypermedia.Family.Schema
import Hypermedia.Proofs.Json.Record
/-!
# What entity types give back

Content that was decoded from an object is written to an object again.  A type gives back its fields if every field that
content of that kind may have is written as it was read, but for a null that may be left out (`EntityType.GivesBack`).
It is steady if it leaves out no null that it also writes, and keeps kinds if content that is read as of a kind has that
kind.  Persons, contents and untyped documents are all of that (`Family.written_as_read`).  Animals, whose kind is told
by a field, give back their fields and do not keep kinds (`Family.Animal.givesBack_entity`).
-/
namespace Hypermedia

open Json (Fields)

namespace EntityType

variable {κ α : Type}

/-- A field of the document of content, if there is such a document. -/
def field? (e : EntityType κ α) (a : α) (key : String) : Option Json := (e.encode a).toOption.bind (·.field? key)

/-- Content whose document has one field of each key, if it is an object, like any that was read
(`distinct_of_parse?`). -/
def Keyed (e : EntityType κ α) (a : α) : Prop :=
  ∀ fields, e.encode a = .ok (.object fields) → (Fields.keys fields).Nodup

/-- A field that content of the same kind may have when it is written. -/
def Knows (e : EntityType κ α) (a : α) (key : String) : Prop :=
  ∃ b, e.contentKind b = e.contentKind a ∧ (e.field? b key).isSome

/-- **What was decoded from an object is written with the fields of the object that its kind knows**, but for a null
that is left out. -/
def GivesBack (e : EntityType κ α) : Prop :=
  ∀ kind fields a, (Fields.keys fields).Nodup → e.decode kind (.object fields) = .ok a →
    ∀ key v, e.Knows a key → Fields.find? fields key = some v →
      e.field? a key = some v ∨ v = .null ∧ e.field? a key = none

/-- A null that content of a kind has in a field is written again when it was read there. -/
def Steady (e : EntityType κ α) : Prop :=
  ∀ kind fields a b key, e.decode kind (.object fields) = .ok a → Fields.find? fields key = some .null →
    e.contentKind b = e.contentKind a → e.field? b key = some .null → (e.field? a key).isSome

/-- What is read as content of a kind has that kind. -/
def KeepsKind (e : EntityType κ α) : Prop :=
  ∀ a b v, e.decode (e.contentKind a) v = .ok b → e.contentKind b = e.contentKind a

variable {e : EntityType κ α} {a b : α} {kind key : String} {fields : Fields} {v : Json}

theorem field?_of_encode (h : e.encode a = .ok v) (key : String) : e.field? a key = v.field? key := by
  unfold field?
  rw [h]
  rfl

theorem GivesBack.not_null (h : e.GivesBack) (hkeys : (Fields.keys fields).Nodup)
    (ha : e.decode kind (.object fields) = .ok a) (known : e.Knows a key) (hv : Fields.find? fields key = some v)
    (hnull : v ≠ .null) : e.field? a key = some v :=
  (h kind fields a hkeys ha key v known hv).resolve_right fun h => hnull h.1

/-- **A steady type gives back what content of the kind had**, nulls as well. -/
theorem GivesBack.steady (h : e.GivesBack) (steady : e.Steady) (hkeys : (Fields.keys fields).Nodup)
    (ha : e.decode kind (.object fields) = .ok a) (hv : Fields.find? fields key = some v)
    (hkind : e.contentKind b = e.contentKind a) (hb : e.field? b key = some v) : e.field? a key = some v := by
  have known : e.Knows a key := ⟨b, hkind, by rw [hb]; rfl⟩
  rcases h kind fields a hkeys ha key v known hv with hgiven | ⟨rfl, hnone⟩
  · exact hgiven
  · have hsome := steady kind fields a b key ha hv hkind hb
    rw [hnone] at hsome
    cases hsome

end EntityType

/-! ## Untyped documents -/

theorem EntityType.givesBack_document (κ : Type) : (EntityType.document κ).GivesBack := by
  rintro kind fields _ - ⟨⟩ key v - hv
  exact .inl hv

theorem EntityType.steady_document (κ : Type) : (EntityType.document κ).Steady := by
  rintro kind fields _ b key ⟨⟩ hv - -
  show (Fields.find? fields key).isSome
  rw [hv]
  rfl

theorem EntityType.keepsKind_document (κ : Type) : (EntityType.document κ).KeepsKind := fun _ _ _ _ => rfl

namespace Family

open Json (Decoder RecordDecoder)

variable {κ : Type} {key : String}

/-! ## Persons -/

namespace Person

theorem field?_toJson (p : Person) (key : String) :
    p.toJson.field? key =
      if key = "id" then p.id.map fun i => Json.ofNat i.toNat
      else if key = "name" then some (.text p.name) else none := by
  by_cases hid : key = "id"
  · subst hid
    cases hi : p.id <;> simp [toJson, Json.field?, Fields.find?, hi]
  · by_cases hname : key = "name"
    · subst hname
      cases hi : p.id <;> simp [toJson, Json.field?, Fields.find?, hi]
    · cases hi : p.id <;> simp [toJson, Json.field?, Fields.find?, hi, hid, hname, Ne.symm hid, Ne.symm hname]

/-- What a person has for the number that it was decoded from. -/
def HasId (v : Json) (p : Person) : Prop :=
  v = .null ∧ p.id = none ∨ p.id.map (fun i => Json.ofNat i.toNat) = some v

theorem hasId_of_read {v : Json} {i : Option Nat} {p : Person}
    (h : Decoder.optional (Decoder.unsigned 64 "u64") v = .ok i) : HasId v { p with id := i.map Nat.toUInt64 } := by
  rcases Decoder.of_optional h with ⟨rfl, rfl⟩ | ⟨n, rfl, hn⟩
  · exact .inl ⟨rfl, rfl⟩
  · have hlt : n < 2 ^ 64 := Decoder.lt_of_unsigned hn
    refine .inr ?_
    rw [← Decoder.undone_unsigned 64 "u64" v n hn]
    show some (Json.ofNat n.toUInt64.toNat) = some (Json.ofNat n)
    rw [Nat.toUInt64, UInt64.toNat_ofNat_of_lt' hlt]

theorem id_of_decode {kind : String} {fields : Fields} {p : Person} {v : Json}
    (h : (decoder kind).decode (.object fields) = .ok p) (hkeys : (Fields.keys fields).Nodup)
    (hv : Fields.find? fields "id" = some v) : HasId v p :=
  RecordDecoder.decode_field h hkeys hv rfl
    (fun r r' hr => by
      obtain ⟨i, hi, rfl⟩ := RecordDecoder.of_defaulted hr
      exact hasId_of_read hi)
    (by
      intro fd hfd hne
      simp only [decoder, List.mem_cons, List.not_mem_nil, or_false] at hfd
      rcases hfd with rfl | rfl
      · exact absurd rfl hne
      · exact RecordDecoder.keeps_needed fun _ _ h => h)

theorem name_of_decode {kind : String} {fields : Fields} {p : Person} {v : Json}
    (h : (decoder kind).decode (.object fields) = .ok p) (hkeys : (Fields.keys fields).Nodup)
    (hv : Fields.find? fields "name" = some v) : Json.text p.name = v :=
  RecordDecoder.decode_needed Person.name (fun _ _ => rfl) Decoder.undone_text h hkeys hv rfl
    (by
      intro fd hfd hne
      simp only [decoder, List.mem_cons, List.not_mem_nil, or_false] at hfd
      rcases hfd with rfl | rfl
      · exact RecordDecoder.keeps_defaulted fun _ _ h => h
      · exact absurd rfl hne)

theorem givesBack_entity (kind path : String) (declarations : List (Accessor κ)) :
    (entity kind path declarations).GivesBack := by
  rintro _ fields p hkeys hp key v ⟨q, -, known⟩ hv
  show p.toJson.field? key = some v ∨ v = .null ∧ p.toJson.field? key = none
  replace known : (q.toJson.field? key).isSome := known
  rw [field?_toJson] at known ⊢
  by_cases hid : key = "id"
  · subst hid
    rw [if_pos rfl]
    rcases id_of_decode hp hkeys hv with ⟨hnull, hnone⟩ | hsome
    · exact .inr ⟨hnull, by rw [hnone]; rfl⟩
    · exact .inl hsome
  by_cases hname : key = "name"
  · subst hname
    exact .inl (by rw [if_neg hid, if_pos rfl, name_of_decode hp hkeys hv])
  · rw [if_neg hid, if_neg hname] at known
    cases known

/-- A person is never written with a null. -/
theorem steady_entity (kind path : String) (declarations : List (Accessor κ)) :
    (entity kind path declarations).Steady := by
  intro _ _ _ q key _ _ _ hnull
  replace hnull : q.toJson.field? key = some .null := hnull
  rw [field?_toJson] at hnull
  split at hnull
  · cases hi : q.id <;> rw [hi] at hnull <;> cases hnull
  · split at hnull <;> cases hnull

theorem keepsKind_entity (kind path : String) (declarations : List (Accessor κ)) :
    (entity kind path declarations).KeepsKind := fun _ _ _ _ => rfl

end Person

/-! ## Contents -/

namespace Named

theorem field?_toJson (n : Named) (key : String) :
    n.toJson.field? key = if key = "name" then some (.text n.name) else none := by
  by_cases hname : key = "name"
  · subst hname
    rfl
  · simp [toJson, Json.field?, Fields.find?, hname, Ne.symm hname]

theorem name_of_decode {kind : String} {fields : Fields} {n : Named} {v : Json}
    (h : (decoder kind).decode (.object fields) = .ok n) (hkeys : (Fields.keys fields).Nodup)
    (hv : Fields.find? fields "name" = some v) : Json.text n.name = v :=
  RecordDecoder.decode_needed Named.name (fun _ _ => rfl) Decoder.undone_text h hkeys hv rfl
    (by
      intro fd hfd hne
      simp only [decoder, List.mem_cons, List.not_mem_nil, or_false] at hfd
      exact absurd (congrArg _ hfd) hne)

/-- Whatever field is written at all is written as it was read. -/
theorem field?_of_decode {kind : String} {fields : Fields} {n m : Named} {v : Json}
    (h : (decoder kind).decode (.object fields) = .ok n) (hkeys : (Fields.keys fields).Nodup)
    (known : (m.toJson.field? key).isSome) (hv : Fields.find? fields key = some v) : n.toJson.field? key = some v := by
  rw [field?_toJson] at known ⊢
  by_cases hname : key = "name"
  · subst hname
    rw [if_pos rfl, name_of_decode h hkeys hv]
  · rw [if_neg hname] at known
    cases known

end Named

namespace Content

theorem of_decodeBoy {v : Json} {c : Content} (h : decodeBoy v = .ok c) :
    ∃ n, c = .boy n ∧ (Named.decoder boys.kind).decode v = .ok n := by
  unfold decodeBoy at h
  rcases hv : (Named.decoder boys.kind).decode v with e | n <;> rw [hv] at h <;> cases h
  exact ⟨n, rfl, rfl⟩

theorem of_decodeGirl {v : Json} {c : Content} (h : decodeGirl v = .ok c) :
    ∃ n, c = .girl n ∧ (Named.decoder girls.kind).decode v = .ok n := by
  unfold decodeGirl at h
  rcases hv : (Named.decoder girls.kind).decode v with e | n <;> rw [hv] at h <;> cases h
  exact ⟨n, rfl, rfl⟩

/-- Whatever a content is read as, it has the name that was read. -/
theorem named_of_decode {kind : String} {v : Json} {c : Content} (h : decode kind v = .ok c) :
    ∃ kind', (Named.decoder kind').decode v = .ok c.named := by
  have of_boy : decodeBoy v = .ok c → ∃ kind', (Named.decoder kind').decode v = .ok c.named := by
    intro h
    obtain ⟨n, rfl, hn⟩ := of_decodeBoy h
    exact ⟨_, hn⟩
  have of_girl : decodeGirl v = .ok c → ∃ kind', (Named.decoder kind').decode v = .ok c.named := by
    intro h
    obtain ⟨n, rfl, hn⟩ := of_decodeGirl h
    exact ⟨_, hn⟩
  unfold decode at h
  split at h
  · exact of_boy h
  · split at h
    · exact of_girl h
    · unfold decodeEither at h
      split at h
      · rename_i hb; cases h; exact of_boy hb
      · rename_i hg _; cases h; exact of_girl hg
      · cases h

theorem givesBack_entity (declarations : List (Accessor κ)) : (entity declarations).GivesBack := by
  rintro kind fields c hkeys hc key v ⟨c', -, known⟩ hv
  obtain ⟨kind', hn⟩ := named_of_decode hc
  exact .inl (Named.field?_of_decode (m := c'.named) hn hkeys known hv)

/-- A content is never written with a null. -/
theorem steady_entity (declarations : List (Accessor κ)) : (entity declarations).Steady := by
  intro _ _ _ c key _ _ _ hnull
  replace hnull : c.named.toJson.field? key = some .null := hnull
  rw [Named.field?_toJson] at hnull
  split at hnull <;> cases hnull

/-- **A boy stays a boy, and a girl stays a girl.** -/
theorem keepsKind_entity (declarations : List (Accessor κ)) : (entity declarations).KeepsKind := by
  rintro (n | n) c v h
  · obtain ⟨_, rfl, -⟩ := of_decodeBoy h
    rfl
  · obtain ⟨_, rfl, -⟩ := of_decodeGirl h
    rfl

end Content

/-! ## Animals -/

namespace Animal

theorem Entry.field?_toJson (e : Entry) (key : String) :
    e.toJson.field? key =
      if key = "species" then some (.text e.species)
      else if key = "name" then some (.text e.name)
      else if key = "home" then e.home.map .text else none := by
  by_cases hspecies : key = "species"
  · subst hspecies
    rfl
  by_cases hname : key = "name"
  · subst hname
    rfl
  by_cases hhome : key = "home"
  · subst hhome
    cases h : e.home <;> simp [toJson, Json.field?, Fields.find?, h]
  · cases h : e.home <;>
      simp [toJson, Json.field?, Fields.find?, h, hspecies, hname, hhome, Ne.symm hspecies, Ne.symm hname,
        Ne.symm hhome]

section Decoded

variable {fields : Fields} {entry : Entry} {v : Json} (h : entryDecoder.decode (.object fields) = .ok entry)
  (hkeys : (Fields.keys fields).Nodup)
include h hkeys

theorem species_of_decode (hv : Fields.find? fields "species" = some v) : Json.text entry.species = v :=
  RecordDecoder.decode_needed Entry.species (fun _ _ => rfl) Decoder.undone_text h hkeys hv rfl
    (by
      intro fd hfd hne
      simp only [entryDecoder, List.mem_cons, List.not_mem_nil, or_false] at hfd
      rcases hfd with rfl | rfl | rfl
      · exact absurd rfl hne
      · exact RecordDecoder.keeps_needed fun _ _ h => h
      · exact RecordDecoder.keeps_defaulted fun _ _ h => h)

theorem name_of_decode (hv : Fields.find? fields "name" = some v) : Json.text entry.name = v :=
  RecordDecoder.decode_needed Entry.name (fun _ _ => rfl) Decoder.undone_text h hkeys hv rfl
    (by
      intro fd hfd hne
      simp only [entryDecoder, List.mem_cons, List.not_mem_nil, or_false] at hfd
      rcases hfd with rfl | rfl | rfl
      · exact RecordDecoder.keeps_needed fun _ _ h => h
      · exact absurd rfl hne
      · exact RecordDecoder.keeps_defaulted fun _ _ h => h)

theorem home_of_decode {home : String} (hv : Fields.find? fields "home" = some v) (hhome : entry.home = some home) :
    Json.text home = v := by
  have hread : ∀ home, entry.home = some home → Json.text home = v :=
    RecordDecoder.decode_field (P := fun e => ∀ home, e.home = some home → Json.text home = v) h hkeys hv rfl
      (fun e e' he home hhome => by
        obtain ⟨s, hs, rfl⟩ := RecordDecoder.of_defaulted he
        rcases Decoder.of_optional hs with ⟨-, rfl⟩ | ⟨_, rfl, htext⟩
        · cases hhome
        · cases hhome
          exact Decoder.undone_text v home htext)
      (by
        intro fd hfd hne
        simp only [entryDecoder, List.mem_cons, List.not_mem_nil, or_false] at hfd
        rcases hfd with rfl | rfl | rfl
        · exact RecordDecoder.keeps_needed fun _ _ h => h
        · exact RecordDecoder.keeps_needed fun _ _ h => h
        · exact absurd rfl hne)
  exact hread home hhome

end Decoded

/-- An animal has the species and the name that were read, and the home if it is a cat. -/
theorem of_decode {v : Json} {a : Animal} (h : decode v = .ok a) :
    ∃ e, entryDecoder.decode v = .ok e ∧ a.entry.species = e.species ∧ a.entry.name = e.name ∧
      ∀ home, a.entry.home = some home → e.home = some home := by
  unfold decode at h
  rcases he : entryDecoder.decode v with err | e <;> rw [he] at h
  · cases h
  refine ⟨e, rfl, ?_⟩
  simp only [bind, Except.bind, ofEntry?] at h
  by_cases hdog : e.species = "dog"
  · simp only [if_pos hdog] at h
    cases h
    exact ⟨hdog.symm, rfl, nofun⟩
  by_cases hcat : e.species = "cat"
  · rcases hhome : e.home with _ | home <;> simp only [if_neg hdog, if_pos hcat, hhome, Option.map] at h <;> cases h
    exact ⟨hcat.symm, rfl, fun _ h => h⟩
  · simp only [if_neg hdog, if_neg hcat] at h
    cases h

/-- Animals of one kind have homes, or they have none. -/
theorem isSome_home {a b : Animal} (h : b.kind = a.kind) : b.entry.home.isSome = a.entry.home.isSome := by
  cases a <;> cases b
  case cat.dog => exact absurd (show "Dog" = "Cat" from h) (by decide)
  case dog.cat => exact absurd (show "Cat" = "Dog" from h) (by decide)
  all_goals rfl

/-- **Animals are written with what was read**, as far as their kind has it. -/
theorem givesBack_entity (κ : Type) : (entity κ).GivesBack := by
  rintro _ fields a hkeys ha key v ⟨b, hkind, known⟩ hv
  obtain ⟨e, he, hspecies, hname, hhome⟩ := of_decode ha
  refine .inl ?_
  show a.entry.toJson.field? key = some v
  replace known : (b.entry.toJson.field? key).isSome := known
  rw [Entry.field?_toJson] at known ⊢
  by_cases hs : key = "species"
  · subst hs
    rw [if_pos rfl, hspecies, species_of_decode he hkeys hv]
  by_cases hn : key = "name"
  · subst hn
    rw [if_neg hs, if_pos rfl, hname, name_of_decode he hkeys hv]
  by_cases hh : key = "home"
  · subst hh
    rw [if_neg hs, if_neg hn, if_pos rfl, Option.isSome_map, isSome_home hkind] at known
    obtain ⟨home, ha⟩ := Option.isSome_iff_exists.1 known
    rw [if_neg hs, if_neg hn, if_pos rfl, ha, Option.map_some, home_of_decode he hkeys hv (hhome home ha)]
  · rw [if_neg hs, if_neg hn, if_neg hh] at known
    cases known

end Animal

/-! ## The family -/

/-- **Parents, children, contents and documents are written as they were read.** -/
theorem written_as_read :
    ∀ t ∈ [Ty.parent, .child, .content, .document],
      (schema.entity t).GivesBack ∧ (schema.entity t).Steady ∧ (schema.entity t).KeepsKind := by
  intro t ht
  simp only [List.mem_cons, List.not_mem_nil, or_false] at ht
  rcases ht with rfl | rfl | rfl | rfl
  · exact ⟨Person.givesBack_entity _ _ _, Person.steady_entity _ _ _, Person.keepsKind_entity _ _ _⟩
  · exact ⟨Person.givesBack_entity _ _ _, Person.steady_entity _ _ _, Person.keepsKind_entity _ _ _⟩
  · exact ⟨Content.givesBack_entity _, Content.steady_entity _, Content.keepsKind_entity _⟩
  · exact ⟨EntityType.givesBack_document Ty, EntityType.steady_document Ty, EntityType.keepsKind_document Ty⟩

end Family
end Hypermedia
