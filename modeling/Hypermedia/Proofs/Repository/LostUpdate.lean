import Hypermedia.Proofs.Entity.Fields
import Hypermedia.Proofs.Repository.Recovery
/-!
# What a recovered save leaves on the server

A recovery compares entities as their type does, and types whose ids the server assigns compare ids first, addresses
next, and what the entities say only when there is nothing else.  So the resource that a recovery saw last says what the
entity says, or it is known to be the entity by its id or its address (`recovered_iff`); in that case nothing it says is
looked at, and an update may be lost (`rename_lost`).
-/
namespace Hypermedia

open Hypermedia.Action

variable {S : Schema} {t : S.Ty} {κ α : Type}

/-- The documents of two entities have the same fields, but for the one of a key. -/
def EntityType.AgreeBut (e : EntityType κ α) (key : String) (a b : α) : Prop :=
  ∀ k, k ≠ key → e.field? a k = e.field? b k

namespace Identity

variable (I : Identity α) {a b : α}

/-- Two entities are known to be the same by their ids, or else by their addresses. -/
def Recognizes (a b : α) : Prop :=
  (∃ i j, I.id a = some i ∧ I.id b = some j ∧ I.sameId i j = true) ∨
    (I.id a = none ∨ I.id b = none) ∧ ∃ u v, I.slot.get a = some u ∧ I.slot.get b = some v ∧ u.same v = true

/-- Two entities have neither ids nor addresses to compare. -/
def Unrelated (a b : α) : Prop :=
  (I.id a = none ∨ I.id b = none) ∧ (I.slot.get a = none ∨ I.slot.get b = none)

theorem same_iff {alike : α → α → Bool} :
    I.same alike a b = true ↔ I.Recognizes a b ∨ I.Unrelated a b ∧ alike a b = true := by
  unfold same Recognizes Unrelated
  rcases I.id a with _ | i <;> rcases I.id b with _ | j
  case some.some =>
    refine ⟨fun h => .inl (.inl ⟨i, j, rfl, rfl, h⟩), ?_⟩
    rintro ((⟨_, _, ⟨⟩, ⟨⟩, h⟩ | ⟨h | h, -⟩) | ⟨⟨h | h, -⟩, -⟩)
    · exact h
    all_goals cases h
  all_goals rcases I.slot.get a with _ | u <;> rcases I.slot.get b with _ | v <;> simp

end Identity

/-- A type compares entities by identity, and when there is none to compare, by every field of their documents but the
one for the id. -/
def ComparedByIdentity (e : EntityType κ α) (I : Identity α) (key : String) : Prop :=
  ∃ alike : α → α → Bool, e.equal = I.same alike ∧ ∀ a b, alike a b = true ↔ e.AgreeBut key a b

theorem ComparedByIdentity.equal_iff {e : EntityType κ α} {I : Identity α} {key : String}
    (h : ComparedByIdentity e I key) (a b : α) :
    e.equal a b = true ↔ I.Recognizes a b ∨ I.Unrelated a b ∧ e.AgreeBut key a b := by
  obtain ⟨alike, hequal, halike⟩ := h
  rw [hequal, I.same_iff, halike]

namespace Family

theorem find?_behind {β : Type} {g : β → Json} {key k : String} (h : k ≠ key) (o : Option β) (fs : Json.Fields) :
    Json.Fields.find? ((o.map fun i => (key, g i)).toList ++ fs) k = Json.Fields.find? fs k := by
  rcases o with _ | i
  · rfl
  · have hkey : (key == k) = false := beq_eq_false_iff_ne.2 (Ne.symm h)
    simp only [Option.map_some, Option.toList_some, List.cons_append, List.nil_append, Json.Fields.find?, hkey,
      Bool.false_eq_true, if_false]

/-- Entities that are written as a name behind an id agree on everything but the id just when their names do. -/
theorem agreeBut_iff {β : Type} {e : EntityType κ α} {key : String} {g : β → Json} {id : α → Option β}
    {name : α → String} (hkey : "name" ≠ key)
    (hencode : ∀ a, e.encode a = .ok (.object (((id a).map fun i => (key, g i)).toList ++ [("name", .text (name a))])))
    (a b : α) : e.AgreeBut key a b ↔ name a = name b := by
  have hfield : ∀ a k, k ≠ key → e.field? a k = Json.Fields.find? [("name", .text (name a))] k := fun a k hk =>
    (EntityType.field?_of_encode (hencode a) k).trans (find?_behind hk _ _)
  refine ⟨fun h => ?_, fun h k hk => ?_⟩
  · have hname := h "name" hkey
    rw [hfield a _ hkey, hfield b _ hkey] at hname
    exact Json.text.inj (Option.some.inj hname)
  · rw [hfield a k hk, hfield b k hk, h]

theorem Person.agreeBut_iff (kind path : String) (declarations : List (Accessor κ)) (p q : Person) :
    (Person.entity kind path declarations).AgreeBut "id" p q ↔ p.name = q.name :=
  Family.agreeBut_iff (by decide) (fun _ => rfl) p q

theorem Person.comparedByIdentity (kind path : String) (declarations : List (Accessor κ)) :
    ComparedByIdentity (Person.entity kind path declarations) Person.identity "id" :=
  ⟨fun p q => p.name == q.name, rfl, fun p q => beq_iff_eq.trans (Person.agreeBut_iff kind path declarations p q).symm⟩

theorem Item.comparedByIdentity : ComparedByIdentity (Item.entity κ) Item.identity "code" :=
  ⟨fun i j => i.name == j.name, rfl,
    fun i j => beq_iff_eq.trans (Family.agreeBut_iff (by decide) (fun _ => rfl) i j).symm⟩

end Family

/-! ## The resource that was seen last -/

namespace Repository

/-- A stored resource that a recovery sees: the one that is found, or the one that a change brings when that differs;
with the traces right behind it. -/
def Sees (r : Repository S t) (a : S.Content t) (s : Traces S) (uri : Uri) (b : S.Content t) (s' : Traces S) : Prop :=
  ∃ p s₂, r.Finds a s p s₂ ∧ p.selfUri = some uri ∧
    (b = p.content ∧ s' = s₂ ∨
      (S.entity t).equal p.content a = false ∧ ∃ p', r.Brings a uri s₂ p' s' ∧ b = p'.content)

variable {r : Repository S t} {a : S.Content t} {s s' : Traces S} {uri : Uri} {key : String}

/-- **A recovery succeeds just when the resource that it sees last counts as the entity.** -/
theorem recover_ok_iff_sees (conflict : Failure) :
    (r.recover a conflict).after s = (.ok uri, s') ↔
      ∃ b, r.Sees a s uri b s' ∧ (S.entity t).equal b a = true := by
  rw [recover_ok_iff]
  constructor
  · rintro ⟨p, s₂, hfinds, hu, ⟨heq, hs⟩ | ⟨hne, p', hbrings, heq⟩⟩
    · exact ⟨p.content, ⟨p, s₂, hfinds, hu, .inl ⟨rfl, hs⟩⟩, heq⟩
    · exact ⟨p'.content, ⟨p, s₂, hfinds, hu, .inr ⟨hne, p', hbrings, rfl⟩⟩, heq⟩
  · rintro ⟨b, ⟨p, s₂, hfinds, hu, ⟨rfl, hs⟩ | ⟨hne, p', hbrings, rfl⟩⟩, heq⟩
    · exact ⟨p, s₂, hfinds, hu, .inl ⟨heq, hs⟩⟩
    · exact ⟨p, s₂, hfinds, hu, .inr ⟨hne, p', hbrings, heq⟩⟩

/-- **A recovered save leaves what the entity says on the server, unless the resource is recognized.**  A type compares
entities by identity, and the creation of one meets a conflict.  The recovery succeeds just when the resource that it
sees last is recognized as the entity, or has no identity to compare and says what the entity says; so if the save
succeeds and the resource is not recognized, it says what the entity says.  A resource that is recognized when it is
found is never changed, whatever it says. -/
theorem recovered_iff (r : Repository S t) (a : S.Content t) (s : Traces S) (answer : Response) (key : String)
    (compared : ComparedByIdentity (S.entity t) r.identity key)
    (answered : r.Answered a s answer) (status : answer.status = Status.conflict) :
    let s₁ := r.collection.service.noted s (r.creation a)
    let Agrees b := (S.entity t).AgreeBut key b a
    (∀ uri s₂, (r.recover a answer.refusal).after s₁ = (.ok uri, s₂) ↔
      ∃ b, r.Sees a s₁ uri b s₂ ∧ (r.identity.Recognizes b a ∨ r.identity.Unrelated b a ∧ Agrees b)) ∧
    (∀ saved s', (r.save a).after s = (.ok saved, s') →
      ∃ uri s₂ b, (r.recover a answer.refusal).after s₁ = (.ok uri, s₂) ∧ r.Sees a s₁ uri b s₂ ∧
        (¬ r.identity.Recognizes b a → Agrees b)) ∧
    (∀ p s₂ uri, r.Finds a s₁ p s₂ → p.selfUri = some uri → r.identity.Recognizes p.content a →
      (r.recover a answer.refusal).after s₁ = (.ok uri, s₂) ∧ ((r.save a).after s).2.patches = s.patches) := by
  intro s₁ Agrees
  have recovers : ∀ uri s₂, (r.recover a answer.refusal).after s₁ = (.ok uri, s₂) ↔
      ∃ b, r.Sees a s₁ uri b s₂ ∧ (r.identity.Recognizes b a ∨ r.identity.Unrelated b a ∧ Agrees b) := by
    intro uri s₂
    rw [recover_ok_iff_sees]
    exact exists_congr fun b => and_congr_right fun _ => compared.equal_iff b a
  refine ⟨recovers, fun saved s' h => ?_, fun p s₂ uri hfinds hu hknown => ?_⟩
  · obtain ⟨uri, s₂, hstore, -⟩ := of_after_bind h
    rw [after_storeUri_of_conflict answered status] at hstore
    obtain ⟨b, hsees, hsame⟩ := (recovers uri s₂).1 hstore
    refine ⟨uri, s₂, b, hstore, hsees, fun hunknown => ?_⟩
    rcases hsame with hknown | ⟨-, hagrees⟩
    · exact absurd hknown hunknown
    · exact hagrees
  · have hok := (recovers uri s₂).2 ⟨p.content, ⟨p, s₂, hfinds, hu, .inl ⟨rfl, rfl⟩⟩, .inl hknown⟩
    refine ⟨hok, ?_⟩
    rw [patches_save_of_conflict answered status, hok, patches_of_finds hfinds]
    rfl

end Repository

namespace Family

/-- A server that finds a parent by the name, in another spelling. -/
def misspelled : Script :=
  [ { method := "POST"
      uri := "http://host/parents"
      replies := [.ok taken] },
    { method := "GET"
      uri := "http://host/parents/search/findByName?name=Marge"
      replies := [.ok (answering (.object [("name", .text "marge"),
        ("_links", .object [("self", .object [("href", .text "/parents/2")])])]))] },
    { method := "PATCH"
      uri := "http://host/parents/2"
      replies := [.ok (answering (.object [("name", .text "Marge")]))] }]

def namedParents (script : Script) : Repository schema Ty.parent :=
  { parents script with naturalId := some { path := "findByName", name := "name", value := Person.name } }

def marge : Person := { name := "Marge" }

/-- A parent who has neither a number nor an address is saved, and the server has the name. -/
theorem marge_saved :
    let r := namedParents misspelled
    let s₁ := r.collection.service.noted {} (r.creation marge)
    ComparedByIdentity (schema.entity Ty.parent) r.identity "id" ∧
    r.Answered marge {} taken ∧ taken.status = Status.conflict ∧
    ∃ saved s' uri s₂ b, (r.save marge).after {} = (.ok saved, s') ∧
      (r.recover marge taken.refusal).after s₁ = (.ok uri, s₂) ∧ r.Sees marge s₁ uri b s₂ ∧
      (schema.entity Ty.parent).AgreeBut "id" b marge := by
  intro r s₁
  have compared : ComparedByIdentity (schema.entity Ty.parent) r.identity "id" :=
    Person.comparedByIdentity "Parent" "/parents" parentAccessors
  have answered : r.Answered marge {} taken := ⟨rfl, by decide +kernel⟩
  have hok : ((r.save marge).after {}).1.isOk = true := by decide +kernel
  rcases hsave : (r.save marge).after {} with ⟨e | saved, s'⟩
  · rw [hsave] at hok
    cases hok
  obtain ⟨-, hstored, -⟩ := r.recovered_iff marge {} taken "id" compared answered rfl
  obtain ⟨uri, s₂, b, hrecover, hsees, hagrees⟩ := hstored saved s' hsave
  refine ⟨compared, answered, rfl, saved, s', uri, s₂, b, rfl, hrecover, hsees, hagrees ?_⟩
  rintro (⟨_, _, -, hi, -⟩ | ⟨-, u, v, -, hv, -⟩)
  · cases hi
  · cases hv

/-- A server with a parent of another name, who would be renamed if that was asked for. -/
def namesake : Script :=
  [ { method := "POST"
      uri := "http://host/parents"
      replies := [.ok taken] },
    { method := "GET"
      uri := "http://host/parents/1"
      replies := [.ok (answering (.object [("id", Json.ofNat 1), ("name", .text "Bart")]))] },
    { method := "PATCH"
      uri := "http://host/parents/1"
      replies := [.ok (answering (.object [("id", Json.ofNat 1), ("name", .text "Homer")]))] }]

/-- **A lost update**: a parent is saved with success, but the server was not asked for a change, and the parent that it
has goes by another name. -/
theorem rename_lost :
    let r := parents namesake
    let s₁ := r.collection.service.noted {} (r.creation homer)
    r.Answered homer {} taken ∧ taken.status = Status.conflict ∧
    ∃ saved s' uri s₂ b, (r.save homer).after {} = (.ok saved, s') ∧ s'.patches = [] ∧
      (r.recover homer taken.refusal).after s₁ = (.ok uri, s₂) ∧ r.Sees homer s₁ uri b s₂ ∧
      ¬ (schema.entity Ty.parent).AgreeBut "id" b homer := by
  intro r s₁
  have answered : r.Answered homer {} taken := ⟨rfl, by decide +kernel⟩
  have hfound : ((r.locate? homer).after s₁).1 = .ok (some 0) := by decide +kernel
  obtain ⟨p, hp, hfinds⟩ := Repository.finds_of_ok hfound
  have hself : (((r.locate? homer).after s₁).2.proxy? 0).map (·.2.selfUri) =
      some (some (base.append "/parents/1")) := by decide +kernel
  have hsame : (((r.locate? homer).after s₁).2.proxy? 0).map (fun
    | ⟨.parent, p⟩ => (p.content.name, Person.same p.content homer)
    | _ => ("", false)) = some ("Bart", true) := by decide +kernel
  rw [hp] at hself hsame
  obtain ⟨hname, hequal⟩ := Prod.mk.inj (Option.some.inj hsame)
  have hrecover := Repository.after_recover_of_equal taken.refusal hfinds (Option.some.inj hself) hequal
  have hpatches : ((r.save homer).after {}).2.patches.length = 0 := by decide +kernel
  have hok : ((r.save homer).after {}).1.isOk = true := by decide +kernel
  rcases hsave : (r.save homer).after {} with ⟨e | saved, s'⟩
  · rw [hsave] at hok
    cases hok
  rw [hsave] at hpatches
  refine ⟨answered, rfl, saved, s', _, _, p.content, rfl, List.length_eq_zero_iff.1 hpatches, hrecover,
    ⟨p, _, hfinds, Option.some.inj hself, .inl ⟨rfl, rfl⟩⟩, fun hagrees => ?_⟩
  have hnames := (Person.agreeBut_iff "Parent" "/parents" parentAccessors p.content homer).1 hagrees
  rw [hname] at hnames
  revert hnames
  decide

end Family
end Hypermedia
