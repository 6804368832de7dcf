import Hypermedia.Batch
import Hypermedia.Family.Schema
import Hypermedia.Proofs.Json.Fields
import Hypermedia.Proofs.Reading
/-!
# Batches that are written and read

The kind of an entity is put behind its own fields, so that taking it out again leaves them as they were.  Entities that
can be read under their kinds come back from a batch in order and with these kinds, without their addresses; and
whatever document is read as a batch, each of its members is read under the kind that it names, or else the declared
one, and the declared type accepts that kind (`Batch.keeps_entities`).
-/
namespace Hypermedia

open Json (Fields)

variable {κ α : Type}

/-- **The second content is the first one without its address.** -/
structure EntityType.Unaddressed (e : EntityType κ α) (a b : α) : Prop where
  blank : e.Blank b
  same : a = b ∨ ∃ slot u, e.slot = some slot ∧ a = slot.put b u

theorem EntityType.Unaddressed.contentKind_eq {e : EntityType κ α} {a b : α} (h : e.Unaddressed a b) :
    e.contentKind b = e.contentKind a := by
  rcases h.same with rfl | ⟨slot, u, hslot, rfl⟩
  · rfl
  · rw [e.contentKind_put slot hslot]

namespace Batch

/-! ## Collecting -/

/-- Entities that are pushed one after another are collected like entities that come at once. -/
theorem foldl_push : ∀ (as : List α) (b : Batch α), as.foldl push b = b.extend as
  | [], b => by simp [extend]
  | a :: as, b => by
    rw [List.foldl_cons, foldl_push as]
    simp [push, extend]

/-! ## Members -/

/-- The kind under which a member of a batch is read: the one that it names, or else the declared one. -/
def kindOf (declared : String) (v : Json) : String :=
  match v.field? kindKey with
  | some (.text kind) => kind
  | _ => declared

/-- What is read of a member: everything but its kind. -/
def untagged : Json → Json
  | .object fields => .object (Fields.extract fields kindKey).2
  | v => v

theorem untag_eq (declared : String) (v : Json) : untag declared v = (kindOf declared v, untagged v) := by
  rcases v with _ | _ | _ | _ | _ | fields
  case object =>
    have htag : (Fields.extract fields kindKey).1 = Fields.find? fields kindKey := Fields.fst_extract fields
    unfold untag kindOf untagged Json.field?
    simp only [← htag]
    rcases Fields.extract fields kindKey with ⟨_ | ⟨_ | _ | _ | _ | _ | _⟩, rest⟩ <;> rfl
  all_goals rfl

/-- **Only its kind is missing from what is read of a member.** -/
theorem field?_untagged {v : Json} (distinct : v.Distinct) (k : String) :
    (untagged v).field? k = if k = kindKey then none else v.field? k := by
  cases distinct with
  | object hkeys _ => exact Fields.find?_extract hkeys
  | null => exact (ite_self _).symm
  | bool b => exact (ite_self _).symm
  | number n => exact (ite_self _).symm
  | text s => exact (ite_self _).symm
  | array _ => exact (ite_self _).symm

variable {e : EntityType κ α} {v : Json} {a b : α}

/-- A member of a batch is read as an entity, under a kind that the type accepts. -/
structure Reads (e : EntityType κ α) (v : Json) (a : α) : Prop where
  accepted : e.accepts (kindOf e.kind v) = true
  decoded : e.decode (kindOf e.kind v) (untagged v) = .ok a

theorem decodeMember_eq (e : EntityType κ α) (v : Json) :
    decodeMember e v =
      if e.accepts (kindOf e.kind v) then e.decode (kindOf e.kind v) (untagged v)
      else .error (.foreignKind (kindOf e.kind v) e.kind) := by
  unfold decodeMember
  rw [untag_eq]

theorem decodeMember_eq_ok_iff : decodeMember e v = .ok a ↔ Reads e v a := by
  rw [decodeMember_eq]
  by_cases h : e.accepts (kindOf e.kind v) = true
  · rw [if_pos h]
    exact ⟨fun ha => ⟨h, ha⟩, fun ha => ha.decoded⟩
  · rw [if_neg h]
    exact ⟨nofun, fun ha => absurd ha.accepted h⟩

/-- **An entity that can be read back**: its document is an object that names no kind, and is read under the entity's
own kind, which the type accepts, as the entity without its address. -/
structure Fit (e : EntityType κ α) (a : α) : Prop where
  accepted : e.accepts (e.contentKind a) = true
  same : ∃ fields b, e.encode a = .ok (.object fields) ∧ kindKey ∉ Fields.keys fields ∧
    e.decode (e.contentKind a) (.object fields) = .ok b ∧ (a = b ∨ ∃ slot u, e.slot = some slot ∧ a = slot.put b u)

/-- **A member that is written is read as the entity without its address.** -/
theorem Fit.member (h : Fit e a) : ∃ v b, tagged e a = .ok v ∧ Reads e v b ∧ e.Unaddressed a b := by
  obtain ⟨fields, b, hfields, hfresh, hb, hsame⟩ := h.same
  have hextract := Fields.extract_append (.text (e.contentKind a)) hfresh
  have hkind : kindOf e.kind (.object (fields ++ [(kindKey, .text (e.contentKind a))])) = e.contentKind a := by
    unfold kindOf Json.field?
    simp only [← Fields.fst_extract, hextract]
  refine ⟨.object (fields ++ [(kindKey, .text (e.contentKind a))]), b, ?_, ⟨?_, ?_⟩,
    EntityType.blank_of_decode hb, hsame⟩
  · unfold tagged
    rw [hfields]
    simp only [bind, Except.bind, Fields.put_of_not_mem _ hfresh]
    rfl
  · rw [hkind, h.accepted]
  · rw [hkind]
    simp only [untagged, hextract]
    exact hb

theorem taggedEach_eq_ok : ∀ {as : List α} {vs : List Json}, List.Forall₂ (fun a v => tagged e a = .ok v) as vs →
    taggedEach e as = .ok vs
  | [], _, h => by
    cases h
    rfl
  | a :: as, _, h => by
    cases h with
    | cons ha has =>
      rw [taggedEach, ha, taggedEach_eq_ok has]
      rfl

/-! ## What a batch holds -/

/-- The document of an entity in a batch: its own fields, and its kind. -/
def Member (e : EntityType κ α) (a : α) (v : Json) : Prop :=
  ∃ fields, e.encode a = .ok (.object fields) ∧ v = .object (Fields.put fields kindKey (.text (e.contentKind a)))

theorem tagged_eq_ok_iff : tagged e a = .ok v ↔ Member e a v := by
  unfold tagged
  constructor
  · intro h
    rcases hdocument : e.encode a with reason | _ | _ | _ | _ | _ | fields <;> rw [hdocument] at h <;> cases h
    exact ⟨fields, hdocument, rfl⟩
  · rintro ⟨fields, hfields, rfl⟩
    rw [hfields]
    rfl

theorem taggedEach_eq_ok_iff : ∀ {as : List α} {vs : List Json},
    taggedEach e as = .ok vs ↔ List.Forall₂ (Member e) as vs
  | [], vs => by simp [taggedEach, eq_comm]
  | a :: as, vs => by
    refine ⟨fun h => ?_, fun h => taggedEach_eq_ok (h.imp fun _ _ => tagged_eq_ok_iff.2)⟩
    unfold taggedEach at h
    rcases hv : tagged e a with err | v <;> rw [hv] at h
    · cases h
    · rcases hvs : taggedEach e as with err | vs' <;> rw [hvs] at h
      · cases h
      · cases h
        exact .cons (tagged_eq_ok_iff.1 hv) (taggedEach_eq_ok_iff.1 hvs)

/-- **A document that holds the entities of a batch**, in order. -/
def Holds (e : EntityType κ α) (body : Json) (batch : List α) : Prop :=
  ∃ vs, body = .object [("entities", .array vs)] ∧ List.Forall₂ (Member e) batch vs

variable {batch : List α} {body : Json}

theorem encode_eq_ok_iff : encode e batch = .ok body ↔ Holds e body batch := by
  unfold encode Holds
  constructor
  · intro h
    rcases hvs : taggedEach e batch with err | vs <;> rw [hvs] at h
    · cases h
    · cases h
      exact ⟨vs, rfl, taggedEach_eq_ok_iff.1 hvs⟩
  · rintro ⟨vs, rfl, hvs⟩
    rw [taggedEach_eq_ok_iff.2 hvs]
    rfl

theorem exists_members : ∀ {batch : List α}, (∀ a ∈ batch, ∃ fields, e.encode a = .ok (.object fields)) →
    ∃ vs, List.Forall₂ (Member e) batch vs
  | [], _ => ⟨[], .nil⟩
  | a :: as, h => by
    obtain ⟨⟨fields, hfields⟩, hrest⟩ := List.forall_mem_cons.1 h
    obtain ⟨vs, hvs⟩ := exists_members hrest
    exact ⟨_, .cons ⟨fields, hfields, rfl⟩ hvs⟩

/-- **A batch can be written if the document of each of its entities is an object.** -/
theorem exists_holds_iff :
    (∃ body, Holds e body batch) ↔ ∀ a ∈ batch, ∃ fields, e.encode a = .ok (.object fields) := by
  constructor
  · rintro ⟨body, vs, -, hvs⟩
    induction hvs with
    | nil => simp
    | cons hv _ ih =>
      obtain ⟨fields, hfields, -⟩ := hv
      exact List.forall_mem_cons.2 ⟨⟨fields, hfields⟩, ih⟩
  · intro h
    obtain ⟨vs, hvs⟩ := exists_members h
    exact ⟨.object [("entities", .array vs)], vs, rfl, hvs⟩

/-! ## What is read -/

theorem members_encoded (vs : List Json) : membersDecoder.decode (.object [("entities", .array vs)]) = .ok vs := by
  have hany : Json.Decoder.each Json.Decoder.any vs = .ok vs := by
    rw [Json.Decoder.each_eq_ok_iff, List.forall₂_same]
    exact fun _ _ => rfl
  simp only [membersDecoder, Json.RecordDecoder.decode, Json.RecordDecoder.readFields, List.find?_cons,
    Json.FieldDecoder.defaulted, beq_self_eq_true, Json.Decoder.list, hany]
  rfl

theorem decode_eq_ok_iff {bs : List α} :
    decode e v = .ok bs ↔ ∃ members, membersDecoder.decode v = .ok members ∧ List.Forall₂ (Reads e) members bs := by
  have hreads : ∀ {members : List Json}, Json.Decoder.each (decodeMember e) members = .ok bs ↔
      List.Forall₂ (Reads e) members bs := by
    intro members
    rw [Json.Decoder.each_eq_ok_iff]
    exact ⟨fun h => h.imp fun _ _ => decodeMember_eq_ok_iff.1, fun h => h.imp fun _ _ => decodeMember_eq_ok_iff.2⟩
  unfold decode
  rcases hv : membersDecoder.decode v with err | members
  · exact ⟨nofun, nofun⟩
  · refine ⟨fun h => ⟨members, rfl, hreads.1 h⟩, ?_⟩
    rintro ⟨members', hmembers, hbs⟩
    rw [Except.ok.injEq] at hmembers
    rw [hmembers]
    exact hreads.2 hbs

/-- **A batch keeps every entity and its kind.**  Entities that can be read back are written as one batch, and this
batch is read as the same entities in the same order, with their kinds and without their addresses.  Whatever is read as
a batch, its members are read one by one, each under the kind that it names or else the declared one, and only if the
declared type accepts that kind; what is read of a member lacks the kind and no other field.  Nothing is read when one
of them names a kind that the type does not accept, and that kind is the reason when all members before it can be
read. -/
theorem keeps_entities (e : EntityType κ α) :
    (∀ batch : List α, (∀ a ∈ batch, Fit e a) → ∃ v bs, encode e batch = .ok v ∧ decode e v = .ok bs ∧
      List.Forall₂ (fun a b => e.Unaddressed a b ∧ e.contentKind b = e.contentKind a) batch bs) ∧
    (∀ v bs, decode e v = .ok bs ↔
      ∃ members, membersDecoder.decode v = .ok members ∧ List.Forall₂ (Reads e) members bs) ∧
    (∀ m : Json, m.Distinct → ∀ k, (untagged m).field? k = if k = kindKey then none else m.field? k) ∧
    ∀ v members, membersDecoder.decode v = .ok members → ∀ before m behind, members = before ++ m :: behind →
      e.accepts (kindOf e.kind m) = false →
        (∃ err, decode e v = .error err) ∧
        ((∀ m' ∈ before, ∃ b, Reads e m' b) → decode e v = .error (.foreignKind (kindOf e.kind m) e.kind)) := by
  refine ⟨fun batch fit => ?_, fun v bs => decode_eq_ok_iff, fun m distinct => field?_untagged distinct, ?_⟩
  · have heach : ∀ batch : List α, (∀ a ∈ batch, Fit e a) → ∃ vs bs,
        List.Forall₂ (fun a v => tagged e a = .ok v) batch vs ∧ List.Forall₂ (Reads e) vs bs ∧
          List.Forall₂ (fun a b => e.Unaddressed a b ∧ e.contentKind b = e.contentKind a) batch bs := by
      intro batch fit
      induction batch with
      | nil => exact ⟨[], [], .nil, .nil, .nil⟩
      | cons a as ih =>
        obtain ⟨hfirst, hrest⟩ := List.forall_mem_cons.1 fit
        obtain ⟨v, b, hv, hreads, hsame⟩ := hfirst.member
        obtain ⟨vs, bs, hvs, hall, hsames⟩ := ih hrest
        exact ⟨v :: vs, b :: bs, .cons hv hvs, .cons hreads hall, .cons ⟨hsame, hsame.contentKind_eq⟩ hsames⟩
    obtain ⟨vs, bs, hvs, hreads, hsame⟩ := heach batch fit
    refine ⟨.object [("entities", .array vs)], bs, ?_, decode_eq_ok_iff.2 ⟨vs, members_encoded vs, hreads⟩, hsame⟩
    unfold encode
    rw [taggedEach_eq_ok hvs]
    rfl
  · rintro v members hv before m behind rfl foreign
    have hm : decodeMember e m = .error (.foreignKind (kindOf e.kind m) e.kind) := by
      rw [decodeMember_eq, foreign]
      rfl
    refine ⟨?_, fun hbefore => ?_⟩
    · rcases hd : decode e v with err | bs
      · exact ⟨err, rfl⟩
      · obtain ⟨members, hmembers, hreads⟩ := decode_eq_ok_iff.1 hd
        rw [hv, Except.ok.injEq] at hmembers
        subst hmembers
        have htail := List.forall₂_drop_append bs before (m :: behind) hreads.flip
        obtain ⟨b, -, hread, -⟩ := List.forall₂_cons_right_iff.1 htail
        rw [hread.accepted] at foreign
        cases foreign
    · unfold decode
      rw [hv]
      exact Json.Decoder.each_append_of_error hm behind fun m' hm' =>
        (hbefore m' hm').imp fun b hb => decodeMember_eq_ok_iff.2 hb

end Batch

namespace Family

open Batch

variable {κ : Type} (declarations : List (Accessor κ))

/-- **Boys and girls can be told apart although their fields are the same.** -/
theorem Content.fit (c : Content) : Fit (Content.entity declarations) c := by
  have hfresh : kindKey ∉ ["name"] := by decide
  refine ⟨?_, [("name", .text c.named.name)], ?_⟩
  · cases c <;> rfl
  · rcases c with ⟨name, _ | u⟩ | ⟨name, _ | u⟩
    · exact ⟨.boy { name }, rfl, hfresh, rfl, .inl rfl⟩
    · exact ⟨.boy { name }, rfl, hfresh, rfl, .inr ⟨Content.slot, u, rfl, rfl⟩⟩
    · exact ⟨.girl { name }, rfl, hfresh, rfl, .inl rfl⟩
    · exact ⟨.girl { name }, rfl, hfresh, rfl, .inr ⟨Content.slot, u, rfl, rfl⟩⟩

/-- A boy whose address is known and a girl are written and read; behind a member that fits, a parent is refused. -/
theorem siblings_kept :
    let e : EntityType Ty Content := Content.entity []
    let siblings : List Content := [.boy { name := "Bart", uri := some { scheme := "http", path := "/boys/1" } },
      .girl { name := "Lisa" }]
    let bart : Json := .object [("name", .text "Bart")]
    let homer : Json := .object [("name", .text "Homer"), ("@class", .text "Parent")]
    (∀ a ∈ siblings, Fit e a) ∧
      (∃ v bs, encode e siblings = .ok v ∧ decode e v = .ok bs ∧ bs.map Content.kind = ["Boy", "Girl"]) ∧
    membersDecoder.decode (.object [("entities", .array [bart, homer])]) = .ok [bart, homer] ∧
      e.accepts (kindOf e.kind homer) = false ∧ Reads e bart (.boy { name := "Bart" }) ∧
      decode e (.object [("entities", .array [bart, homer])]) = .error (.foreignKind "Parent" "Content") := by
  intro e siblings bart homer
  have hfit : ∀ a ∈ siblings, Fit e a := fun a _ => Content.fit [] a
  have hforeign : e.accepts (kindOf e.kind homer) = false := by decide
  have hbart : Reads e bart (.boy { name := "Bart" }) := ⟨by decide, rfl⟩
  obtain ⟨hkept, -, -, hrefused⟩ := keeps_entities e
  refine ⟨hfit, ?_, members_encoded _, hforeign, hbart, ?_⟩
  · obtain ⟨v, bs, hv, hbs, hsame⟩ := hkept siblings hfit
    have hkinds : List.Forall₂ (· = ·) (siblings.map e.contentKind) (bs.map e.contentKind) := by
      rw [List.forall₂_map_left_iff, List.forall₂_map_right_iff]
      exact hsame.imp fun _ _ h => h.2.symm
    rw [List.forall₂_eq_eq_eq] at hkinds
    exact ⟨v, bs, hv, hbs, hkinds.symm⟩
  · refine (hrefused _ _ (members_encoded _) [bart] homer [] rfl hforeign).2 fun m hm => ?_
    rw [List.mem_singleton.1 hm]
    exact ⟨_, hbart⟩

end Family
end Hypermedia
