import Hypermedia.Family.Schema
import Hypermedia.Proofs.Configuration.Metadata
import Hypermedia.Proofs.Href
import Hypermedia.Proofs.Reading
import Hypermedia.Proofs.Resolution.Below
import Hypermedia.Proofs.Service
import Mathlib.Data.List.Find
/-!
# Subtypes told by addresses

A type that lists its subtypes has the subtypes told by the addresses of resources: the first candidate counts whose
collection an address lies below, and without one the declared type does.  The list was checked when the type was
prepared, so nothing but the link of a resource to itself can be wrong if resources may have the declared kind
(`resolve_eq`, `first_match`, `kind_untold`).
-/
namespace Hypermedia

open Hypermedia.Action

variable {S : Schema} {t : S.Ty}

/-! ## Candidates -/

namespace Descriptor

/-- **A candidate collects an address** if it lies below the candidate's collection. -/
def Collects (base : Uri) (u : Uri) (c : Descriptor) : Prop := ∃ path ∈ c.path, base.LiesBelow path u

instance (base u : Uri) (c : Descriptor) : Decidable (c.Collects base u) :=
  inferInstanceAs (Decidable (∃ path ∈ c.path, base.LiesBelow path u))

/-- A candidate whose collection is a path alone. -/
def IsPlain (c : Descriptor) : Prop := ∀ path ∈ c.path, '?' ∉ path.toList

/-- Neither of two candidates has a collection within that of the other. -/
def Apart (base : Uri) (b c : Descriptor) : Prop :=
  ∀ p ∈ b.path, ∀ q ∈ c.path,
    ¬ base.collectionChars p <+: base.collectionChars q ∧ ¬ base.collectionChars q <+: base.collectionChars p

instance (base : Uri) (b c : Descriptor) : Decidable (Apart base b c) :=
  inferInstanceAs (Decidable (∀ p ∈ b.path, ∀ q ∈ c.path,
    ¬ base.collectionChars p <+: base.collectionChars q ∧ ¬ base.collectionChars q <+: base.collectionChars p))

/-- Candidates that are apart do not collect one address. -/
theorem Apart.not_collects {base u : Uri} {b c : Descriptor} (h : Apart base b c) (hb : b.Collects base u) :
    ¬ c.Collects base u := by
  rintro ⟨q, hq, hbelow⟩
  obtain ⟨p, hp, hbelow'⟩ := hb
  obtain ⟨hpq, hqp⟩ := h p hp q hq
  rcases List.prefix_or_prefix_of_prefix hbelow'.path hbelow.path with hfront | hfront
  · exact hpq hfront
  · exact hqp hfront

end Descriptor

/-- The first candidate that collects an address. -/
def Descriptor.first? (candidates : List Descriptor) (base u : Uri) : Option Descriptor :=
  candidates.find? fun c => decide (c.Collects base u)

/-- The kind of a resource with an address, or without one: the first candidate's that collects it, or else the declared
kind. -/
def Descriptor.kindAt (candidates : List Descriptor) (base : Uri) (declared : String) (u? : Option Uri) : String :=
  ((u?.bind (first? candidates base)).map (·.kind)).getD declared

namespace Descriptor

variable {candidates : List Descriptor} {base u : Uri}

theorem first?_append {before after : List Descriptor} {c : Descriptor} (none : ∀ b ∈ before, ¬ b.Collects base u)
    (collects : c.Collects base u) : first? (before ++ c :: after) base u = some c := by
  have hbefore : before.find? (fun b => decide (b.Collects base u)) = .none := by
    rw [List.find?_eq_none]
    intro b hb
    simpa using none b hb
  unfold first?
  rw [List.find?_append, hbefore, Option.none_or, List.find?_cons, decide_eq_true collects]

theorem first?_eq_none (none : ∀ c ∈ candidates, ¬ c.Collects base u) : first? candidates base u = .none := by
  unfold first?
  rw [List.find?_eq_none]
  intro c hc
  simpa using none c hc

/-- **Candidates that are apart may stand in any order.** -/
theorem first?_of_perm {candidates' : List Descriptor} (h : candidates'.Perm candidates)
    (apart : ∀ b ∈ candidates, ∀ c ∈ candidates, b ≠ c → Apart base b c) :
    first? candidates' base u = first? candidates base u := by
  refine (List.find?_eq_find?_of_perm h.symm fun b hb c hc => ?_).symm
  obtain ⟨hb, hcollects⟩ := hb
  obtain ⟨hc, hcollects'⟩ := hc
  by_contra hne
  exact (apart b hb c hc hne).not_collects (of_decide_eq_true hcollects) (of_decide_eq_true hcollects')

end Descriptor

/-- A resource is of the declared kind or of that of a candidate. -/
theorem Descriptor.kindAt_cases (candidates : List Descriptor) (base : Uri) (declared : String) (u? : Option Uri) :
    kindAt candidates base declared u? = declared ∨ ∃ c ∈ candidates, kindAt candidates base declared u? = c.kind := by
  unfold kindAt
  rcases hfind : u?.bind (first? candidates base) with _ | c
  · exact .inl rfl
  · obtain ⟨u, -, hc⟩ := Option.bind_eq_some_iff.1 hfind
    exact .inr ⟨c, List.mem_of_find?_eq_some hc, rfl⟩

/-- Candidates whose collections are apart may be listed in any order. -/
theorem Descriptor.kindAt_of_perm {candidates candidates' : List Descriptor} {base : Uri}
    (h : candidates'.Perm candidates)
    (apart : ∀ b ∈ candidates, ∀ c ∈ candidates, b ≠ c → Apart base b c) (declared : String) :
    kindAt candidates' base declared = kindAt candidates base declared := by
  have hfirst : first? candidates' base = first? candidates base := funext fun u => first?_of_perm h apart
  funext u?
  rw [kindAt, hfirst]
  rfl

namespace Resolver

/-- **The candidate that a resolver chooses** is the first that collects the address. -/
theorem candidate?_eq {base u : Uri} (root : base.IsRoot) (hu : u.Sound) {candidates : List Descriptor}
    (plain : ∀ c ∈ candidates, c.IsPlain) :
    candidate? base candidates u = Descriptor.first? candidates base u := by
  unfold candidate? Descriptor.first?
  refine List.find?_congr fun c hc => ?_
  rw [Bool.eq_iff_iff, decide_eq_true_iff]
  unfold Descriptor.Collects
  rcases hpath : c.path with _ | path
  · simp
  · simpa using root.below_iff (plain c hc path hpath) hu

/-- **A resolver that knows its candidates for subtypes** fails only over the link of the resource to itself. -/
theorem bySelfLink_of_known (context : ResolutionContext) {candidates : List Descriptor} {declared : Descriptor}
    (known : ∀ c ∈ candidates, context.isSubtype declared.kind c.kind = true) (links : Links) :
    bySelfLink candidates context declared links =
      (links.selfUri? context.base).map fun u? =>
        ((u?.bind (candidate? context.base candidates)).map (·.kind)).getD declared.kind := by
  unfold bySelfLink
  rcases links.selfUri? context.base with e | _ | u
  · rfl
  · rfl
  · simp only [bind, Except.bind, Except.map, Option.bind_some]
    rcases hfind : candidate? context.base candidates u with _ | c
    · rfl
    · exact if_pos (known c (List.mem_of_find?_eq_some hfind))

theorem bySelfLink_eq (context : ResolutionContext) (root : context.base.IsRoot) {candidates : List Descriptor}
    (plain : ∀ c ∈ candidates, c.IsPlain) {declared : Descriptor}
    (known : ∀ c ∈ candidates, context.isSubtype declared.kind c.kind = true) (links : Links) :
    bySelfLink candidates context declared links =
      (links.selfUri? context.base).map (Descriptor.kindAt candidates context.base declared.kind) := by
  rw [bySelfLink_of_known context known]
  rcases hself : links.selfUri? context.base with e | _ | u
  · rfl
  · rfl
  · unfold Descriptor.kindAt
    simp only [Except.map, Option.bind_some,
      candidate?_eq root (Links.sound_selfUri? root.sound root.web hself) plain]

end Resolver

/-! ## Types with subtypes -/

/-- **A type that is known by its kind**: no other type has it, and a resource of that kind has content of the type. -/
structure Schema.WellKnown (S : Schema) (t : S.Ty) : Prop where
  unique : ∀ t' : S.Ty, S.kind t' = S.kind t → t' = t
  accepts : (S.entity t).accepts (S.kind t) = true

/-- **A service that tells the subtypes of a type by their addresses**: the type can be prepared with a list of
candidates whose collections are paths below the root of the service. -/
structure Service.Tells (service : Service S) (t : S.Ty) (candidates : List Descriptor) : Prop where
  root : service.base.IsRoot
  known : S.WellKnown t
  prepared : ∃ m, service.configuration.metadata t = .ok m
  listed : ∃ info, service.configuration.typeInfo? t = some info ∧ info.resolver = none ∧ info.subtypes = candidates
  plain : ∀ c ∈ candidates, c.IsPlain

namespace Service

variable {service : Service S} {candidates : List Descriptor}

/-- What is known about a type that can be prepared: it resolves by address, and its candidates were checked. -/
theorem Tells.metadata (h : service.Tells t candidates) :
    ∃ m, service.configuration.metadata t = .ok m ∧ m.resolver = some (.bySelfLink candidates) ∧
      ∀ c ∈ candidates, (S.entity t).accepts c.kind = true ∧ c.path.isSome = true := by
  obtain ⟨info, hinfo, hresolver, rfl⟩ := h.listed
  obtain ⟨m, hm⟩ := h.prepared
  obtain ⟨-, hresolve, hfits⟩ := Configuration.metadata_eq_ok hm
  have fits := hfits info hinfo
  refine ⟨m, hm, ?_, fun c hc => ⟨fits.accepted c hc, Option.isSome_iff_ne_none.2 (fits.placed c hc)⟩⟩
  rw [hresolve, hinfo, Option.map_some, TypeInfo.resolverToUse, hresolver]
  rfl

/-- The type accepts the kind that an address tells. -/
theorem Tells.accepts_kindAt (h : service.Tells t candidates) (u? : Option Uri) :
    (S.entity t).accepts (Descriptor.kindAt candidates service.base (S.kind t) u?) = true := by
  obtain ⟨-, -, -, hchecked⟩ := h.metadata
  rcases Descriptor.kindAt_cases candidates service.base (S.kind t) u? with heq | ⟨c, hc, heq⟩
  · rw [heq]
    exact h.known.accepts
  · rw [heq]
    exact (hchecked c hc).1

/-- A type that is prepared is known to accept what it accepts. -/
theorem isSubtype_prepare (known : S.WellKnown t) (prepared : List S.Ty) {kind : String}
    (h : (S.entity t).accepts kind = true) :
    Configuration.isSubtype (Configuration.prepare prepared t) (S.kind t) kind = true := by
  have hmem : t ∈ Configuration.prepare prepared t := by
    unfold Configuration.prepare
    split
    · assumption
    · exact List.mem_cons_self
  unfold Configuration.isSubtype
  rw [Bool.or_eq_true]
  right
  rcases hfind : (Configuration.prepare prepared t).find? (S.kind · == S.kind t) with _ | t'
  · have hnone := List.find?_eq_none.1 hfind t hmem
    exact absurd (beq_self_eq_true _) hnone
  · obtain rfl := known.unique t' (eq_of_beq (List.find?_some hfind :))
    exact h

/-- **What the address of a resource tells**: in whatever order types were prepared, the kind depends on the address
alone. -/
theorem Tells.resolve_eq (h : service.Tells t candidates) (links : Links) (s : Traces S) :
    ((service.resolve t links).after s).1 =
      (links.selfUri? service.base).map (Descriptor.kindAt candidates service.base (S.kind t)) := by
  obtain ⟨m, hm, hresolver, hchecked⟩ := h.metadata
  have hknown : ∀ c ∈ candidates,
      Configuration.isSubtype (Configuration.prepare s.prepared t) (S.entity t).descriptor.kind c.kind = true :=
    fun c hc => isSubtype_prepare h.known s.prepared (hchecked c hc).1
  let context : ResolutionContext := ⟨service.base, Configuration.isSubtype (Configuration.prepare s.prepared t)⟩
  have hresolve := Resolver.bySelfLink_eq context h.root h.plain hknown links
  unfold resolve
  rw [after_bind_ok (service.after_metadata hm s), after_bind_ok (after_get _), after_ofOutcome, hresolver]
  unfold Configuration.resolve
  simp only
  rw [show service.configuration.base = service.base from rfl, hresolve]
  rcases links.selfUri? service.base with e | u?
  · rfl
  · exact if_pos (h.accepts_kindAt u?)

/-- **The first candidate counts** whose collection the address of a resource lies below; without one, or without an
address, the declared kind does.  The kind is one that the type accepts, only a link to itself that spells no address is
a failure, and candidates whose collections are apart may be listed in any order. -/
theorem first_match (h : service.Tells t candidates) (links : Links) (s : Traces S) :
    let result := ((service.resolve t links).after s).1
    (links.self? = none → result = .ok (S.kind t)) ∧
    (∀ l u, links.self? = some l → service.base.resolve l.expand = .ok u →
      (∀ before c after, candidates = before ++ c :: after → (∀ b ∈ before, ¬ b.Collects service.base u) →
        c.Collects service.base u → result = .ok c.kind) ∧
      ((∀ c ∈ candidates, ¬ c.Collects service.base u) → result = .ok (S.kind t))) ∧
    (∀ kind, result = .ok kind → (S.entity t).accepts kind = true) ∧
    (∀ e, result = .error e →
      ∃ l reason, links.self? = some l ∧ Uri.parse? l.expand = .error reason ∧ e = .invalidUri l.expand reason) ∧
    ((∀ b ∈ candidates, ∀ c ∈ candidates, b ≠ c → Descriptor.Apart service.base b c) →
      ∀ (service' : Service S) (candidates' : List Descriptor), service'.Tells t candidates' →
        service'.base = service.base → candidates'.Perm candidates →
          ∀ s', ((service'.resolve t links).after s').1 = result) := by
  intro result
  have hresult : result = (links.selfUri? service.base).map (Descriptor.kindAt candidates service.base (S.kind t)) :=
    h.resolve_eq links s
  refine ⟨fun hnone => ?_, fun l u hl hu => ?_, fun kind hkind => ?_, fun e he => ?_,
    fun apart service' candidates' h' hbase hperm s' => ?_⟩
  · rw [hresult, Links.selfUri?, hnone]
    rfl
  · have hself : links.selfUri? service.base = .ok (some u) := by
      rw [Links.selfUri?_eq hl, hu]
      rfl
    have hfirst : result = .ok (((Descriptor.first? candidates service.base u).map (·.kind)).getD (S.kind t)) := by
      rw [hresult, hself]
      rfl
    constructor
    · rintro before c after rfl hbefore hc
      rw [hfirst, Descriptor.first?_append hbefore hc]
      rfl
    · intro hno
      rw [hfirst, Descriptor.first?_eq_none hno]
      rfl
  · rw [hresult] at hkind
    rcases hself : links.selfUri? service.base with e | u?
    · rw [hself] at hkind
      cases hkind
    · rw [hself] at hkind
      cases hkind
      exact h.accepts_kindAt u?
  · rw [hresult] at he
    rcases hself : links.selfUri? service.base with e' | u?
    · rw [hself] at he
      cases he
      exact Links.selfUri?_error hself
    · rw [hself] at he
      cases he
  · rw [hresult, h'.resolve_eq links s', hbase, Descriptor.kindAt_of_perm hperm apart]

end Service

namespace Family

theorem isRoot_base : base.IsRoot where
  sound := Uri.sound_of_parse? (s := "http://host") (by decide +kernel)
  web := .inl rfl
  query := rfl
  fragment := rfl

theorem wellKnown_content : schema.WellKnown Ty.content where
  unique := by
    intro t h
    have hkind : t.entity.kind = "Content" := h
    cases t
    case content => rfl
    all_goals exact absurd hkind (by decide)
  accepts := by decide

/-- The service with the subtypes of contents in a list of its own. -/
def listing (subtypes : List Descriptor) : Service schema where
  configuration := { base, typeInfos := [("Content", { subtypes })] }
  transport := Script.transport []

theorem tells_listing {subtypes : List Descriptor} (plain : ∀ c ∈ subtypes, c.IsPlain)
    (prepared : ∃ m, (listing subtypes).configuration.metadata Ty.content = .ok m) :
    (listing subtypes).Tells Ty.content subtypes where
  root := isRoot_base
  known := wellKnown_content
  prepared := prepared
  listed := ⟨{ subtypes }, rfl, rfl, rfl⟩
  plain := plain

/-- A girl is told from a boy, whichever of them is listed first. -/
theorem girl_told :
    let links : Links := [⟨"self", "http://host/girls/7", false⟩]
    (listing [boys, girls]).Tells Ty.content [boys, girls] ∧
    (((listing [boys, girls]).resolve Ty.content links).after {}).1 = .ok "Girl" ∧
    (((listing [girls, boys]).resolve Ty.content links).after {}).1 = .ok "Girl" := by
  intro links
  have hplain : ∀ c ∈ [boys, girls], c.IsPlain := by
    unfold Descriptor.IsPlain
    decide +kernel
  have hplain' : ∀ c ∈ [girls, boys], c.IsPlain := by
    unfold Descriptor.IsPlain
    decide +kernel
  have htells : (listing [boys, girls]).Tells Ty.content [boys, girls] := tells_listing hplain ⟨_, rfl⟩
  have htells' : (listing [girls, boys]).Tells Ty.content [girls, boys] := tells_listing hplain' ⟨_, rfl⟩
  obtain ⟨-, hfound, -, -, hperm⟩ := Service.first_match htells links {}
  let u : Uri := { base with path := "/girls/7" }
  have hresult := (hfound _ u rfl (by decide +kernel)).1 [boys] girls [] rfl (by decide +kernel) (by decide +kernel)
  exact ⟨htells, hresult, (hperm (by decide +kernel) _ _ htells' rfl (List.Perm.swap _ _ _) {}).trans hresult⟩

/-- Two types of one kind.  The first one has subtypes. -/
@[reducible] def twins : Schema where
  Ty := Bool
  decEq := inferInstance
  Content _ := Named
  entity
    | true => { kidEntity Bool with accepts := ["Kid", boys.kind, girls.kind].contains }
    | false => Named.entity "Kid" none [] none

/-- **Kinds that are not told.**  Kids have a list of subtypes that is in order, but are not accepted as kids
themselves: one without a link to itself cannot be resolved.  Neither can a girl behind a type that has the kind of hers
and was prepared last; nor anything by a resolver that is used before its declared type was prepared. -/
theorem kind_untold :
    let links : Links := [⟨"self", "http://host/girls/7", false⟩]
    let twin : Service twins := { configuration := { base }, transport := Script.transport [] }
    let both : Traces twins := { prepared := [false, true] }
    ((∃ m, (service []).configuration.metadata Ty.kid = .ok m) ∧ (∀ c ∈ [boys, girls], c.IsPlain) ∧
      (((service []).resolve Ty.kid []).after {}).1 = .error (.configuration (.foreignResolution "Kid" "Kid"))) ∧
    ((∃ m, twin.configuration.metadata true = .ok m) ∧ (twins.entity true).accepts (twins.kind true) = true ∧
      ((twin.resolve true links).after both).1 = .error (.configuration (.notSubtype "Girl" "Kid"))) ∧
    Resolver.bySelfLink [girls] ⟨base, Configuration.isSubtype (S := schema) []⟩ (schema.entity Ty.content).descriptor
      links = .error (.configuration (.notSubtype "Girl" "Content")) := by
  intro links twin both
  refine ⟨⟨⟨_, rfl⟩, ?_, rfl⟩, ⟨⟨_, rfl⟩, by decide, ?_⟩, ?_⟩
  · unfold Descriptor.IsPlain
    decide +kernel
  · exact Outcome.failure?_eq_some.1 (by decide +kernel)
  · exact Outcome.failure?_eq_some.1 (by decide +kernel)

end Family
end Hypermedia
