import Hypermedia.Configuration
/-!
# What is known about entity types

A type can be prepared when its accessors are declared without a clash and its type information fits it, and then its
resolver is that of the type information (`Configuration.metadata_eq_ok`).
-/
namespace Hypermedia

variable {S : Schema} {κ α : Type}

namespace TypeInfo

/-- **Type information fits a type** if it has subtypes or a resolver and not both, and all its subtypes are accepted by
the type and have collections. -/
structure Fits (info : TypeInfo) (e : EntityType κ α) : Prop where
  one : info.subtypes = [] ↔ info.resolver ≠ none
  accepted : ∀ s ∈ info.subtypes, e.accepts s.kind = true
  placed : ∀ s ∈ info.subtypes, s.path ≠ none

variable {info : TypeInfo} {e : EntityType κ α}

theorem subtypeFault?_eq_none_iff {declared : Descriptor} {accepts : String → Bool} {s : Descriptor} :
    subtypeFault? declared accepts s = none ↔ accepts s.kind = true ∧ s.path ≠ none := by
  unfold subtypeFault?
  cases accepts s.kind <;> cases s.path <;> simp

theorem fault?_eq_none_iff : info.fault? e.descriptor e.accepts = none ↔ info.Fits e := by
  have hone : (info.subtypes.isEmpty == info.resolver.isNone) = false ↔
    (info.subtypes = [] ↔ info.resolver ≠ none) := by
    cases info.subtypes <;> cases info.resolver <;> simp
  unfold fault?
  by_cases hbeq : (info.subtypes.isEmpty == info.resolver.isNone) = true
  · rw [if_pos hbeq]
    constructor
    · intro h
      cases h
    · intro h
      exact absurd (hone.2 h.one) (by rw [hbeq]; decide)
  · rw [if_neg hbeq, List.findSome?_eq_none_iff]
    simp only [subtypeFault?_eq_none_iff]
    constructor
    · intro h
      exact ⟨hone.1 (Bool.eq_false_iff.2 hbeq), fun s hs => (h s hs).1, fun s hs => (h s hs).2⟩
    · intro h s hs
      exact ⟨h.accepted s hs, h.placed s hs⟩

end TypeInfo

namespace Configuration

/-- What is known about a type depends on the type information that is registered, and on nothing else of a
configuration. -/
theorem metadata_congr {c c' : Configuration S} (h : c'.typeInfos = c.typeInfos) (t : S.Ty) :
    c'.metadata t = c.metadata t := by
  unfold metadata typeInfo?
  rw [h]

/-- **What is known about a type**: its accessors, and the resolver of type information that fits it. -/
theorem metadata_eq_ok {c : Configuration S} {t : S.Ty} {m : Metadata S} (h : c.metadata t = .ok m) :
    S.table t = .ok m.table ∧ m.resolver = (c.typeInfo? t).map TypeInfo.resolverToUse ∧
      ∀ info, c.typeInfo? t = some info → info.Fits (S.entity t) := by
  unfold metadata at h
  rcases htable : S.table t with e | table
  · rw [htable] at h
    cases h
  rcases hinfo : c.typeInfo? t with _ | info
  · simp only [htable, hinfo, resolverOf, bind, Except.bind] at h
    cases h
    exact ⟨rfl, rfl, fun info h => by cases h⟩
  · simp only [htable, hinfo, resolverOf, bind, Except.bind] at h
    rcases hfault : info.fault? (S.entity t).descriptor (S.entity t).accepts with _ | fault
    · simp only [hfault] at h
      cases h
      refine ⟨rfl, rfl, fun info' h => ?_⟩
      cases h
      exact TypeInfo.fault?_eq_none_iff.1 hfault
    · simp only [hfault] at h
      cases h

end Configuration
end Hypermedia
