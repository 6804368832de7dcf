import Hypermedia.Proofs.Accessor.Table
import Hypermedia.Proxy.Handler
/-!
# Which handler runs

A chain fits a table exactly if each declared accessor has one claimant, and otherwise the first accessor with none or
with several is reported.  A single claimant is the handler that runs, wherever it stands, so that the order of a chain
that fits does not matter (`Chain.dispatched`).  The handlers of a proxy divide the accessors by their roles: of any
accessor one of them is the only claimant.
-/
namespace Hypermedia
namespace Chain

variable {κ ρ : Type} {c : Chain κ ρ} {a : Accessor κ} {h : Handler κ ρ}

/-! ## One accessor -/

theorem fault?_eq (c : Chain κ ρ) (a : Accessor κ) :
    c.fault? a = match c.filter (·.claims a) with
      | [] => some (.unhandled a.name)
      | [_] => none
      | hs => some (.contested a.name (hs.map (·.name))) := by
  unfold fault? claimants
  generalize c.filter (·.claims a) = hs
  rcases hs with _ | ⟨h, _ | ⟨h', hs⟩⟩ <;> rfl

theorem fault?_eq_none_iff : c.fault? a = none ↔ c.countP (·.claims a) = 1 := by
  rw [fault?_eq, List.countP_eq_length_filter]
  generalize c.filter (·.claims a) = hs
  rcases hs with _ | ⟨h, _ | ⟨h', hs⟩⟩ <;> simp

theorem fault?_eq_some_iff {fault : ProxyFault} : c.fault? a = some fault ↔
    (c.countP (·.claims a) = 0 ∧ fault = .unhandled a.name) ∨
      (2 ≤ c.countP (·.claims a) ∧ fault = .contested a.name ((c.filter (·.claims a)).map (·.name))) := by
  rw [fault?_eq, List.countP_eq_length_filter]
  generalize c.filter (·.claims a) = hs
  rcases hs with _ | ⟨h, _ | ⟨h', hs⟩⟩
  · simp [eq_comm (a := fault)]
  · simp
  · simp [eq_comm (a := fault)]

/-- **A single claimant is the handler that runs.** -/
theorem handler?_of_single (single : c.filter (·.claims a) = [h]) : c.handler? a = some h := by
  unfold handler?
  rw [← List.head?_filter, single, List.head?_cons]

theorem run_of_single (single : c.filter (·.claims a) = [h]) (unhandled : ρ) (args : List Json) :
    c.run unhandled a args = h.run a args := by
  unfold run
  rw [handler?_of_single single]

theorem single_of_perm {c' : Chain κ ρ} (hperm : c'.Perm c) (single : c.filter (·.claims a) = [h]) :
    c'.filter (·.claims a) = [h] :=
  List.perm_singleton.1 (single ▸ hperm.filter (·.claims a))

/-! ## Tables -/

theorem check_eq_ok_iff {table : AccessorTable κ} :
    c.check table = .ok () ↔ ∀ a ∈ table.accessors, c.countP (·.claims a) = 1 := by
  have hfind : table.accessors.findSome? c.fault? = none ↔ ∀ a ∈ table.accessors, c.countP (·.claims a) = 1 := by
    simp only [List.findSome?_eq_none_iff, fault?_eq_none_iff]
  rw [← hfind]
  unfold check
  cases table.accessors.findSome? c.fault? <;> simp

theorem check_eq_error_iff {table : AccessorTable κ} {e : Failure} : c.check table = .error e ↔
    ∃ before a after, table.accessors = before ++ a :: after ∧ (∀ b ∈ before, c.countP (·.claims b) = 1) ∧
      ∃ fault, c.fault? a = some fault ∧ e = .proxy table.owner fault := by
  have hfind : (∃ fault, table.accessors.findSome? c.fault? = some fault ∧ e = .proxy table.owner fault) ↔
      c.check table = .error e := by
    unfold check
    cases table.accessors.findSome? c.fault? <;> simp [eq_comm]
  rw [← hfind]
  simp only [List.findSome?_eq_some_iff, fault?_eq_none_iff]
  constructor
  · rintro ⟨fault, ⟨before, a, after, haccessors, ha, hbefore⟩, rfl⟩
    exact ⟨before, a, after, haccessors, hbefore, fault, ha, rfl⟩
  · rintro ⟨before, a, after, haccessors, hbefore, fault, ha, rfl⟩
    exact ⟨fault, ⟨before, a, after, haccessors, ha, hbefore⟩, rfl⟩

/-- **The handlers of a proxy divide the accessors by their roles.** -/
theorem countP_chain {S : Schema} (service : Service S) (t : S.Ty) (links : Links) (waited : Bool) (a : Accessor S.Ty) :
    (service.chain t links waited).countP (·.claims a) = 1 := by
  rcases a with ⟨name, _ | association | _⟩ <;> rfl

/-- **A chain that fits leaves no choice of the handler.**  It fits exactly if each declared accessor has one claimant;
otherwise the first one with none or with several is reported, with all its claimants in the order of the chain.  If it
fits, a declared accessor is run by its claimant in whatever order the handlers stand, and by no other.  The chain of a
proxy fits every table, and of every name, declared or not, one of its handlers is the only claimant. -/
theorem dispatched (c : Chain κ ρ) (table : AccessorTable κ) {S : Schema} (service : Service S) (t : S.Ty)
    (links : Links) (waited : Bool) :
    (c.check table = .ok () ↔ ∀ a ∈ table.accessors, c.countP (·.claims a) = 1) ∧
    (∀ e, c.check table = .error e ↔
      ∃ before a after, table.accessors = before ++ a :: after ∧ (∀ b ∈ before, c.countP (·.claims b) = 1) ∧
        (c.countP (·.claims a) = 0 ∧ e = .proxy table.owner (.unhandled a.name) ∨
          2 ≤ c.countP (·.claims a) ∧
            e = .proxy table.owner (.contested a.name ((c.filter (·.claims a)).map (·.name))))) ∧
    (c.check table = .ok () → ∀ a ∈ table.accessors, ∃ h ∈ c, ∀ c' : Chain κ ρ, c'.Perm c →
      c'.filter (·.claims a) = [h] ∧ c'.handler? a = some h ∧
        ∀ unhandled args, c'.run unhandled a args = h.run a args) ∧
    ∀ table' : AccessorTable S.Ty, (service.chain t links waited).check table' = .ok () ∧
      ∀ name, (service.chain t links waited).countP (·.claims (table'.lookup name)) = 1 := by
  refine ⟨check_eq_ok_iff, fun e => ?_, fun hcheck a ha => ?_,
    fun table' => ⟨check_eq_ok_iff.2 fun a _ => ?_, fun name => ?_⟩⟩
  · simp only [check_eq_error_iff, fault?_eq_some_iff, or_and_right, exists_or, and_assoc, exists_and_left,
      exists_eq_left]
  · have hone := check_eq_ok_iff.1 hcheck a ha
    rw [List.countP_eq_length_filter] at hone
    obtain ⟨h, single⟩ := List.length_eq_one_iff.1 hone
    have hmem : h ∈ c := (List.mem_filter.1 (single ▸ List.mem_singleton.2 rfl : h ∈ c.filter (·.claims a))).1
    refine ⟨h, hmem, fun c' hperm => ?_⟩
    have single' := single_of_perm hperm single
    exact ⟨single', handler?_of_single single', run_of_single single'⟩
  · exact countP_chain service t links waited a
  · exact countP_chain service t links waited (table'.lookup name)

end Chain

namespace Family

def ids : Handler Ty String := ⟨"ids", Accessor.isResourceId, fun _ _ => "ids"⟩

def others : Handler Ty String := ⟨"others", fun a => !a.isResourceId, fun _ _ => "others"⟩

def everything : Handler Ty String := ⟨"everything", fun _ => true, fun _ _ => "everything"⟩

theorem name_dispatched : ∃ table, AccessorTable.ofDeclarations schema.kind "Parent" parentAccessors = .ok table ∧
    Chain.check [ids, others] table = .ok () ∧
    Chain.run [others, ids] "unhandled" ⟨"getName", .property⟩ [] = "others" ∧
    Chain.check [ids, everything] table = .error (.proxy "Parent" (.contested "getUri" ["ids", "everything"])) := by
  obtain ⟨table, htable, haccessors, howner⟩ : ∃ table,
      AccessorTable.ofDeclarations schema.kind "Parent" parentAccessors = .ok table ∧
        table.accessors = parentAccessors ∧ table.owner = "Parent" := ⟨_, rfl, rfl, rfl⟩
  obtain ⟨hok, -, hrun, -⟩ :=
    Chain.dispatched [ids, others] table (service []) Ty.parent [] false
  obtain ⟨-, herror, -, -⟩ := Chain.dispatched [ids, everything] table (service []) Ty.parent [] false
  have hcheck : Chain.check [ids, others] table = .ok () := hok.2 (by rw [haccessors]; decide)
  obtain ⟨h, -, hperm⟩ := hrun hcheck ⟨"getName", .property⟩ (by rw [haccessors]; simp [parentAccessors])
  refine ⟨table, htable, hcheck, ?_, (herror _).2 ⟨[], ⟨"getUri", .resourceId⟩, parentAccessors.tail, ?_, by simp,
    .inr ⟨by decide, ?_⟩⟩⟩
  · rw [(hperm [others, ids] (.swap ids others [])).2.2, ← (hperm [ids, others] (.refl _)).2.2 "unhandled"]
    rfl
  · rw [haccessors]
    rfl
  · rw [howner]
    rfl

end Family
end Hypermedia
