import Hypermedia.Text.Composition
import Mathlib.Data.List.Basic
/-!
# Characters that composition leaves alone

A text is its own composed form when none of its characters has parts, is a mark, or composes with the character before
it (`composed_of_inert`).  The characters of ASCII are such characters (`isInert_of_ascii`).
-/
namespace Hypermedia
namespace Text

variable {c : Char}

/-- **A character that composition leaves alone**, whatever stands before it. -/
structure IsInert (c : Char) : Prop where
  decompose : decompose c = [c]
  markClass : markClass c = 0
  compose? : ∀ a, compose? a c = none

/-! ## The tables -/

theorem markClass_of_apart (h : ∀ r ∈ markRuns, c.toNat < r.first ∨ r.last < c.toNat) : markClass c = 0 := by
  unfold markClass
  rw [List.find?_eq_none.2]
  · rfl
  · intro r hr
    have := h r hr
    simp only [Bool.and_eq_true, decide_eq_true_eq, not_and]
    omega

/-- What is the last part of no character and no sound of the Hangul script composes with nothing before it. -/
theorem compose?_of_apart (hlast : ∀ s ∈ composites, s.last ≠ c.toNat) (hsound : c.toNat < 0x1161 ∨ 0x11c3 ≤ c.toNat)
    (a : Char) : compose? a c = none := by
  have hsyllable : syllable? a.toNat c.toNat = none := by
    unfold syllable?
    rw [if_neg (by simp only [Bool.and_eq_true, decide_eq_true_eq]; omega),
      if_neg (by simp only [Bool.and_eq_true, decide_eq_true_eq]; omega)]
  have hnone : composites.filter (·.last == c.toNat) = [] := by
    rw [List.filter_eq_nil_iff]
    intro s hs
    simpa using hlast s hs
  unfold compose?
  rw [hsyllable, hnone]
  rfl

theorem baseIn?_of_not_mem : ∀ {cs : List Char}, c ∉ cs → baseIn? c cs = none
  | [], _ => rfl
  | [_], _ => rfl
  | a :: b :: cs, h => by
    have hb : (b == c) = false := by
      rw [beq_eq_false_iff_ne]
      rintro rfl
      exact h (by simp)
    rw [baseIn?, hb]
    exact baseIn?_of_not_mem fun hm => h (List.mem_cons_of_mem a (List.mem_cons_of_mem b hm))

section

-- Unfolded here, the table would be compared entry by entry.
attribute [local irreducible] composites

theorem decomposeWith_succ (fuel : Nat) (c : Char) : decomposeWith (fuel + 1) c =
    match composites.findSome? fun s => (baseIn? c s.pairs.toList).map fun a => (a, Char.ofNat s.last) with
    | some (a, m) => m :: decomposeWith fuel a
    | none => [c] := rfl

end

/-- What stands in no pair and is no syllable has no parts. -/
theorem decompose_of_apart (hpairs : ∀ s ∈ composites, c ∉ s.pairs.toList)
    (hsyllable : c.toNat < 0xac00 ∨ 0xd7a4 ≤ c.toNat) : decompose c = [c] := by
  have hnone : (composites.findSome? fun s => (baseIn? c s.pairs.toList).map fun a => (a, Char.ofNat s.last)) =
    none := by
    rw [List.findSome?_eq_none_iff]
    intro s hs
    rw [baseIn?_of_not_mem (hpairs s hs), Option.map_none]
  have hsyllable : ¬ (0xac00 ≤ c.toNat && c.toNat < 0xd7a4) = true := by
    simp only [Bool.and_eq_true, decide_eq_true_eq]
    omega
  have hwith : decomposeWith 3 c = [c] := by rw [decomposeWith_succ, hnone]
  rw [decompose, if_neg hsyllable, hwith]
  exact ite_self _

theorem isInert_of_ascii (h : c.toNat < 0x80) : IsInert c where
  decompose := by rw [decompose, if_pos (by omega)]
  markClass := by
    have hruns : ∀ r ∈ markRuns, 0x80 ≤ r.first := by decide +kernel
    exact markClass_of_apart fun r hr => .inl (Nat.lt_of_lt_of_le h (hruns r hr))
  compose? := by
    have hlast : ∀ s ∈ composites, 0x80 ≤ s.last := by decide +kernel
    exact compose?_of_apart (fun s hs => Nat.ne_of_gt (Nat.lt_of_lt_of_le h (hlast s hs))) (.inl (by omega))

/-! ## Texts -/

variable {cs : List Char}

theorem composeFrom_of_inert : ∀ {cs : List Char} (letter : Char), (∀ c ∈ cs, IsInert c) →
    composeFrom letter [] cs = letter :: cs
  | [], _, _ => rfl
  | c :: cs, letter, h => by
    obtain ⟨hc, hcs⟩ := List.forall_mem_cons.1 h
    rw [composeFrom]
    simp only [List.head?_nil, Option.all_none, if_true, hc.compose?, hc.markClass, beq_self_eq_true, List.reverse_nil,
      composeFrom_of_inert c hcs, List.singleton_append]

/-- **A text of characters that composition leaves alone is composed.** -/
theorem composed_of_inert (h : ∀ c ∈ cs, IsInert c) : composed cs = cs := by
  have hparts : cs.flatMap decompose = cs := by
    rw [List.flatMap_congr fun c hc => (h c hc).decompose, List.flatMap_singleton']
  have horder : ∀ {cs : List Char}, (∀ c ∈ cs, IsInert c) → orderMarks cs = cs := by
    intro cs h
    induction cs with
    | nil => rfl
    | cons c cs ih =>
      obtain ⟨hc, hcs⟩ := List.forall_mem_cons.1 h
      rw [orderMarks, hc.markClass, ih hcs]
      rfl
  unfold composed
  rw [hparts, horder h]
  rcases cs with _ | ⟨c, cs⟩
  · rfl
  · obtain ⟨hc, hcs⟩ := List.forall_mem_cons.1 h
    rw [composeMarks, hc.markClass]
    exact composeFrom_of_inert c hcs

end Text
end Hypermedia
