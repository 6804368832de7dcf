import Hypermedia.Proofs.Repository.FailedFlush
/-!
# Entities that are handed over together

Entities that are handed over together are handed over one after the other, and the first failure ends it.  What was
handed over up to there is kept, in the batches that were accepted or in the queue; the entities behind it never reach
the queue (`failed_persistAll`, `second_parent_dropped`).  None are behind it as long as the queue has room for all of
them.
-/
namespace Hypermedia

open Buffered

variable {S : Schema} {t : S.Ty} (r : Repository S t)

namespace Repository

variable (b : Buffer (S.Content t)) (s : Traces S)

/-- Handing over an entity fails only when a batch is saved. -/
theorem maxSize_le_of_persist_error {a : S.Content t} {e : Failure} (h : ((r.persist a).after b s).1.1 = .error e) :
    b.maxSize ≤ b.queue.length + 1 := by
  rw [after_persist] at h
  by_cases hfull : b.maxSize ≤ b.queue.length + 1
  · exact hfull
  · rw [if_neg hfull] at h
    cases h

end Repository

namespace Work

variable (w : Work S (S.Content t)) {as : List (S.Content t)} {x : S.Content t}

/-- The repository after entities were handed over one after the other. -/
def hand (as : List (S.Content t)) : Work S (S.Content t) := w.calls r (as.map .persist)

theorem hand_cons (a : S.Content t) (as : List (S.Content t)) :
    w.hand r (a :: as) = (w.call r (.persist a)).hand r as := rfl

theorem hand_concat (a : S.Content t) (as : List (S.Content t)) :
    w.hand r (as ++ [a]) = (w.hand r as).call r (.persist a) := by
  unfold hand calls
  rw [List.map_append, List.foldl_append]
  rfl

theorem kept_hand (as : List (S.Content t)) : (w.hand r as).kept = w.kept ++ as := by
  unfold hand
  rw [kept_calls, List.flatMap_map]
  congr 1
  exact List.flatMap_singleton' as

/-- **An entity that is kept** waits in the queue, or was in a batch that was accepted. -/
def Keeps (w : Work S (S.Content t)) (x : S.Content t) : Prop :=
  x ∈ w.buffer.queue ∨ ∃ batch ∈ w.accepted, x ∈ batch

theorem keeps_iff : w.Keeps x ↔ x ∈ w.kept := by
  unfold Keeps kept
  rw [List.mem_append, List.mem_flatten, or_comm]

/-- As long as there is room, entities that are handed over wait behind the queue. -/
theorem buffer_hand : ∀ (as : List (S.Content t)) (w : Work S (S.Content t)),
    w.buffer.queue.length + as.length < w.buffer.maxSize →
      (w.hand r as).buffer = { w.buffer with queue := w.buffer.queue ++ as }
  | [], w, _ => by
    rw [List.append_nil]
    rfl
  | a :: as, w, h => by
    rw [List.length_cons] at h
    have hfirst : (w.call r (.persist a)).buffer = { w.buffer with queue := w.buffer.queue ++ [a] } := by
      show ((r.persist a).after w.buffer w.traces).1.2 = _
      rw [Repository.after_persist, if_neg (by omega)]
    have hrest := buffer_hand as (w.call r (.persist a)) (by
      rw [hfirst]
      show (w.buffer.queue ++ [a]).length + as.length < w.buffer.maxSize
      rw [List.length_append, List.length_singleton]
      omega)
    rw [hand_cons, hrest, hfirst, List.append_assoc]
    rfl

theorem persistAll_of_persist_error {a : S.Content t} {e : Failure} {b' : Buffer (S.Content t)} {s' : Traces S}
    (h : (r.persist a).after w.buffer w.traces = ((.error e, b'), s')) (as : List (S.Content t)) :
    (r.persistAll (a :: as)).after w.buffer w.traces = ((.error e, (w.hand r [a]).buffer), (w.hand r [a]).traces) := by
  have hb : (w.hand r [a]).buffer = b' := congrArg (·.1.2) h
  have hs : (w.hand r [a]).traces = s' := congrArg (·.2) h
  rw [Repository.after_persistAll_cons, h, hb, hs]

/-- **A failure ends handing over**: there is an entity that it comes from, and the entities before it were handed over
without one. -/
theorem persistAll_error : ∀ {as : List (S.Content t)} {w : Work S (S.Content t)} {e : Failure}
    {b' : Buffer (S.Content t)} {s' : Traces S}, (r.persistAll as).after w.buffer w.traces = ((.error e, b'), s') →
      ∃ front a rest, as = front ++ a :: rest ∧
        (r.persist a).after (w.hand r front).buffer (w.hand r front).traces = ((.error e, b'), s')
  | [], w, e, b', s', h => by cases h
  | a :: as, w, e, b', s', h => by
    rw [Repository.after_persistAll_cons] at h
    rcases ha : (r.persist a).after w.buffer w.traces with ⟨⟨e₁ | saved, b₁⟩, s₁⟩ <;> rw [ha] at h
    · cases h
      exact ⟨[], a, as, rfl, ha⟩
    · have hb : (w.call r (.persist a)).buffer = b₁ := congrArg (·.1.2) ha
      have hs : (w.call r (.persist a)).traces = s₁ := congrArg (·.2) ha
      have hrest : (r.persistAll as).after b₁ s₁ = ((.error e, b'), s') := by
        rcases has : (r.persistAll as).after b₁ s₁ with ⟨⟨e₂ | others, b₂⟩, s₂⟩ <;> simp only [has] at h
        · exact h
        · cases h
      rw [← hb, ← hs] at hrest
      obtain ⟨front, x, rest, rfl, hx⟩ := persistAll_error hrest
      exact ⟨a :: front, x, rest, rfl, hx⟩

end Work

namespace Repository

/-- **A failure loses the entities behind it.**  When handing over entities together fails, it fails at one of them.
The batches that were accepted and the queue behind them are the queue before and the entities up to that one, in order;
nothing is kept of the entities behind it, so that nothing is lost just when they were kept before them.  There are none
if the queue had room for all. -/
theorem failed_persistAll {b b' : Buffer (S.Content t)} {s s' : Traces S} {as : List (S.Content t)} {e : Failure}
    (failed : (r.persistAll as).after b s = ((.error e, b'), s')) :
    ∃ front a rest, as = front ++ a :: rest ∧
      let before := Work.hand r { buffer := b, traces := s } front
      let w := Work.hand r { buffer := b, traces := s } (front ++ [a])
      ((r.persist a).after before.buffer before.traces).1.1 = .error e ∧ w.buffer = b' ∧ w.traces = s' ∧
      w.accepted.flatten ++ w.buffer.queue = b.queue ++ front ++ [a] ∧
      ((∀ x ∈ b.queue ++ as, w.Keeps x) ↔ ∀ x ∈ rest, x ∈ b.queue ++ front ++ [a]) ∧
      (b.queue.length + as.length ≤ b.maxSize → rest = []) := by
  obtain ⟨front, a, rest, rfl, hfails⟩ :=
    Work.persistAll_error r (w := { buffer := b, traces := s }) failed
  refine ⟨front, a, rest, rfl, ?_⟩
  intro before w
  have hw : w = before.call r (.persist a) := Work.hand_concat r _ a front
  have hkept : w.kept = b.queue ++ front ++ [a] := by
    rw [Work.kept_hand, List.append_assoc]
    rfl
  refine ⟨congrArg (·.1.1) hfails, ?_, ?_, hkept, ?_, fun hroom => ?_⟩
  · rw [hw]
    exact congrArg (·.1.2) hfails
  · rw [hw]
    exact congrArg (·.2) hfails
  · simp only [Work.keeps_iff, hkept]
    constructor
    · intro h x hx
      exact h x (by simp [hx])
    · intro h x hx
      rw [List.append_cons, ← List.append_assoc, ← List.append_assoc] at hx
      rcases List.mem_append.1 hx with hx | hx
      · exact hx
      · exact h x hx
  · -- with room for all, only the last entity can fill the queue
    rw [List.length_append, List.length_cons] at hroom
    have hbefore := Work.buffer_hand r front { buffer := b, traces := s } (by
      show b.queue.length + front.length < b.maxSize
      omega)
    have hfull := r.maxSize_le_of_persist_error _ _ (congrArg (·.1.1) hfails)
    rw [hbefore] at hfull
    have hlast : b.maxSize ≤ (b.queue ++ front).length + 1 := hfull
    rw [List.length_append] at hlast
    exact List.length_eq_zero_iff.1 (by omega)

end Repository

namespace Family

/-- A parent who fills the queue is kept when the batch is refused. -/
theorem marge_waits :
    let r := parents refusing
    let b : Buffer (schema.Content Ty.parent) := waitingHomer
    let as : List (schema.Content Ty.parent) := [({ name := "Marge" } : Person)]
    ∃ e b' s', (r.persistAll as).after b {} = ((.error e, b'), s') ∧
      ∃ w : Work schema (schema.Content Ty.parent), w.buffer = b' ∧ w.traces = s' ∧ ∀ x ∈ b.queue ++ as, w.Keeps x := by
  intro r b as
  have hrefused : ((r.persistAll as).after b {}).1.1.isOk = false := by decide +kernel
  rcases hrun : (r.persistAll as).after b {} with ⟨⟨e | saved, b'⟩, s'⟩
  · obtain ⟨front, a, rest, -, -, hbuffer, htraces, -, hkeeps, hroom⟩ := r.failed_persistAll hrun
    have hrest : rest = [] := hroom (by decide)
    have hnothing : ∀ x ∈ rest, x ∈ b.queue ++ front ++ [a] := by
      intro x hx
      rw [hrest] at hx
      cases hx
    have hkeptall := hkeeps.2 hnothing
    exact ⟨e, b', s', rfl, _, hbuffer, htraces, hkeptall⟩
  · rw [hrun] at hrefused
    cases hrefused

/-- **A parent who is dropped**: two parents are handed over together, the batch with the first is refused, and the
second is neither in the queue nor in an accepted batch. -/
theorem second_parent_dropped :
    let r := parents refusing
    let homer : schema.Content Ty.parent := ({ name := "Homer" } : Person)
    let marge : schema.Content Ty.parent := ({ name := "Marge" } : Person)
    let w := Work.hand r { buffer := {}, traces := {} } [homer]
    ∃ e, (r.persistAll [homer, marge]).after {} {} = ((.error e, w.buffer), w.traces) ∧ w.accepted = [] ∧
      ¬ w.Keeps marge := by
  intro r homer marge w
  have hrefused : ((r.persist homer).after {} {}).1.1.isOk = false := by decide +kernel
  have hnone : w.accepted.isEmpty = true := by decide +kernel
  rcases hrun : (r.persist homer).after {} {} with ⟨⟨e | saved, b'⟩, s'⟩
  · refine ⟨e, Work.persistAll_of_persist_error r { buffer := {}, traces := {} } hrun [marge],
      List.isEmpty_iff.1 hnone, ?_⟩
    rw [Work.keeps_iff, Work.kept_hand]
    intro hmem
    have hname : marge = homer := by simpa [Work.kept] using hmem
    exact absurd (congrArg Person.name hname) (by decide)
  · rw [hrun] at hrefused
    cases hrefused

end Family
end Hypermedia
