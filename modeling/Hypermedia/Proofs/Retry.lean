import Hypermedia.Proofs.Failure
/-!
# What trying again comes to

An operation that is called again and again has an outcome for each call, and leaves a state behind it.  A policy calls
it until an outcome is a success or a failure that does not pass, but not more often than it has attempts
(`RetryPolicy.run_execute`).  So it ends with the first such outcome among them, and if there is none with the last
failure: as it is when it is the only one, and else as the cause of exhausted retries (`RetryPolicy.execute_outcome`).
-/
namespace Hypermedia

/-- What may be called again and again: it may fail, and works on a state. -/
abbrev Operation (σ α : Type) := ExceptT Failure (StateM σ) α

variable {σ α : Type}

/-- Whether an outcome is a failure that may pass. -/
def Outcome.mayPass : Outcome α → Bool
  | .ok _ => false
  | .error e => e.isRetryable

theorem Outcome.mayPass_eq_true_iff {o : Outcome α} : o.mayPass = true ↔ ∃ e, o = .error e ∧ e.isRetryable = true := by
  rcases o with e | x
  · simp [mayPass]
  · simp [mayPass]

namespace Operation

/-! ## Calls -/

variable (a : Operation σ α) (s : σ)

/-- The state behind so many calls, whatever comes of them. -/
def state (s : σ) : Nat → σ
  | 0 => s
  | n + 1 => state (a.run.run s).2 n

/-- What comes of a call behind so many others. -/
def outcome (n : Nat) : Outcome α := (a.run.run (a.state s n)).1

theorem run_eq : a.run.run s = (a.outcome s 0, a.state s 1) := rfl

@[simp] theorem state_state (n : Nat) : a.state (a.state s 1) n = a.state s (n + 1) := rfl

/-- A call behind so many others has its outcome and leaves the next state. -/
theorem run_state : ∀ (n : Nat) (s : σ), a.run.run (a.state s n) = (a.outcome s n, a.state s (n + 1))
  | 0, _ => rfl
  | n + 1, s => run_state n (a.state s 1)

/-- The operation, with its calls counted beside its state. -/
def counted : Operation (σ × Nat) α :=
  ExceptT.mk fun s => ((a.run.run s.1).1, ((a.run.run s.1).2, s.2 + 1))

theorem state_counted : ∀ (k n : Nat) (s : σ), a.counted.state (s, n) k = (a.state s k, n + k)
  | 0, _, _ => rfl
  | k + 1, n, s => by
    have hnext : a.counted.state (s, n) 1 = (a.state s 1, n + 1) := rfl
    rw [← state_state, hnext, state_counted k, state_state, Nat.add_assoc, Nat.add_comm 1]

theorem outcome_counted (k n : Nat) : a.counted.outcome (s, n) k = a.outcome s k := by
  unfold outcome
  rw [state_counted]
  rfl

/-- The operation whose calls have the given outcomes, one after the other; it counts them. -/
def answering (outcomes : Nat → Outcome α) : Operation Nat α := ExceptT.mk fun n => (outcomes n, n + 1)

theorem state_answering (outcomes : Nat → Outcome α) : ∀ k n : Nat, (answering outcomes).state n k = n + k
  | 0, _ => rfl
  | k + 1, n => by
    show (answering outcomes).state (n + 1) k = n + (k + 1)
    rw [state_answering outcomes k]
    omega

/-- Every sequence of outcomes is that of an operation. -/
theorem outcome_answering (outcomes : Nat → Outcome α) (n : Nat) : (answering outcomes).outcome 0 n = outcomes n := by
  unfold outcome
  rw [state_answering, Nat.zero_add]
  rfl

/-! ## The last call -/

/-- **The last of at most so many calls**: all calls before it fail in a way that may pass, and so does this one only if
no other is left. -/
structure LastCall (most k : Nat) : Prop where
  lt : k < most
  before : ∀ i < k, (a.outcome s i).mayPass = true
  last : (a.outcome s k).mayPass = true → k + 1 = most

variable {a s}

theorem LastCall.eq {most k l : Nat} (hk : a.LastCall s most k) (hl : a.LastCall s most l) : k = l := by
  have hltk := hk.lt
  have hltl := hl.lt
  rcases Nat.lt_trichotomy k l with h | h | h
  · have := hk.last (hl.before k h)
    omega
  · exact h
  · have := hl.last (hk.before l h)
    omega

theorem LastCall.counted {most k n : Nat} (h : a.LastCall s most k) : a.counted.LastCall (s, n) most k := by
  constructor
  · exact h.lt
  · intro i hi
    rw [outcome_counted]
    exact h.before i hi
  · rw [outcome_counted]
    exact h.last

/-- Behind a call that may pass comes the last of the calls that are left. -/
theorem LastCall.next {most k : Nat} (first : (a.outcome s 0).mayPass = true) (h : a.LastCall (a.state s 1) most k) :
    a.LastCall s (most + 1) (k + 1) := by
  constructor
  · exact Nat.succ_lt_succ h.lt
  · intro i hi
    rcases i with _ | i
    · exact first
    · exact h.before i (Nat.lt_of_succ_lt_succ hi)
  · intro hpass
    rw [h.last hpass]

variable (a s)

theorem run_tryCatch (f : Failure → Operation σ α) :
    (tryCatch a f : Operation σ α).run.run s = match a.run.run s with
      | (.ok x, s') => (.ok x, s')
      | (.error e, s') => (f e).run.run s' := by
  rcases h : a.run.run s with ⟨e | x, s'⟩
  all_goals
    unfold ExceptT.run at h
    simp only [tryCatch, tryCatchThe, MonadExceptOf.tryCatch, ExceptT.tryCatch, ExceptT.run_mk, StateT.run_bind]
    rw [h]
    rfl

end Operation

namespace RetryPolicy

open Outcome (mayPass)

variable (p : RetryPolicy) (uri : String) (a : Operation σ α) (s : σ)

/-! ## Attempts -/

/-- An outcome that does not pass is reported as it is. -/
theorem mapError_reported {o : Outcome α} (h : o.mayPass = false) : o.mapError (p.reported uri) = o := by
  rcases o with e | x
  · have he : e.isRetryable = false := h
    simp [mapError_error, reported, he]
  · rfl

/-- **One attempt**: another one follows if its failure may pass and it is not the last one, and else its outcome is
reported. -/
theorem run_tryAgain {attempt : UInt32} (first : 1 ≤ attempt.toNat) (room : attempt.toNat ≤ p.maxAttempts.toNat) :
    (p.tryAgain uri a attempt).run.run s =
      if (a.outcome s 0).mayPass = true ∧ ¬ p.maxAttempts ≤ attempt
      then (p.tryAgain uri a (attempt + 1)).run.run (a.state s 1)
      else ((a.outcome s 0).mapError (p.reported uri), a.state s 1) := by
  rw [tryAgain, Operation.run_tryCatch, Operation.run_eq]
  rcases a.outcome s 0 with e | x
  · rcases he : e.isRetryable with _ | _
    · simp [mayPass, he, mapError_error, reported]
      rfl
    · by_cases hlast : p.maxAttempts ≤ attempt
      · have hmax : attempt = p.maxAttempts := by
          rw [UInt32.le_iff_toNat_le] at hlast
          exact UInt32.toNat_inj.1 (by omega)
        subst hmax
        by_cases hone : p.maxAttempts = 1
        · simp [mayPass, he, mapError_error, reported, exhausted, hone]
          rfl
        · simp [mayPass, he, mapError_error, reported, exhausted, hone]
          rfl
      · have hone : p.maxAttempts ≠ 1 := by
          intro hone
          rw [UInt32.le_iff_toNat_le, hone] at hlast
          exact hlast first
        simp [mayPass, he, hone, hlast]
  · simp [mayPass, mapError_ok]

/-- **Trying again ends with the last call** that the attempts allow, up to what is reported of its failure. -/
theorem tryAgain_calls (attempt : UInt32) (s : σ) (first : 1 ≤ attempt.toNat)
    (room : attempt.toNat ≤ p.maxAttempts.toNat) :
    ∃ k, a.LastCall s (p.maxAttempts.toNat + 1 - attempt.toNat) k ∧
      (p.tryAgain uri a attempt).run.run s = ((a.outcome s k).mapError (p.reported uri), a.state s (k + 1)) := by
  rw [p.run_tryAgain uri a s first room]
  by_cases hgoes : (a.outcome s 0).mayPass = true ∧ ¬ p.maxAttempts ≤ attempt
  · obtain ⟨hlt, hnext⟩ := p.toNat_next hgoes.2
    obtain ⟨k, hlast, hrun⟩ := tryAgain_calls (attempt + 1) (a.state s 1) (by omega) (by omega)
    have hleft : p.maxAttempts.toNat + 1 - attempt.toNat = p.maxAttempts.toNat + 1 - (attempt + 1).toNat + 1 := by omega
    refine ⟨k + 1, ?_, ?_⟩
    · rw [hleft]
      exact hlast.next hgoes.1
    · rw [if_pos hgoes, hrun]
      rfl
  · refine ⟨0, ⟨by omega, by simp, fun hpass => ?_⟩, if_neg hgoes⟩
    have hend : p.maxAttempts ≤ attempt := by simpa [hpass] using hgoes
    rw [UInt32.le_iff_toNat_le] at hend
    omega
  termination_by p.maxAttempts.toNat - attempt.toNat
  decreasing_by omega

/-- **A policy ends with the last call** that its attempts allow, up to what it reports of a failure. -/
theorem execute_calls :
    ∃ k, a.LastCall s p.maxAttempts.toNat k ∧
      (p.execute uri a).run.run s = ((a.outcome s k).mapError (p.reported uri), a.state s (k + 1)) :=
  p.tryAgain_calls uri a 1 s (Nat.le_refl 1) p.attempts_pos

variable {a s}

theorem run_execute {k : Nat} (h : a.LastCall s p.maxAttempts.toNat k) :
    (p.execute uri a).run.run s = ((a.outcome s k).mapError (p.reported uri), a.state s (k + 1)) := by
  obtain ⟨l, hl, hrun⟩ := p.execute_calls uri a s
  rw [h.eq hl, hrun]

theorem run_execute_counted {k : Nat} (h : a.LastCall s p.maxAttempts.toNat k) :
    (p.execute uri a.counted).run.run (s, 0) =
      ((a.outcome s k).mapError (p.reported uri), (a.state s (k + 1), k + 1)) := by
  rw [p.run_execute uri h.counted, Operation.outcome_counted, Operation.state_counted, Nat.zero_add]

variable (a s)

/-- **How trying again ends.**  A policy of `n` attempts has `m` of them, which is one at least.  If an outcome among
the first `m` is a success or a failure that does not pass, the operation is called up to the first such outcome, which
stays as it is.  If there is none, it is called `m` times, and the last failure is the outcome when it is the only one;
otherwise it is the cause of exhausted retries after `m` attempts, which tell what it tells and are not tried again.
Counting the calls makes no difference. -/
theorem execute_outcome (n : UInt32) (base most : UInt64) :
    let m := max n.toNat 1
    let p := new n base most
    let run := (p.execute uri a.counted).run.run (s, 0)
    (p.execute uri a).run.run s = (run.1, run.2.1) ∧
    (∀ k < m, (∀ i < k, (a.outcome s i).mayPass = true) → (a.outcome s k).mayPass = false →
      run = (a.outcome s k, (a.state s (k + 1), k + 1))) ∧
    ((∀ i < m, (a.outcome s i).mayPass = true) → ∃ e, a.outcome s (m - 1) = .error e ∧
      let exhaustion := Failure.retriesExhausted uri m e
      run = (.error (if m = 1 then e else exhaustion), (a.state s m, m)) ∧
      exhaustion.status? = e.status? ∧ exhaustion.isConnect = e.isConnect ∧ exhaustion.isTimeout = e.isTimeout ∧
        exhaustion.isRetryable = false) := by
  intro m p run
  have hm : p.maxAttempts.toNat = m := maxAttempts_new n base most
  have hpos : 0 < m := by omega
  refine ⟨?_, fun k hk hbefore hsettled => ?_, fun hall => ?_⟩
  · obtain ⟨k, hlast, hrun⟩ := p.execute_calls uri a s
    show _ = (((p.execute uri a.counted).run.run (s, 0)).1, ((p.execute uri a.counted).run.run (s, 0)).2.1)
    rw [hrun, p.run_execute_counted uri hlast]
  · have hlast : a.LastCall s p.maxAttempts.toNat k := by
      refine ⟨by omega, hbefore, fun hpass => ?_⟩
      rw [hsettled] at hpass
      cases hpass
    show (p.execute uri a.counted).run.run (s, 0) = _
    rw [p.run_execute_counted uri hlast, p.mapError_reported uri hsettled]
  · have hlast : a.LastCall s p.maxAttempts.toNat (m - 1) :=
      ⟨by omega, fun i hi => hall i (by omega), fun _ => by omega⟩
    obtain ⟨e, he, hretry⟩ := Outcome.mayPass_eq_true_iff.1 (hall (m - 1) (by omega))
    refine ⟨e, he, ?_, rfl, rfl, rfl, rfl⟩
    show (p.execute uri a.counted).run.run (s, 0) = _
    rw [p.run_execute_counted uri hlast, he, Nat.sub_add_cancel hpos]
    have hreported : p.reported uri e = if m = 1 then e else .retriesExhausted uri m e := by
      have hone : p.maxAttempts = 1 ↔ m = 1 := by
        rw [← hm, ← UInt32.toNat_inj, UInt32.toNat_one]
      simp [reported, hretry, exhausted, hone, hm]
    rw [← hreported]
    rfl

/-- An operation that is refused twice because there is too much to do, and then succeeds. -/
def refusedTwice : Operation Nat String :=
  .answering fun n => if n < 2 then .error (Response.refusal { status := 503 }) else .ok "done"

/-- Three attempts are enough for two refusals.  Two are not, and a policy without attempts has one, whose failure stays
as it is. -/
theorem refusedTwice_outcome :
    let refusal := Response.refusal { status := 503 }
    let run (n : UInt32) := ((new n 1 5).execute "http://host" refusedTwice.counted).run.run (0, 0)
    (∀ i < 2, (refusedTwice.outcome 0 i).mayPass = true) ∧ (refusedTwice.outcome 0 2).mayPass = false ∧
      run 3 = (.ok "done", (3, 3)) ∧
      run 2 = (.error (.retriesExhausted "http://host" 2 refusal), (2, 2)) ∧
      run 0 = (.error refusal, (1, 1)) := by
  intro refusal run
  have hfails : ∀ i < 2, refusedTwice.outcome 0 i = .error refusal := by
    intro i hi
    rw [refusedTwice, Operation.outcome_answering, if_pos hi]
  have hpasses : ∀ i < 2, (refusedTwice.outcome 0 i).mayPass = true := by
    intro i hi
    rw [hfails i hi]
    exact Response.isRetryable_refusal _
  obtain ⟨-, hanswered, -⟩ := execute_outcome "http://host" refusedTwice 0 3 1 5
  obtain ⟨-, -, hexhausted⟩ := execute_outcome "http://host" refusedTwice 0 2 1 5
  obtain ⟨-, -, hsingle⟩ := execute_outcome "http://host" refusedTwice 0 0 1 5
  refine ⟨hpasses, rfl, hanswered 2 (by decide) hpasses rfl, ?_, ?_⟩
  · obtain ⟨e, he, hrun, -⟩ := hexhausted hpasses
    cases (hfails 1 (by decide)).symm.trans he
    exact hrun
  · obtain ⟨e, he, hrun, -⟩ := hsingle fun i hi => hpasses i (Nat.lt_of_lt_of_le hi (by decide))
    cases (hfails 0 (by decide)).symm.trans he
    exact hrun

end RetryPolicy
end Hypermedia
