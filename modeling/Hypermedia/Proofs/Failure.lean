import Hypermedia.Exchange
import Hypermedia.Retry
/-!
# What failures tell

The refusal of a server tells the status that it answered.  A failure that may pass, and is tried again, tells a
transient status or none, so neither a conflict nor a resource that is not found is tried again; and what a policy makes
of the last failure tells what that tells.
-/
namespace Hypermedia

theorem mapError_ok {α ε ε' : Type} (f : ε → ε') (a : α) : (Except.ok a).mapError f = .ok a := rfl

theorem mapError_error {α ε ε' : Type} (f : ε → ε') (e : ε) :
    (Except.error e : Except ε α).mapError f = .error (f e) := rfl

/-- The failure of an outcome that is one. -/
def Outcome.failure? {α : Type} : Outcome α → Option Failure
  | .ok _ => none
  | .error e => some e

theorem Outcome.failure?_eq_some {α : Type} {o : Outcome α} {e : Failure} : o.failure? = some e ↔ o = .error e := by
  cases o <;> simp [failure?]

def Response.refusal (answer : Response) : Failure := .server (.ofResponse answer.status answer.body)

@[simp] theorem ServerFault.ofResponse_status (status : Nat) (body : String) :
    (ofResponse status body).status = status := by
  unfold ofResponse
  split <;> rfl

namespace Response

@[simp] theorem status?_refusal (answer : Response) : answer.refusal.status? = some answer.status :=
  congrArg some (ServerFault.ofResponse_status _ _)

theorem isRetryable_refusal (answer : Response) : answer.refusal.isRetryable = Status.isTransient answer.status := by
  show Status.isTransient (ServerFault.ofResponse answer.status answer.body).status = _
  rw [ServerFault.ofResponse_status]

theorem isConflict_refusal {answer : Response} (h : answer.status = Status.conflict) :
    answer.refusal.isConflict = true := by
  unfold Failure.isConflict
  rw [status?_refusal, h, beq_self_eq_true]

theorem success_of_refused {answer : Response} (h : Status.isSuccess answer.status = false) :
    answer.success = .error answer.refusal := by
  unfold success
  rw [h]
  rfl

end Response

namespace Failure

@[simp] theorem status?_toFailure (fault : TransportFault) (uri : Uri) : (fault.toFailure uri).status? = none := by
  cases fault <;> rfl

/-- **Only transient statuses are tried again.** -/
theorem isTransient_of_isRetryable {e : Failure} {status : Nat} (h : e.isRetryable = true)
    (hstatus : e.status? = some status) : Status.isTransient status = true := by
  cases e with
  | server fault =>
    cases hstatus
    exact h
  | transport => cases hstatus
  | _ => cases h

theorem isRetryable_of_isNotFound {e : Failure} (h : e.isNotFound = true) : e.isRetryable = false :=
  Bool.eq_false_iff.2 fun hr => absurd (isTransient_of_isRetryable hr (eq_of_beq h)) (by decide)

theorem isRetryable_of_isConflict {e : Failure} (h : e.isConflict = true) : e.isRetryable = false :=
  Bool.eq_false_iff.2 fun hr => absurd (isTransient_of_isRetryable hr (eq_of_beq h)) (by decide)

end Failure

namespace RetryPolicy

/-- A policy has one attempt at least. -/
theorem maxAttempts_new (maxAttempts : UInt32) (baseDelay maxDelay : UInt64) :
    (new maxAttempts baseDelay maxDelay).maxAttempts.toNat = max maxAttempts.toNat 1 := by
  unfold new
  split
  · rename_i h
    exact (Nat.max_eq_left h).symm
  · rename_i h
    have hzero : maxAttempts.toNat = 0 := Nat.eq_zero_of_not_pos h
    rw [hzero]
    rfl

variable (p : RetryPolicy) (uri : String)

/-- What a policy reports when the failure of its last attempt may pass. -/
def exhausted (e : Failure) : Failure :=
  if p.maxAttempts == 1 then e else .retriesExhausted uri p.maxAttempts.toNat e

/-- What a policy makes of the failure of the last attempt. -/
def reported (e : Failure) : Failure := if e.isRetryable then p.exhausted uri e else e

@[simp] theorem status?_reported (e : Failure) : (p.reported uri e).status? = e.status? := by
  unfold reported exhausted
  split
  · split <;> rfl
  · rfl

@[simp] theorem isNotFound_reported (e : Failure) : (p.reported uri e).isNotFound = e.isNotFound := by
  unfold Failure.isNotFound
  rw [status?_reported]

theorem reported_of_isNotFound {e : Failure} (h : e.isNotFound = true) : p.reported uri e = e := by
  unfold reported
  rw [Failure.isRetryable_of_isNotFound h]
  rfl

end RetryPolicy
end Hypermedia
