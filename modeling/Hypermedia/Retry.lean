import Hypermedia.Failure
import Hypermedia.Settings.Basic
/-!
# Trying again

A policy bounds how often an operation is tried and how long to wait between the attempts.  Only failures that may pass
are tried again; when the attempts run out, the last failure is reported as the cause.  An execution does not wait:
neither its calls nor its outcome depend on the delays, which are computed apart from it.
-/
namespace Hypermedia

/-- How often an operation is tried, and how long is waited in between, in milliseconds. -/
structure RetryPolicy where
  maxAttempts : UInt32
  baseDelay : UInt64
  maxDelay : UInt64
  attempts_pos : 0 < maxAttempts

namespace RetryPolicy

def new (maxAttempts : UInt32) (baseDelay maxDelay : UInt64) : RetryPolicy :=
  if h : 0 < maxAttempts then ⟨maxAttempts, baseDelay, maxDelay, h⟩ else ⟨1, baseDelay, maxDelay, by decide⟩

def ofSettings (s : Settings.Retries) : RetryPolicy := new s.maxAttempts s.baseDelay s.maxDelay

def once : RetryPolicy := new 1 0 0

/-! ## Delays -/

def largest : UInt64 := UInt64.ofNat (Nat.pow 2 64 - 1)

/-- The product of two numbers, or the largest number when it is beyond that. -/
def saturatingMul (a b : UInt64) : UInt64 :=
  if a.toNat * b.toNat < Nat.pow 2 64 then a * b else largest

/-- How often the base delay is taken after the given attempt: twice as often each time. -/
def factor (attempt : UInt32) : UInt64 :=
  let doublings := attempt.toNat - 1
  if doublings < 64 then UInt64.ofNat (Nat.pow 2 doublings) else largest

/-- The delay after the given attempt before anything is added to it. -/
def cappedDelay (p : RetryPolicy) (attempt : UInt32) : UInt64 :=
  min (saturatingMul p.baseDelay (factor attempt)) p.maxDelay

/-- What is added to a delay stays below this; when it is zero, nothing is added. -/
def jitterBound (p : RetryPolicy) (attempt : UInt32) : UInt64 := p.cappedDelay attempt / 10

def delay (p : RetryPolicy) (attempt : UInt32) (jitter : UInt64) : UInt64 := p.cappedDelay attempt + jitter

def largestJitter (p : RetryPolicy) (attempt : UInt32) : UInt64 :=
  if p.jitterBound attempt == 0 then 0 else p.jitterBound attempt - 1

/-! ## Attempts -/

variable {σ α : Type}

/-- As long as there is another attempt, it is counted without overflow. -/
theorem toNat_next (p : RetryPolicy) {attempt : UInt32} (h : ¬ p.maxAttempts ≤ attempt) :
    attempt.toNat < p.maxAttempts.toNat ∧ (attempt + 1).toNat = attempt.toNat + 1 := by
  have hlt : attempt.toNat < p.maxAttempts.toNat := by
    rw [UInt32.le_iff_toNat_le] at h
    omega
  have hbound := p.maxAttempts.toNat_lt
  refine ⟨hlt, ?_⟩
  rw [UInt32.toNat_add, UInt32.toNat_one, Nat.mod_eq_of_lt (by omega)]

/-- Tries an operation, the given attempt being the first one.  Failures that do not pass stay as they are, and so do
all failures under a policy of one attempt; behind the last attempt the failure is reported as the cause. -/
def tryAgain (p : RetryPolicy) (uri : String) (operation : ExceptT Failure (StateM σ) α) (attempt : UInt32) :
    ExceptT Failure (StateM σ) α :=
  tryCatch operation fun e =>
    if !e.isRetryable || p.maxAttempts == 1 then throw e
    else if h : p.maxAttempts ≤ attempt then throw (.retriesExhausted uri attempt.toNat e)
    else p.tryAgain uri operation (attempt + 1)
  termination_by p.maxAttempts.toNat - attempt.toNat
  decreasing_by
    have := p.toNat_next h
    omega

def execute (p : RetryPolicy) (uri : String) (operation : ExceptT Failure (StateM σ) α) :
    ExceptT Failure (StateM σ) α :=
  p.tryAgain uri operation 1

end RetryPolicy
end Hypermedia
