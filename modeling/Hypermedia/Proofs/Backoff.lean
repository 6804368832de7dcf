import Hypermedia.Retry
import Hypermedia.Settings.Check
/-!
# How long is waited between two attempts

The delay after an attempt is the base delay, doubled for every attempt behind the first one, and cut at the largest
delay of the policy.  It is computed in words of 64 bits as it would be in natural numbers
(`RetryPolicy.cappedDelay_exact`): the number of doublings and their product with the base delay stop at the largest
word, where the cut does not see the difference.

To that a jitter below a tenth of it is added, and this sum does not stop at the largest word.  Settings whose largest
delay leaves room for a tenth more are safe, and those are all that are (`RetryPolicy.delay_fits`): with the largest
delay at the end of the range, the settings pass every check and the delay may still come out as zero
(`RetryPolicy.delay_wrapped`).
-/
namespace Hypermedia
namespace RetryPolicy

variable (p : RetryPolicy) (attempt : UInt32)

/-! ## The delay before anything is added -/

theorem word_eq : Nat.pow 2 64 = 18446744073709551616 := rfl

theorem toNat_largest : largest.toNat = Nat.pow 2 64 - 1 := by decide

/-- The base delay, doubled for every attempt behind the first one, however much that is. -/
def doubledDelay : Nat := p.baseDelay.toNat * Nat.pow 2 (attempt.toNat - 1)

theorem doubledDelay_mono {attempt later : UInt32} (h : attempt ≤ later) :
    p.doubledDelay attempt ≤ p.doubledDelay later := by
  have hle : attempt.toNat ≤ later.toNat := UInt32.le_iff_toNat_le.1 h
  exact Nat.mul_le_mul_left _ (Nat.pow_le_pow_right (by decide) (by omega))

theorem toNat_factor : (factor attempt).toNat = min (Nat.pow 2 (attempt.toNat - 1)) (Nat.pow 2 64 - 1) := by
  unfold factor
  by_cases hfew : attempt.toNat - 1 < 64
  · have hlt : Nat.pow 2 (attempt.toNat - 1) < Nat.pow 2 64 := Nat.pow_lt_pow_right (by decide) hfew
    rw [if_pos hfew, Nat.min_eq_left (Nat.le_sub_one_of_lt hlt)]
    exact UInt64.toNat_ofNat_of_lt' hlt
  · have hle : Nat.pow 2 64 ≤ Nat.pow 2 (attempt.toNat - 1) := Nat.pow_le_pow_right (by decide) (Nat.le_of_not_lt hfew)
    rw [if_neg hfew, toNat_largest, Nat.min_eq_right (Nat.le_trans (Nat.sub_le _ _) hle)]

theorem toNat_saturatingMul (a b : UInt64) :
    (saturatingMul a b).toNat = min (a.toNat * b.toNat) (Nat.pow 2 64 - 1) := by
  unfold saturatingMul
  by_cases hfits : a.toNat * b.toNat < Nat.pow 2 64
  · rw [if_pos hfits, UInt64.toNat_mul, Nat.mod_eq_of_lt hfits, Nat.min_eq_left (Nat.le_sub_one_of_lt hfits)]
  · rw [if_neg hfits, toNat_largest, Nat.min_eq_right (Nat.le_trans (Nat.sub_le _ _) (Nat.le_of_not_lt hfits))]

/-- The product with the base delay is right up to the largest word, although the factor may have stopped there
itself: then the product does so too, unless there is nothing to double. -/
theorem toNat_saturatingMul_factor :
    (saturatingMul p.baseDelay (factor attempt)).toNat = min (p.doubledDelay attempt) (Nat.pow 2 64 - 1) := by
  rw [toNat_saturatingMul, toNat_factor, doubledDelay]
  generalize Nat.pow 2 (attempt.toNat - 1) = doublings
  rcases Nat.eq_zero_or_pos p.baseDelay.toNat with hzero | hpos
  · rw [hzero, Nat.zero_mul, Nat.zero_mul]
  · rcases Nat.le_total doublings (Nat.pow 2 64 - 1) with hfew | hmany
    · rw [Nat.min_eq_left hfew]
    · have hword : Nat.pow 2 64 - 1 ≤ p.baseDelay.toNat * (Nat.pow 2 64 - 1) := Nat.le_mul_of_pos_left _ hpos
      have hexact : p.baseDelay.toNat * (Nat.pow 2 64 - 1) ≤ p.baseDelay.toNat * doublings :=
        Nat.mul_le_mul_left _ hmany
      rw [Nat.min_eq_right hmany, Nat.min_eq_right hword, Nat.min_eq_right (Nat.le_trans hword hexact)]

theorem toNat_cappedDelay : (p.cappedDelay attempt).toNat = min (p.doubledDelay attempt) p.maxDelay.toNat := by
  have hword := p.maxDelay.toNat_lt
  have hproduct := p.toNat_saturatingMul_factor attempt
  rw [word_eq] at hproduct
  show (if saturatingMul p.baseDelay (factor attempt) ≤ p.maxDelay then _ else p.maxDelay).toNat = _
  split <;> rename_i hle <;> rw [UInt64.le_iff_toNat_le] at hle <;> omega

theorem cappedDelay_le : p.cappedDelay attempt ≤ p.maxDelay := by
  rw [UInt64.le_iff_toNat_le, toNat_cappedDelay]
  exact Nat.min_le_right _ _

theorem cappedDelay_mono {attempt later : UInt32} (h : attempt ≤ later) :
    p.cappedDelay attempt ≤ p.cappedDelay later := by
  have hdoubled := p.doubledDelay_mono h
  rw [UInt64.le_iff_toNat_le, toNat_cappedDelay, toNat_cappedDelay]
  omega

/-! ## The jitter -/

theorem toNat_jitterBound : (p.jitterBound attempt).toNat = (p.cappedDelay attempt).toNat / 10 := by
  rw [jitterBound, UInt64.toNat_div]
  rfl

theorem jitterBound_eq_zero_iff : p.jitterBound attempt = 0 ↔ (p.cappedDelay attempt).toNat < 10 := by
  rw [← UInt64.toNat_inj, toNat_jitterBound, UInt64.toNat_zero]
  omega

/-- What may be added to the delay after the given attempt: anything below the bound, and nothing if the bound is
zero. -/
def MayDraw (jitter : UInt64) : Prop :=
  if p.jitterBound attempt = 0 then jitter = 0 else jitter < p.jitterBound attempt

instance (jitter : UInt64) : Decidable (p.MayDraw attempt jitter) := by
  unfold MayDraw
  infer_instance

theorem mayDraw_iff (jitter : UInt64) :
    p.MayDraw attempt jitter ↔
      if (p.cappedDelay attempt).toNat < 10 then jitter = 0 else jitter.toNat < (p.cappedDelay attempt).toNat / 10 := by
  simp only [MayDraw, jitterBound_eq_zero_iff, UInt64.lt_iff_toNat_lt, toNat_jitterBound]

theorem toNat_largestJitter : (p.largestJitter attempt).toNat = (p.cappedDelay attempt).toNat / 10 - 1 := by
  have hbound := p.toNat_jitterBound attempt
  unfold largestJitter
  by_cases hzero : p.jitterBound attempt = 0
  · have hfew := (p.jitterBound_eq_zero_iff attempt).1 hzero
    rw [if_pos (by simpa using hzero), UInt64.toNat_zero]
    omega
  · have hmany := mt (p.jitterBound_eq_zero_iff attempt).2 hzero
    rw [if_neg (by simpa using hzero), UInt64.toNat_sub_of_le _ _ (UInt64.le_iff_toNat_le.2 _), hbound]
    · rfl
    · rw [hbound, UInt64.toNat_one]
      omega

/-- What may be drawn goes from nothing to the largest jitter. -/
theorem mayDraw_iff_le (jitter : UInt64) : p.MayDraw attempt jitter ↔ jitter ≤ p.largestJitter attempt := by
  rw [mayDraw_iff, UInt64.le_iff_toNat_le, toNat_largestJitter, ← UInt64.toNat_inj, UInt64.toNat_zero]
  split <;> omega

/-- **The delay doubles from attempt to attempt until it is cut.** -/
theorem cappedDelay_exact (p : RetryPolicy) (attempt : UInt32) :
    (p.cappedDelay attempt).toNat = min (p.baseDelay.toNat * Nat.pow 2 (attempt.toNat - 1)) p.maxDelay.toNat ∧
    (factor attempt).toNat = min (Nat.pow 2 (attempt.toNat - 1)) (Nat.pow 2 64 - 1) ∧
    (saturatingMul p.baseDelay (factor attempt)).toNat =
      min (p.baseDelay.toNat * Nat.pow 2 (attempt.toNat - 1)) (Nat.pow 2 64 - 1) ∧
    p.cappedDelay attempt ≤ p.maxDelay ∧
    (∀ later, attempt ≤ later → p.cappedDelay attempt ≤ p.cappedDelay later) ∧
    (∀ later, attempt ≤ later → p.cappedDelay attempt = p.maxDelay → p.cappedDelay later = p.maxDelay) ∧
    (p.jitterBound attempt = 0 ↔ (p.cappedDelay attempt).toNat < 10) ∧
    ∀ jitter, p.MayDraw attempt jitter ↔
      if (p.cappedDelay attempt).toNat < 10 then jitter = 0
      else jitter.toNat < (p.cappedDelay attempt).toNat / 10 := by
  refine ⟨p.toNat_cappedDelay attempt, toNat_factor attempt, p.toNat_saturatingMul_factor attempt,
    p.cappedDelay_le attempt, fun later hle => p.cappedDelay_mono hle, ?_, p.jitterBound_eq_zero_iff attempt,
    p.mayDraw_iff attempt⟩
  intro later hle hmax
  exact UInt64.le_antisymm (p.cappedDelay_le later) (hmax ▸ p.cappedDelay_mono hle)

/-- A delay that is cut at the largest word stays there. -/
theorem cut_at_largest :
    (new 5 3 largest).cappedDelay 64 = largest ∧ (new 5 3 largest).cappedDelay 4294967295 = largest ∧
      (new 5 3 largest).MayDraw 64 1844674407370955160 ∧ ¬ (new 5 3 largest).MayDraw 64 1844674407370955161 := by
  obtain ⟨-, -, -, -, -, hconstant, -, hjitter⟩ := cappedDelay_exact (new 5 3 largest) 64
  exact ⟨by decide, hconstant 4294967295 (by decide) (by decide), (hjitter _).2 (by decide),
    fun h => absurd ((hjitter _).1 h) (by decide)⟩

/-! ## The sum -/

theorem toNat_delay (jitter : UInt64) :
    (p.delay attempt jitter).toNat = ((p.cappedDelay attempt).toNat + jitter.toNat) % Nat.pow 2 64 := by
  rw [delay, UInt64.toNat_add]

/-- A delay is as long as the delay that it was made from just when their sum fits into a word: a sum that does not has
lost more than was added. -/
theorem cappedDelay_le_delay_iff (jitter : UInt64) :
    p.cappedDelay attempt ≤ p.delay attempt jitter ↔ (p.cappedDelay attempt).toNat + jitter.toNat < Nat.pow 2 64 := by
  have hcapped := (p.cappedDelay attempt).toNat_lt
  have hjitter := jitter.toNat_lt
  rw [UInt64.le_iff_toNat_le, toNat_delay, word_eq]
  omega

/-- The sum with every jitter that may be drawn fits just when the one with the largest does. -/
theorem sums_fit_iff :
    (∀ jitter, p.MayDraw attempt jitter → (p.cappedDelay attempt).toNat + jitter.toNat < Nat.pow 2 64) ↔
      (p.cappedDelay attempt).toNat + (p.cappedDelay attempt).toNat / 10 ≤ Nat.pow 2 64 := by
  have hcapped := (p.cappedDelay attempt).toNat_lt
  rw [word_eq]
  constructor
  · intro h
    have hlargest := h _ ((p.mayDraw_iff_le attempt _).2 (UInt64.le_refl _))
    rw [toNat_largestJitter] at hlargest
    omega
  · intro h jitter hdraw
    have hle := UInt64.le_iff_toNat_le.1 ((p.mayDraw_iff_le attempt jitter).1 hdraw)
    rw [toNat_largestJitter] at hle
    omega

/-- Sixty-four doublings take every delay to the largest one, unless there is nothing to double. -/
theorem cappedDelay_of_many (hbase : p.baseDelay ≠ 0) : p.cappedDelay 65 = p.maxDelay := by
  have hpos : 0 < p.baseDelay.toNat := Nat.pos_of_ne_zero fun h => hbase (UInt64.toNat_inj.1 h)
  have hmany : 1 * Nat.pow 2 64 ≤ p.baseDelay.toNat * Nat.pow 2 64 := Nat.mul_le_mul_right _ hpos
  have hword := p.maxDelay.toNat_lt
  have hdoubled : p.doubledDelay 65 = p.baseDelay.toNat * Nat.pow 2 64 := rfl
  rw [← UInt64.toNat_inj, toNat_cappedDelay, hdoubled]
  rw [word_eq] at hmany ⊢
  omega

theorem cappedDelay_of_no_base (hbase : p.baseDelay = 0) : (p.cappedDelay attempt).toNat = 0 := by
  rw [toNat_cappedDelay, doubledDelay, hbase]
  simp

/-- Every sum of a policy fits just when those of its largest delay do, or when it never waits. -/
theorem all_sums_fit_iff :
    (∀ attempt jitter, p.MayDraw attempt jitter → (p.cappedDelay attempt).toNat + jitter.toNat < Nat.pow 2 64) ↔
      p.baseDelay = 0 ∨ p.maxDelay.toNat + p.maxDelay.toNat / 10 ≤ Nat.pow 2 64 := by
  constructor
  · intro h
    refine Decidable.or_iff_not_imp_left.2 fun hbase => ?_
    have hmany := (p.sums_fit_iff 65).1 (h 65)
    rwa [p.cappedDelay_of_many hbase] at hmany
  · intro h attempt
    refine (p.sums_fit_iff attempt).2 ?_
    rcases h with hbase | hroom
    · rw [p.cappedDelay_of_no_base attempt hbase]
      decide
    · have hle := UInt64.le_iff_toNat_le.1 (p.cappedDelay_le attempt)
      omega

theorem baseDelay_ofSettings (s : Settings.Retries) : (ofSettings s).baseDelay = s.baseDelay := by
  unfold ofSettings new
  split <;> rfl

theorem maxDelay_ofSettings (s : Settings.Retries) : (ofSettings s).maxDelay = s.maxDelay := by
  unfold ofSettings new
  split <;> rfl

/-- **Settings leave room for every jitter just when their largest delay does, or when they never wait.**  Without room
for a jitter, the delay comes out shorter than the one that the jitter was added to. -/
theorem delay_fits (s : Settings) :
    ((∀ attempt jitter, (ofSettings s.retries).MayDraw attempt jitter →
        ((ofSettings s.retries).cappedDelay attempt).toNat + jitter.toNat < Nat.pow 2 64) ↔
      s.retries.baseDelay = 0 ∨ s.retries.maxDelay.toNat + s.retries.maxDelay.toNat / 10 ≤ Nat.pow 2 64) ∧
    ∀ attempt jitter,
      (ofSettings s.retries).cappedDelay attempt ≤ (ofSettings s.retries).delay attempt jitter ↔
        ((ofSettings s.retries).cappedDelay attempt).toNat + jitter.toNat < Nat.pow 2 64 := by
  refine ⟨?_, fun attempt jitter => cappedDelay_le_delay_iff _ attempt jitter⟩
  rw [all_sums_fit_iff, baseDelay_ofSettings, maxDelay_ofSettings]

/-- Settings under which every delay is the same before a jitter is added. -/
def waiting (ms : UInt64) : Settings := { retries := { baseDelay := ms, maxDelay := ms } }

/-- The longest delay with room for its jitter: the largest sum is the largest word. -/
theorem longest_delay_fits :
    (waiting 16769767339735956015).complaints = [] ∧
      (ofSettings (waiting 16769767339735956015).retries).MayDraw 1 1676976733973595600 ∧
      (ofSettings (waiting 16769767339735956015).retries).delay 1 1676976733973595600 = largest ∧
      (ofSettings (waiting 16769767339735956015).retries).cappedDelay 1 ≤
        (ofSettings (waiting 16769767339735956015).retries).delay 1 1676976733973595600 := by
  have hdraw : (ofSettings (waiting 16769767339735956015).retries).MayDraw 1 1676976733973595600 := by decide
  obtain ⟨hfits, hle⟩ := delay_fits (waiting 16769767339735956015)
  exact ⟨by decide +kernel, hdraw, by decide, (hle 1 _).2 (hfits.2 (.inr (by decide)) 1 _ hdraw)⟩

/-- The largest delay passes every check as well, and a jitter of one makes it vanish. -/
theorem delay_wrapped :
    (waiting largest).complaints = [] ∧ (ofSettings (waiting largest).retries).MayDraw 1 1 ∧
      (ofSettings (waiting largest).retries).cappedDelay 1 = largest ∧
      (ofSettings (waiting largest).retries).delay 1 1 = 0 ∧
      ¬ ((ofSettings (waiting largest).retries).cappedDelay 1).toNat + (1 : UInt64).toNat < Nat.pow 2 64 ∧
      ¬ (ofSettings (waiting largest).retries).cappedDelay 1 ≤
        (ofSettings (waiting largest).retries).delay 1 1 := by
  refine ⟨by decide +kernel, ?_⟩
  decide

end RetryPolicy
end Hypermedia
