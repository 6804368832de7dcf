import Hypermedia.Text.Digit
/-!
# The characters of ASCII

A property of the characters of ASCII is checked on their codes, one by one (`of_ascii`).  Digits, letters and the
digits of escapes are such characters.
-/
namespace Hypermedia
namespace Text

variable {c : Char}

theorem of_ascii {P : Char → Prop} (h : ∀ n < 0x80, P (Char.ofNat n)) (hc : c.toNat < 0x80) : P c := by
  have hcode := h c.toNat hc
  rwa [Char.ofNat_toNat] at hcode

theorem toNat_lt_of_isDigit (h : c.isDigit = true) : c.toNat < 0x80 := by
  simp only [Char.isDigit, Bool.and_eq_true, decide_eq_true_eq, UInt32.le_iff_toNat_le] at h
  have hval : c.val.toNat = c.toNat := rfl
  have hnine : ('9' : Char).val.toNat = 57 := rfl
  simp at h
  omega

theorem toNat_lt_of_isAlpha (h : c.isAlpha = true) : c.toNat < 0x80 := by
  have hcases : (decide (c.val ≥ 'A'.val ∧ c.val ≤ 'Z'.val) ||
      decide (c.val ≥ 'a'.val) && decide (c.val ≤ 'z'.val)) = true := h
  simp only [Bool.or_eq_true, Bool.and_eq_true, decide_eq_true_eq, UInt32.le_iff_toNat_le] at hcases
  have hval : c.val.toNat = c.toNat := rfl
  have hsmall : 'z'.val.toNat = 122 := rfl
  have hcapital : 'Z'.val.toNat = 90 := rfl
  omega

theorem toNat_lt_of_digitValue? (h : (digitValue? c).isSome) : c.toNat < 0x80 := by
  unfold digitValue? at h
  simp only [Bool.and_eq_true, decide_eq_true_eq, Char.le_def, UInt32.le_iff_toNat_le] at h
  have hc : c.toNat = c.val.toNat := rfl
  split at h
  · rename_i hc'; have : ('9' : Char).val.toNat = 57 := rfl; omega
  · split at h
    · rename_i hc'; have : ('f' : Char).val.toNat = 102 := rfl; omega
    · split at h
      · rename_i hc'; have : ('F' : Char).val.toNat = 70 := rfl; omega
      · cases h

/-- A property of the digits of escapes. -/
theorem of_digitValue? {P : Char → Prop} {x : Nat}
    (h : ∀ n < 0x80, digitValue? (Char.ofNat n) = some x → P (Char.ofNat n))
    (hx : digitValue? c = some x) : P c :=
  of_ascii (P := fun c => digitValue? c = some x → P c) h (toNat_lt_of_digitValue? (by rw [hx]; rfl)) hx

theorem digitValue?_lt {x : Nat} (h : digitValue? c = some x) : x < 16 := by
  have hall := of_ascii (P := fun c => (digitValue? c).all (· < 16) = true) (by decide)
    (toNat_lt_of_digitValue? (c := c) (by rw [h]; rfl))
  rw [h] at hall
  simpa using hall

end Text
end Hypermedia
