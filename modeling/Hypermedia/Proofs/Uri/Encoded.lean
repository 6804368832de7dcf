import Hypermedia.Uri.Domain.Encoded
import Mathlib.Data.List.Basic
/-!
# Encoded labels

An encoded label holds the ASCII characters of the label, a hyphen, and digits (`of_mem_encode`).  A label without ASCII
whose code points ascend in long steps has an encoded label of three digits and more for nearly each of its characters
(`le_length_encode`).
-/
namespace Hypermedia
namespace Domain
namespace Encoded

/-! ## What is written -/

section

variable {P : Char → Prop} (digits : ∀ d < 36, P (digit d))

include digits

/-- A delta is written in digits. -/
theorem of_mem_deltaDigits {bias k n : Nat} {c : Char} (h : c ∈ deltaDigits bias k n) : P c := by
  induction k, n using deltaDigits.induct bias with
  | case1 k n t hlt =>
    rw [deltaDigits, if_pos hlt, List.mem_singleton] at h
    have := (threshold_bounds bias k).2
    exact h ▸ digits _ (by omega)
  | case2 k n t hlt ih =>
    rw [deltaDigits, if_neg hlt] at h
    obtain ⟨hlow, hhigh⟩ : 1 ≤ t ∧ t ≤ 26 := threshold_bounds bias k
    rcases List.mem_cons.1 h with rfl | h
    · have hmod : (n - t) % (36 - t) < 36 - t := Nat.mod_lt _ (by omega)
      exact digits (t + (n - t) % (36 - t)) (by omega)
    · exact ih h

theorem of_mem_pass {first code : Nat} {w : Writing} {c : Char} (hw : ∀ d ∈ w.text, P d) :
    ∀ d ∈ (w.pass first code c).text, P d := by
  unfold Writing.pass
  split
  · exact hw
  · split
    · intro d hd
      rcases List.mem_append.1 hd with hd | hd
      · exact hw d hd
      · exact of_mem_deltaDigits digits hd
    · exact hw

theorem of_mem_encodeCodes {first : Nat} {label : List Char} : ∀ {codes : List Nat} {w : Writing} {low : Nat},
    (∀ d ∈ w.text, P d) → ∀ d ∈ encodeCodes first label w low codes, P d
  | [], _, _, hw => hw
  | code :: codes, w, low, hw => by
    have hfold : ∀ (cs : List Char) (w : Writing), (∀ d ∈ w.text, P d) →
        ∀ d ∈ (cs.foldl (fun w c => w.pass first code c) w).text, P d := by
      intro cs
      induction cs with
      | nil => exact fun w hw => hw
      | cons c cs ih => exact fun w hw => ih _ (of_mem_pass digits hw)
    rw [encodeCodes]
    exact of_mem_encodeCodes (hfold label _ hw)

/-- **What holds of digits, of a hyphen and of the ASCII characters of a label holds of the encoded label.** -/
theorem of_mem_encode {label : List Char} (hyphen : P '-') (plain : ∀ c ∈ label, c.toNat < 128 → P c) :
    ∀ d ∈ encode label, P d := by
  have hplain : ∀ d ∈ label.filter fun c => c.toNat < 128, P d := fun d hd => by
    obtain ⟨hmem, hd⟩ := List.mem_filter.1 hd
    exact plain d hmem (by simpa using hd)
  unfold encode
  refine of_mem_encodeCodes digits fun d hd => ?_
  simp only at hd
  split at hd
  · cases hd
  · rcases List.mem_append.1 hd with hd | hd
    · exact hplain d hd
    · exact List.mem_singleton.1 hd ▸ hyphen

end

/-! ## How much is written -/

theorem length_deltaDigits_pos (bias k n : Nat) : 1 ≤ (deltaDigits bias k n).length := by
  rw [deltaDigits]
  split <;> simp

/-- A large delta has three digits or more, whatever the bias is. -/
theorem three_le_length_deltaDigits {bias k n : Nat} (h : 911 ≤ n) : 3 ≤ (deltaDigits bias k n).length := by
  obtain ⟨hlow, hhigh⟩ := threshold_bounds bias k
  have hnext := (threshold_bounds bias (k + 36)).2
  have hrest : 26 ≤ (n - threshold bias k) / (36 - threshold bias k) :=
    (Nat.le_div_iff_mul_le (by omega)).2 (by omega)
  rw [deltaDigits, if_neg (by omega), deltaDigits, if_neg (by omega), List.length_cons, List.length_cons]
  exact Nat.succ_le_succ (Nat.succ_le_succ (length_deltaDigits_pos ..))

variable {first : Nat} {done rest : List Char} {c : Char} {w : Writing}

/-- **One pass over a label that ascends** writes one delta, for the character with the code point; it counts the
characters in front of it. -/
theorem foldl_pass (hdone : ∀ d ∈ done, d.toNat < c.toNat) (hrest : ∀ d ∈ rest, c.toNat < d.toNat) :
    (done ++ c :: rest).foldl (fun w d => w.pass first c.toNat d) w =
      { text := w.text ++ deltaDigits w.bias 36 (w.delta + done.length)
        delta := 0
        bias := adapt (w.delta + done.length) (w.count + 1) (w.count == first)
        count := w.count + 1 } := by
  induction done generalizing w with
  | nil =>
    have hkeep : ∀ {rest : List Char} {w : Writing}, (∀ d ∈ rest, c.toNat < d.toNat) →
        rest.foldl (fun w d => w.pass first c.toNat d) w = w := by
      intro rest w hrest
      induction rest with
      | nil => rfl
      | cons d rest ih =>
        obtain ⟨hd, hrest⟩ := List.forall_mem_cons.1 hrest
        have hpass : w.pass first c.toNat d = w := by
          rw [Writing.pass, if_neg (by omega), if_neg (by simp only [beq_iff_eq]; omega)]
        rw [List.foldl_cons, hpass, ih hrest]
    rw [List.nil_append, List.foldl_cons, hkeep hrest, Writing.pass, if_neg (Nat.lt_irrefl _),
      if_pos (beq_self_eq_true _)]
    rfl
  | cons d done ih =>
    obtain ⟨hd, hdone⟩ := List.forall_mem_cons.1 hdone
    rw [List.cons_append, List.foldl_cons, Writing.pass, if_pos hd, ih hdone]
    simp only [List.length_cons, Nat.add_comm done.length 1, Nat.add_assoc]

/-- The code points of a label ascend in steps that are long enough for three digits. -/
abbrev Climbs (label : List Char) : Prop := label.Pairwise fun c d => c.toNat + 61 ≤ d.toNat

/-- **Each character that is left is written in three digits or more**, once fourteen have been written. -/
theorem le_length_encodeCodes {low : Nat} (climbs : Climbs (done ++ rest)) (hlow : ∀ c ∈ rest.head?, low + 60 ≤ c.toNat)
    (hcount : w.count = done.length) :
    w.text.length + 3 * (rest.length - (14 - done.length)) ≤
      (encodeCodes first (done ++ rest) w low (rest.map Char.toNat)).length := by
  induction rest generalizing done w low with
  | nil => simp [encodeCodes]
  | cons c rest ih =>
    obtain ⟨-, hcons, hacross⟩ := List.pairwise_append.1 climbs
    obtain ⟨hahead, -⟩ := List.pairwise_cons.1 hcons
    have hdone : ∀ d ∈ done, d.toNat < c.toNat := fun d hd => by
      have := hacross d hd c List.mem_cons_self
      omega
    have hrest : ∀ d ∈ rest, c.toNat < d.toNat := fun d hd => by
      have := hahead d hd
      omega
    have hnext : ∀ d ∈ rest.head?, (c.toNat + 1) + 60 ≤ d.toNat := fun d hd => by
      have := hahead d (List.mem_of_mem_head? hd)
      omega
    have hlabel : done ++ c :: rest = (done ++ [c]) ++ rest := by simp
    rw [List.map_cons, encodeCodes, foldl_pass hdone hrest]
    rw [hlabel] at climbs ⊢
    refine Nat.le_trans ?_ (ih climbs hnext (by rw [List.length_append, ← hcount]; rfl))
    have hdelta : 14 ≤ done.length → 3 ≤ (deltaDigits w.bias 36
        (w.delta + (c.toNat - low) * (w.count + 1) + done.length)).length := fun hmany => by
      have hstep := hlow c rfl
      have hmul : 60 * (done.length + 1) ≤ (c.toNat - low) * (w.count + 1) := by
        rw [hcount]
        exact Nat.mul_le_mul_right _ (by omega)
      exact three_le_length_deltaDigits (by omega)
    simp only [List.length_append, List.length_cons, List.length_nil]
    omega

theorem eraseDups_of_nodup : ∀ {ns : List Nat}, ns.Nodup → ns.eraseDups = ns
  | [], _ => rfl
  | n :: ns, h => by
    obtain ⟨hn, hns⟩ := List.nodup_cons.1 h
    have hfilter : ns.filter (fun m => !m == n) = ns := List.filter_eq_self.2 fun m hm => by
      have hne : m ≠ n := fun he => hn (he ▸ hm)
      simpa using hne
    rw [List.eraseDups_cons, hfilter, eraseDups_of_nodup hns]

/-- **A label without ASCII that climbs** has an encoded label of three digits and more for each character, except for
fourteen of them. -/
theorem le_length_encode {label : List Char} (climbs : Climbs label) (hwide : ∀ c ∈ label, 188 ≤ c.toNat) :
    3 * (label.length - 14) ≤ (encode label).length := by
  have hplain : label.filter (fun c => c.toNat < 128) = [] := List.filter_eq_nil_iff.2 fun c hc => by
    have := hwide c hc
    simp only [decide_eq_true_eq]
    omega
  have hbeyond : label.filter (fun c => 128 ≤ c.toNat) = label := List.filter_eq_self.2 fun c hc => by
    have := hwide c hc
    simp only [decide_eq_true_eq]
    omega
  have hsorted : (label.map Char.toNat).Pairwise (· < ·) :=
    List.pairwise_map.2 (climbs.imp fun h => by omega)
  have hcodes : (label.map Char.toNat).mergeSort.eraseDups = label.map Char.toNat := by
    rw [List.mergeSort_of_pairwise (hsorted.imp fun h => by simpa using Nat.le_of_lt h),
      eraseDups_of_nodup (hsorted.imp fun h => Nat.ne_of_lt h)]
  have hlength := @le_length_encodeCodes 0 [] label { text := [], count := 0 } 128 climbs
    (fun c hc => hwide c (List.mem_of_mem_head? hc)) rfl
  unfold encode
  rw [hplain, hbeyond, hcodes]
  simpa using hlength

end Encoded
end Domain
end Hypermedia
