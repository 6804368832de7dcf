import Hypermedia.Proofs.Text.Ascii
import Hypermedia.Uri.Percent
import Mathlib.Data.Bool.AllAny
/-!
# Encoded texts

What was encoded stays as it is when it is encoded again (`encode_of_encoded`, `encoded_encode`), and stands for the
bytes that the text stood for before (`decode_encode`), as long as the signs of escapes are none of those that are
encoded.
-/
namespace Hypermedia
namespace Percent

/-- The characters of escapes. -/
def signs : List Char := "%0123456789ABCDEF".toList

theorem toNat_lt_of_mem_signs {c : Char} (h : c ∈ signs) : c.toNat < 0x80 := by
  have hall : ∀ d ∈ signs, d.toNat < 0x80 := List.all_iff_forall_prop.1 (by decide)
  exact hall c h

/-- **An encoded text**: none of its characters has to be encoded. -/
def Encoded (set : Char → Bool) (cs : List Char) : Prop := ∀ c ∈ cs, set c = false ∧ c.toNat < 0x80

/-- A set of characters that leaves escapes alone. -/
def SparesSigns (set : Char → Bool) : Prop := ∀ c ∈ signs, set c = false

instance (set : Char → Bool) : Decidable (SparesSigns set) :=
  decidable_of_iff (signs.all fun c => decide (set c = false)) List.all_iff_forall_prop

theorem sparesSigns_control : SparesSigns control := by decide

theorem sparesSigns_fragmentSet : SparesSigns fragmentSet := by decide

theorem sparesSigns_pathSet : SparesSigns pathSet := by decide

theorem sparesSigns_credentialSet : SparesSigns credentialSet := by decide

theorem sparesSigns_querySet (special : Bool) : SparesSigns (querySet special) := by
  cases special <;> decide

/-- Controls are encoded in every part of an address. -/
theorem control_of_fragmentSet {c : Char} (h : control c = true) : fragmentSet c = true := by
  simp [fragmentSet, h]

theorem control_of_pathSet {c : Char} (h : control c = true) : pathSet c = true := by
  simp [pathSet, control_of_fragmentSet h]

theorem control_of_querySet {special : Bool} {c : Char} (h : control c = true) : querySet special c = true := by
  simp [querySet, h]

/-! ## Escapes -/

theorem mem_signs_of_mem_byte {b : UInt8} {c : Char} (h : c ∈ byte b) : c ∈ signs := by
  have hdigit : ∀ n < 16, Char.ofNat (if n < 10 then 48 + n else 55 + n) ∈ signs := by decide
  have hb : b.toNat < 256 := b.toNat_lt
  simp only [byte, List.mem_cons, List.not_mem_nil, or_false] at h
  rcases h with rfl | rfl | rfl
  · decide
  · exact hdigit _ (by omega)
  · exact hdigit _ (Nat.mod_lt _ (by decide))

theorem mem_signs_of_mem_bytes {c d : Char} (h : d ∈ bytes c) : d ∈ signs := by
  obtain ⟨b, -, hd⟩ := List.mem_flatMap.1 h
  exact mem_signs_of_mem_byte hd

/-- What a character is written as. -/
def escaped (set : Char → Bool) (c : Char) : List Char := if set c || 0x80 ≤ c.toNat then bytes c else [c]

theorem encode_eq_flatMap (set : Char → Bool) (cs : List Char) : encode set cs = cs.flatMap (escaped set) := rfl

theorem escaped_of_free {set : Char → Bool} {c : Char} (hset : set c = false) (hascii : c.toNat < 0x80) :
    escaped set c = [c] := if_neg (by simp [hset, Nat.not_le.2 hascii])

theorem escaped_of_set {set : Char → Bool} {c : Char} (hset : set c = true) : escaped set c = bytes c :=
  if_pos (by simp [hset])

/-- A character is written as it is, or as escapes. -/
theorem mem_escaped {set : Char → Bool} {c d : Char} (h : d ∈ escaped set c) :
    d ∈ signs ∨ d = c ∧ set d = false ∧ d.toNat < 0x80 := by
  unfold escaped at h
  split at h
  · exact .inl (mem_signs_of_mem_bytes h)
  · rename_i hkeep
    obtain rfl := List.mem_singleton.1 h
    simp only [Bool.or_eq_true, decide_eq_true_eq, not_or, Bool.not_eq_true, Nat.not_le] at hkeep
    exact .inr ⟨rfl, hkeep⟩

/-- Every character of an encoded text is one of the text that is not encoded, or belongs to an escape. -/
theorem mem_encode {set : Char → Bool} {cs : List Char} {d : Char} (h : d ∈ encode set cs) :
    d ∈ signs ∨ d ∈ cs ∧ set d = false ∧ d.toNat < 0x80 := by
  obtain ⟨c, hc, hd⟩ := List.mem_flatMap.1 h
  refine (mem_escaped hd).imp_right fun ⟨he, hfree⟩ => ⟨he ▸ hc, hfree⟩

theorem encoded_encode {set : Char → Bool} (h : SparesSigns set) (cs : List Char) : Encoded set (encode set cs) := by
  intro d hd
  rcases mem_encode hd with hsign | ⟨-, hfree⟩
  · exact ⟨h d hsign, toNat_lt_of_mem_signs hsign⟩
  · exact hfree

@[simp] theorem encode_nil (set : Char → Bool) : encode set [] = [] := rfl

theorem encode_cons (set : Char → Bool) (c : Char) (cs : List Char) :
    encode set (c :: cs) = (if set c || 0x80 ≤ c.toNat then bytes c else [c]) ++ encode set cs := rfl

/-- **An encoded text stays as it is.** -/
theorem encode_of_encoded {set : Char → Bool} : ∀ {cs : List Char}, Encoded set cs → encode set cs = cs
  | [], _ => rfl
  | c :: cs, h => by
    obtain ⟨hfree, hascii⟩ := h c List.mem_cons_self
    rw [encode_cons, if_neg (by simp [hfree, Nat.not_le.2 hascii]),
      encode_of_encoded fun d hd => h d (List.mem_cons_of_mem c hd)]
    rfl

/-! ## What a text stands for -/

theorem decode_cons_of_ne {c : Char} (h : c ≠ '%') (cs : List Char) :
    decode (c :: cs) = String.utf8EncodeChar c ++ decode cs := by
  rw [decode]
  rintro _ _ _ rfl
  exact absurd rfl h

theorem decode_ne_nil (c : Char) (cs : List Char) : decode (c :: cs) ≠ [] := by
  intro h
  unfold decode at h
  split at h
  · cases ‹c :: cs = []›
  · split at h <;> cases h
  · exact String.utf8EncodeChar_ne_nil (List.append_eq_nil_iff.1 h).1

/-- A percent sign with less than two digits behind it stands for itself. -/
theorem decode_percent_of_none {a : Char} {cs : List Char}
    (h : Text.digitValue? a = none ∨ ∀ b ∈ cs.head?, Text.digitValue? b = none) :
    decode ('%' :: a :: cs) = 0x25 :: decode (a :: cs) := by
  rcases cs with _ | ⟨b, cs⟩
  · rfl
  · rw [decode]
    split
    · rename_i hx hy
      rcases h with h | h
      · rw [h] at hx; cases hx
      · rw [h b rfl] at hy; cases hy
    · rfl

theorem decode_percent_of_digits {a b : Char} {x y : Nat} (hx : Text.digitValue? a = some x)
    (hy : Text.digitValue? b = some y) (cs : List Char) :
    decode ('%' :: a :: b :: cs) = UInt8.ofNat (16 * x + y) :: decode cs := by
  rw [decode, hx, hy]

/-- **An escape stands for its byte.** -/
theorem decode_byte (b : UInt8) (cs : List Char) : decode (byte b ++ cs) = b :: decode cs := by
  have hdigit : ∀ n < 16, Text.digitValue? (Char.ofNat (if n < 10 then 48 + n else 55 + n)) = some n := by decide
  have hb : b.toNat < 256 := b.toNat_lt
  have hvalue : 16 * (b.toNat / 16) + b.toNat % 16 = b.toNat := Nat.div_add_mod _ _
  refine (decode_percent_of_digits (hdigit _ (by omega)) (hdigit _ (Nat.mod_lt _ (by decide))) cs).trans ?_
  rw [hvalue, UInt8.ofNat_toNat]

theorem decode_bytes (c : Char) (cs : List Char) : decode (bytes c ++ cs) = String.utf8EncodeChar c ++ decode cs := by
  unfold bytes
  induction String.utf8EncodeChar c with
  | nil => rfl
  | cons b bs ih => rw [List.flatMap_cons, List.append_assoc, decode_byte, ih]; rfl

/-- The sets of the parts of addresses leave the digits of escapes alone, in either case. -/
def SparesDigits (set : Char → Bool) : Prop := ∀ c, (Text.digitValue? c).isSome → set c = false

/-- Sets of ASCII characters can be checked one by one. -/
theorem sparesDigits_of_ascii {set : Char → Bool}
    (h : ∀ n < 0x80, (Text.digitValue? (Char.ofNat n)).isSome → set (Char.ofNat n) = false) : SparesDigits set :=
  fun _ hc => Text.of_ascii (P := fun c => (Text.digitValue? c).isSome → set c = false) h
    (Text.toNat_lt_of_digitValue? hc) hc

theorem sparesDigits_pathSet : SparesDigits pathSet := sparesDigits_of_ascii (by decide)

theorem bytes_eq_cons (c : Char) : ∃ ds, bytes c = '%' :: ds := by
  unfold bytes
  rcases h : String.utf8EncodeChar c with _ | ⟨b, bs⟩
  · exact absurd h String.utf8EncodeChar_ne_nil
  · exact ⟨_, rfl⟩

/-- An encoded text starts with the first character of the text, or with an escape of it. -/
theorem encode_eq_cons (set : Char → Bool) (c : Char) (cs : List Char) :
    ((set c || decide (0x80 ≤ c.toNat)) = false ∧ encode set (c :: cs) = c :: encode set cs) ∨
      ((set c || decide (0x80 ≤ c.toNat)) = true ∧ ∃ ds, encode set (c :: cs) = '%' :: ds) := by
  rcases h : set c || decide (0x80 ≤ c.toNat) with _ | _
  · exact .inl ⟨rfl, by rw [encode_cons, h]; rfl⟩
  · obtain ⟨ds, hds⟩ := bytes_eq_cons c
    exact .inr ⟨rfl, _, by rw [encode_cons, h, if_pos rfl, hds]; rfl⟩

theorem encode_ne_nil (set : Char → Bool) {cs : List Char} (h : cs ≠ []) : encode set cs ≠ [] := by
  obtain ⟨c, cs, rfl⟩ := List.exists_cons_of_ne_nil h
  rcases encode_eq_cons set c cs with ⟨-, hcons⟩ | ⟨-, ds, hcons⟩ <;> simp [hcons]

theorem encode_percent {set : Char → Bool} (hsigns : SparesSigns set) (cs : List Char) :
    encode set ('%' :: cs) = '%' :: encode set cs := by
  rw [encode_cons, hsigns '%' (by decide)]
  rfl

/-- The digits of escapes stay as they are. -/
theorem encode_digit {set : Char → Bool} (hdigits : SparesDigits set) {c : Char} {x : Nat}
    (h : Text.digitValue? c = some x) (cs : List Char) : encode set (c :: cs) = c :: encode set cs := by
  have hsome : (Text.digitValue? c).isSome := by rw [h]; rfl
  have hascii : ¬ 0x80 ≤ c.toNat := Nat.not_le.2 (Text.toNat_lt_of_digitValue? hsome)
  rw [encode_cons, hdigits c hsome, Bool.false_or, if_neg (by simpa using hascii)]
  rfl

/-- Behind a percent sign without two digits there are no two digits in the encoded text either. -/
theorem decode_encode_percent {set : Char → Bool} (hsigns : SparesSigns set) {a : Char} {cs : List Char}
    (h : Text.digitValue? a = none ∨ ∀ b ∈ cs.head?, Text.digitValue? b = none) :
    decode (encode set ('%' :: a :: cs)) = 0x25 :: decode (encode set (a :: cs)) := by
  rw [encode_percent hsigns]
  rcases encode_eq_cons set a cs with ⟨-, ha⟩ | ⟨-, ds, ha⟩
  · rw [ha]
    refine decode_percent_of_none (h.imp_right fun h b hb => ?_)
    rcases cs with _ | ⟨c, cs⟩
    · cases hb
    · rcases encode_eq_cons set c cs with ⟨-, hc⟩ | ⟨-, ds, hc⟩
      · rw [hc] at hb
        exact h _ (Option.some.inj hb ▸ rfl)
      · rw [hc] at hb
        cases hb
        rfl
  · rw [ha]
    exact decode_percent_of_none (.inl (by decide))

/-- **Encoding a text does not change what it stands for.** -/
theorem decode_encode {set : Char → Bool} (hsigns : SparesSigns set) (hdigits : SparesDigits set) (cs : List Char) :
    decode (encode set cs) = decode cs := by
  induction cs using decode.induct with
  | case1 => rfl
  | case2 a b cs x y hb ha ih =>
    rw [encode_percent hsigns, encode_digit hdigits ha, encode_digit hdigits hb, decode_percent_of_digits ha hb,
      decode_percent_of_digits ha hb, ih]
  | case3 a b cs h ih =>
    have hmissing : Text.digitValue? a = none ∨ ∀ c ∈ (b :: cs).head?, Text.digitValue? c = none := by
      rcases ha : Text.digitValue? a with _ | x
      · exact .inl rfl
      · refine .inr fun c hc => ?_
        cases hc
        rcases hb : Text.digitValue? b with _ | y
        · rfl
        · exact (h x y ha hb).elim
    rw [decode_encode_percent hsigns hmissing, decode_percent_of_none hmissing, ih]
  | case4 c cs h ih =>
    by_cases hc : c = '%'
    · subst hc
      rcases cs with _ | ⟨a, _ | ⟨b, cs⟩⟩
      · rw [encode_percent hsigns]
        rfl
      · rw [decode_encode_percent hsigns (.inr fun b hb => by cases hb), ih]
        rfl
      · exact (h a b cs rfl rfl).elim
    · rw [decode_cons_of_ne hc, ← ih]
      rcases encode_eq_cons set c cs with ⟨-, henc⟩ | ⟨henc, -⟩
      · rw [henc, decode_cons_of_ne hc]
      · rw [encode_cons, henc, if_pos rfl, decode_bytes]

/-- A text without percent signs stands for itself. -/
theorem text?_of_not_mem {cs : List Char} (h : '%' ∉ cs) : text? cs = some (String.ofList cs) := by
  have hdecode : ∀ {cs : List Char}, '%' ∉ cs → decode cs = cs.flatMap String.utf8EncodeChar := by
    intro cs h
    induction cs with
    | nil => rfl
    | cons c cs ih =>
      rw [decode_cons_of_ne fun hc => h (hc ▸ List.mem_cons_self), List.flatMap_cons,
        ih fun hm => h (List.mem_cons_of_mem c hm)]
  have hbytes : (⟨(decode cs).toArray⟩ : ByteArray) = cs.utf8Encode := by
    rw [hdecode h]
    exact ByteArray.ext List.data_toByteArray.symm
  unfold text?
  rw [hbytes, String.fromUTF8?, dif_pos ByteArray.isValidUTF8_utf8Encode]
  rfl

end Percent
end Hypermedia
