import Hypermedia.Proofs.Text.Split
import Hypermedia.Proofs.Uri.Percent
import Hypermedia.Uri.Path
/-!
# Paths that were read

The segments of a path that was read are encoded, hold no separators and are no dots (`Segment.Sound`).  The text of
such segments is read as the same segments again, unless a drive in front is mended (`readFrom_chars`).
-/
namespace Hypermedia
namespace Path

open Percent (decode Encoded)

/-! ## Dots -/

theorem eq_of_digitValue?_two {c : Char} (h : Text.digitValue? c = some 2) : c = '2' :=
  Text.of_digitValue? (P := fun c => c = '2') (by decide) h

theorem eq_of_digitValue?_fourteen {c : Char} (h : Text.digitValue? c = some 14) : c = 'e' ∨ c = 'E' :=
  Text.of_digitValue? (P := fun c => c = 'e' ∨ c = 'E') (by decide) h

theorem eq_dot_of_utf8 {c : Char} {bs : List UInt8} (h : String.utf8EncodeChar c = 0x2e :: bs) : c = '.' := by
  have hbyte : ∀ {n : Nat}, UInt8.ofNat n = 0x2e → n % 256 = 46 := fun hn => by simpa using congrArg UInt8.toNat hn
  unfold String.utf8EncodeChar at h
  extract_lets v at h
  split at h
  · have hv := hbyte (List.cons.inj h).1
    have hc : c.toNat = 46 := by
      have : v = c.toNat := rfl
      omega
    rw [← Char.ofNat_toNat c, hc]
  · -- the first byte of a longer form has its upper bits set
    exfalso
    split at h
    · have := hbyte (List.cons.inj h).1; omega
    · split at h
      · have := hbyte (List.cons.inj h).1; omega
      · have := hbyte (List.cons.inj h).1; omega

/-- A percent sign belongs to the escape of a dot where it stands for one. -/
theorem escape_of_decode {cs : List Char} {bs : List UInt8} (h : decode ('%' :: cs) = 0x2e :: bs) :
    ∃ d rest, cs = '2' :: d :: rest ∧ (d = 'e' ∨ d = 'E') := by
  rcases cs with _ | ⟨a, cs⟩
  · cases h
  by_cases hdigits : Text.digitValue? a = none ∨ ∀ b ∈ cs.head?, Text.digitValue? b = none
  · rw [Percent.decode_percent_of_none hdigits] at h
    cases h
  obtain ⟨ha, hb⟩ := not_or.1 hdigits
  obtain ⟨x, hx⟩ := Option.ne_none_iff_exists'.1 ha
  rcases cs with _ | ⟨b, cs⟩
  · simp at hb
  obtain ⟨y, hy⟩ := Option.ne_none_iff_exists'.1 (by simpa using hb)
  rw [Percent.decode_percent_of_digits hx hy] at h
  have hvalue : (16 * x + y) % 256 = 46 := by simpa using congrArg UInt8.toNat (List.cons.inj h).1
  have hlt := Text.digitValue?_lt hx
  have hlt' := Text.digitValue?_lt hy
  obtain rfl : x = 2 := by omega
  obtain rfl : y = 14 := by omega
  obtain rfl := eq_of_digitValue?_two hx
  exact ⟨b, cs, rfl, eq_of_digitValue?_fourteen hy⟩

/-- **What dots stand for**: a text reads as dots when it stands for the bytes of dots. -/
theorem plainDots_eq_iff (s : Segment) (n : Nat) :
    plainDots s = List.replicate n '.' ↔ decode s = List.replicate n 0x2e := by
  have hdot : ∀ {d : Char}, Text.digitValue? d = some 14 → ∀ cs, decode ('%' :: '2' :: d :: cs) = 0x2e :: decode cs :=
    fun hd cs => Percent.decode_percent_of_digits (x := 2) (by decide) hd cs
  induction s using plainDots.induct generalizing n with
  | case1 cs ih =>
    rw [hdot (by decide)]
    cases n with
    | zero => simp [plainDots]
    | succ n => simp [plainDots, List.replicate_succ, ih]
  | case2 cs ih =>
    rw [hdot (by decide)]
    cases n with
    | zero => simp [plainDots]
    | succ n => simp [plainDots, List.replicate_succ, ih]
  | case3 c cs h h' ih =>
    have hplain : plainDots (c :: cs) = c :: plainDots cs := by
      rw [plainDots]
      · exact h
      · exact h'
    rw [hplain]
    cases n with
    | zero => simp [Percent.decode_ne_nil]
    | succ n =>
      rw [List.replicate_succ, List.replicate_succ, List.cons.injEq]
      constructor
      · rintro ⟨rfl, hrest⟩
        rw [Percent.decode_cons_of_ne (by decide), (ih n).1 hrest]
        rfl
      · intro hdecode
        by_cases hc : c = '%'
        · subst hc
          obtain ⟨d, rest, rfl, rfl | rfl⟩ := escape_of_decode hdecode
          · exact (h rest rfl rfl).elim
          · exact (h' rest rfl rfl).elim
        · rw [Percent.decode_cons_of_ne hc] at hdecode
          rcases hb : String.utf8EncodeChar c with _ | ⟨b, bs⟩
          · exact absurd hb String.utf8EncodeChar_ne_nil
          · rw [hb, List.cons_append, List.cons.injEq] at hdecode
            obtain rfl := eq_dot_of_utf8 (hdecode.1 ▸ hb)
            cases hb
            exact ⟨rfl, (ih n).2 hdecode.2⟩
  | case4 => cases n <;> simp [plainDots, decode, List.replicate_succ]

theorem isSingleDot_eq (s : Segment) : isSingleDot s = (decode s == [0x2e]) :=
  Bool.eq_iff_iff.2 (by simpa [isSingleDot] using plainDots_eq_iff s 1)

theorem isDoubleDot_eq (s : Segment) : isDoubleDot s = (decode s == [0x2e, 0x2e]) :=
  Bool.eq_iff_iff.2 (by simpa [isDoubleDot] using plainDots_eq_iff s 2)

/-! ## Segments -/

/-- **A segment that was read**: it is encoded, has no separator in it, and is no dot. -/
structure Sound (special : Bool) (s : Segment) : Prop where
  encoded : Encoded Percent.pathSet s
  whole : ∀ c ∈ s, isSeparator special c = false
  notSingle : isSingleDot s = false
  notDouble : isDoubleDot s = false

/-- Segments that were read. -/
def AllSound (special : Bool) (segments : List Segment) : Prop := ∀ s ∈ segments, Sound special s

variable {special mend final : Bool} {read segments : List Segment} {s : Segment}

/-- A path of segments that were read holds slashes and what need not be encoded in it. -/
theorem mem_chars {c : Char} (h : AllSound special segments) (hc : c ∈ chars segments) :
    c = '/' ∨ Percent.pathSet c = false ∧ c.toNat < 0x80 := by
  obtain ⟨s, hs, hc⟩ := List.mem_flatMap.1 hc
  rcases List.mem_cons.1 hc with rfl | hc
  · exact .inl rfl
  · exact .inr ((h s hs).encoded c hc)

theorem chars_append (ss ts : List Segment) : chars (ss ++ ts) = chars ss ++ chars ts := List.flatMap_append

theorem chars_singleton (s : Segment) : chars [s] = '/' :: s := List.flatMap_singleton ..

theorem allSound_nil : AllSound special [] := fun _ hs => by cases hs

theorem sound_nil : Sound special [] where
  encoded _ hc := by cases hc
  whole _ hc := by cases hc
  notSingle := rfl
  notDouble := rfl

theorem isSeparator_of_mem_signs {c : Char} (h : c ∈ Percent.signs) : isSeparator special c = false := by
  have hall : ∀ d ∈ Percent.signs, isSeparator special d = false :=
    List.all_iff_forall_prop.1 (by cases special <;> decide)
  exact hall c h

/-- Encoding makes a segment without separators sound, unless it is a dot. -/
theorem sound_encode (hwhole : ∀ c ∈ s, isSeparator special c = false) (hsingle : isSingleDot s = false)
    (hdouble : isDoubleDot s = false) : Sound special (Percent.encode Percent.pathSet s) := by
  have hdecode := Percent.decode_encode Percent.sparesSigns_pathSet Percent.sparesDigits_pathSet s
  refine ⟨Percent.encoded_encode Percent.sparesSigns_pathSet s, fun c hc => ?_, ?_, ?_⟩
  · rcases Percent.mem_encode hc with hsign | ⟨hmem, -⟩
    · exact isSeparator_of_mem_signs hsign
    · exact hwhole c hmem
  · rw [isSingleDot_eq, hdecode, ← isSingleDot_eq, hsingle]
  · rw [isDoubleDot_eq, hdecode, ← isDoubleDot_eq, hdouble]

/-- A mended drive is sound. -/
theorem sound_drive {c : Char} (h : c.isAlpha = true) : Sound special [c, ':'] := by
  have hascii := Text.toNat_lt_of_isAlpha h
  obtain ⟨hset, htrue, hfalse, hsingle, hdouble⟩ := Text.of_ascii
    (P := fun c => c.isAlpha = true → Percent.pathSet c = false ∧ isSeparator true c = false ∧
      isSeparator false c = false ∧ isSingleDot [c, ':'] = false ∧ isDoubleDot [c, ':'] = false) (by decide) hascii h
  refine ⟨?_, ?_, hsingle, hdouble⟩
  · simp [Encoded, hset, hascii]
    decide
  · cases special <;> simp [htrue, hfalse] <;> decide

theorem isAlpha_of_isDrive {c : Char} {cs : List Char} (h : isDrive (c :: cs) = true) : c.isAlpha = true := by
  unfold isDrive at h
  split at h
  · rename_i hcs
    cases hcs
    exact (Bool.and_eq_true_iff.1 h).1
  · cases h

theorem mem_pop {s : Segment} : s ∈ pop read → s ∈ read := by
  unfold pop
  split
  · exact id
  · split
    · exact id
    · exact List.mem_cons_of_mem _

/-- **Reading one segment** adds only sound ones. -/
theorem allSound_push (hread : AllSound special read) (hwhole : ∀ c ∈ s, isSeparator special c = false) :
    AllSound special (push mend read s final) := by
  have hpop : AllSound special (pop read) := fun t ht => hread t (mem_pop ht)
  have hcons : ∀ {t ts}, Sound special t → AllSound special ts → AllSound special (t :: ts) := fun ht hts =>
    List.forall_mem_cons.2 ⟨ht, hts⟩
  unfold push
  split
  · split
    · exact hcons sound_nil hpop
    · exact hpop
  · split
    · split
      · exact hcons sound_nil hread
      · exact hread
    · rename_i hdouble hsingle
      split
      · rename_i c rest hmend
        refine hcons (sound_drive ?_) hread
        simp only [Bool.and_eq_true] at hmend
        exact isAlpha_of_isDrive hmend.2
      · exact hcons (sound_encode hwhole (by simpa using hsingle) (by simpa using hdouble)) hread

theorem pushAll_cons_cons (mend : Bool) (read : List Segment) (s t : Segment) (ss : List Segment) :
    pushAll mend read (s :: t :: ss) = pushAll mend (push mend read s false) (t :: ss) := rfl

theorem allSound_pushAll : ∀ {ss read : List Segment}, AllSound special read →
    (∀ s ∈ ss, ∀ c ∈ s, isSeparator special c = false) → AllSound special (pushAll mend read ss)
  | [], _, hread, _ => hread
  | [s], _, hread, h => allSound_push hread (h s List.mem_cons_self)
  | s :: t :: ss, _, hread, h => by
    rw [pushAll_cons_cons]
    exact allSound_pushAll (allSound_push hread (h s List.mem_cons_self)) fun r hr => h r (List.mem_cons_of_mem s hr)

/-- **Segments that are read are sound.** -/
theorem allSound_readFrom (hread : AllSound special read) (mend : Bool) (cs : List Char) :
    AllSound special (readFrom mend special read cs) := fun s hs =>
  allSound_pushAll hread (fun _ hr c hc => (Text.mem_splitAll hr c hc).1) s (List.mem_reverse.1 hs)

theorem push_ne_nil (mend : Bool) (read : List Segment) (s : Segment) : push mend read s true ≠ [] := by
  unfold push
  split
  · simp
  · split
    · simp
    · split <;> simp

theorem pushAll_ne_nil : ∀ {ss read : List Segment}, ss ≠ [] → pushAll mend read ss ≠ []
  | [], _, h => absurd rfl h
  | [s], read, _ => push_ne_nil mend read s
  | _ :: t :: ss, _, _ => by
    rw [pushAll_cons_cons]
    exact pushAll_ne_nil (List.cons_ne_nil t ss)

/-- A path that is read has at least one segment. -/
theorem readFrom_ne_nil (mend special : Bool) (read : List Segment) (cs : List Char) :
    readFrom mend special read cs ≠ [] := by
  unfold readFrom
  rw [Ne, List.reverse_eq_nil_iff]
  exact pushAll_ne_nil (Text.splitAll_ne_nil _ cs)

/-! ## Names -/

theorem plainDots_of_not_mem : ∀ {s : Segment}, '%' ∉ s → plainDots s = s
  | [], _ => rfl
  | c :: cs, h => by
    have hc : c ≠ '%' := fun he => h (he ▸ List.mem_cons_self)
    have hcs := plainDots_of_not_mem fun hm : '%' ∈ cs => h (List.mem_cons_of_mem c hm)
    rw [plainDots, hcs]
    · rintro ds rfl
      exact absurd rfl hc
    · rintro ds rfl
      exact absurd rfl hc

/-- Whether a character means nothing but itself, wherever it stands in an address. -/
def isUnreserved (c : Char) : Bool := c.isAlphanum || c == '-' || c == '.' || c == '_' || c == '~'

/-- **A name**: a segment of unreserved characters that is neither empty nor a dot. -/
structure IsName (s : Segment) : Prop where
  ne_nil : s ≠ []
  notSingle : s ≠ ['.']
  notDouble : s ≠ ['.', '.']
  unreserved : ∀ c ∈ s, isUnreserved c = true

instance : DecidablePred IsName := fun s =>
  decidable_of_iff (s ≠ [] ∧ s ≠ ['.'] ∧ s ≠ ['.', '.'] ∧ s.all isUnreserved = true)
    ⟨fun ⟨h, hsingle, hdouble, hall⟩ => ⟨h, hsingle, hdouble, List.all_eq_true.1 hall⟩,
      fun ⟨h, hsingle, hdouble, hall⟩ => ⟨h, hsingle, hdouble, List.all_eq_true.2 hall⟩⟩

theorem toNat_lt_of_isUnreserved {c : Char} (h : isUnreserved c = true) : c.toNat < 0x80 := by
  simp only [isUnreserved, Char.isAlphanum, Bool.or_eq_true, beq_iff_eq] at h
  rcases h with ((((h | h) | rfl) | rfl) | rfl) | rfl
  · exact Text.toNat_lt_of_isAlpha h
  · exact Text.toNat_lt_of_isDigit h
  all_goals decide

theorem IsName.not_mem (h : IsName s) {c : Char} (hc : isUnreserved c = false) : c ∉ s := fun hm => by
  rw [h.unreserved c hm] at hc
  cases hc

/-- **A name is read as it is.** -/
theorem IsName.sound (h : IsName s) : Sound special s := by
  have hchar : ∀ c ∈ s, Percent.pathSet c = false ∧ isSeparator true c = false ∧ c ≠ '%' := fun c hc =>
    Text.of_ascii
      (P := fun c => isUnreserved c = true → Percent.pathSet c = false ∧ isSeparator true c = false ∧ c ≠ '%')
      (by decide +kernel) (toNat_lt_of_isUnreserved (h.unreserved c hc)) (h.unreserved c hc)
  have hplain : plainDots s = s := plainDots_of_not_mem fun hc => (hchar '%' hc).2.2 rfl
  refine ⟨fun c hc => ⟨(hchar c hc).1, toNat_lt_of_isUnreserved (h.unreserved c hc)⟩, fun c hc => ?_, ?_, ?_⟩
  · have hsep := (hchar c hc).2.1
    unfold isSeparator at hsep ⊢
    cases special <;> simp_all
  · unfold isSingleDot
    rw [hplain, beq_eq_false_iff_ne]
    exact h.notSingle
  · unfold isDoubleDot
    rw [hplain, beq_eq_false_iff_ne]
    exact h.notDouble

/-- A number is a name. -/
theorem isName_of_isDigit (h : ∀ c ∈ s, c.isDigit = true) (hne : s ≠ []) : IsName s where
  ne_nil := hne
  notSingle := by
    rintro rfl
    exact absurd (h '.' List.mem_cons_self) (by decide)
  notDouble := by
    rintro rfl
    exact absurd (h '.' List.mem_cons_self) (by decide)
  unreserved c hc := by simp [isUnreserved, Char.isAlphanum, h c hc]

/-! ## Reading segments again -/

theorem push_of_sound (h : Sound special s) (hmend : (mend && read.isEmpty && isDrive s) = false) :
    push mend read s final = s :: read := by
  unfold push
  rw [h.notDouble, h.notSingle]
  simp [hmend, Percent.encode_of_encoded h.encoded]

theorem pushAll_of_sound : ∀ {ss read : List Segment}, AllSound special ss →
    (∀ s ∈ ss.head?, (mend && read.isEmpty && isDrive s) = false) → pushAll mend read ss = ss.reverse ++ read
  | [], _, _, _ => rfl
  | [s], _, h, hmend => push_of_sound (h s List.mem_cons_self) (hmend s rfl)
  | s :: t :: ss, read, h, hmend => by
    rw [pushAll_cons_cons, push_of_sound (h s List.mem_cons_self) (hmend s rfl),
      pushAll_of_sound (fun r hr => h r (List.mem_cons_of_mem s hr)) (by simp)]
    simp

/-- A path is cut into its segments at the slashes, if these are all that separates. -/
theorem splitAll_chars {p : Char → Bool} (hp : p '/' = true) : ∀ {s : Segment} {ss : List Segment},
    (∀ r ∈ s :: ss, ∀ c ∈ r, p c = false) → Text.splitAll p (s ++ chars ss) = s :: ss
  | s, [], h => by simpa [chars] using Text.splitAll_of_none (h s List.mem_cons_self)
  | s, t :: ss, h => by
    have hchars : chars (t :: ss) = '/' :: (t ++ chars ss) := rfl
    rw [hchars, Text.splitAll_append hp _ (h s List.mem_cons_self),
      splitAll_chars hp fun r hr => h r (List.mem_cons_of_mem s hr)]

/-- **A path of sound segments has these segments.** -/
theorem segments?_chars (h : AllSound special segments) (hne : segments ≠ []) :
    segments? (chars segments) = some segments := by
  obtain ⟨s, ss, rfl⟩ := List.exists_cons_of_ne_nil hne
  have hwhole : ∀ r ∈ s :: ss, ∀ c ∈ r, (c == '/') = false := fun r hr c hc =>
    (Bool.or_eq_false_iff.1 ((h r hr).whole c hc)).1
  exact congrArg some (splitAll_chars (p := (· == '/')) rfl hwhole)

/-- **The text of sound segments is read as these segments**, unless a drive in front is mended. -/
theorem readFrom_chars (h : AllSound special (s :: segments)) (hmend : (mend && isDrive s) = false) :
    readFrom mend special [] (s ++ chars segments) = s :: segments := by
  unfold readFrom
  rw [splitAll_chars (by simp [isSeparator]) fun r hr => (h r hr).whole, pushAll_of_sound h (by simpa using hmend)]
  simp

end Path
end Hypermedia
