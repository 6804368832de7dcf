import Hypermedia.Proofs.Uri.Web
/-!
# Domains that are too long to be read again

A label of up to a thousand characters is encoded, however long the encoded label gets, but of an encoded label only two
thousand digits are read.  A label of ideographs that lie far apart has more digits than that (`ascii?_of_climbs`), so
the text of an address with such a host is not read (`special?_of_climbs`).
-/
namespace Hypermedia

/-! ## Tables without a range -/

namespace Text

variable {c : Char} {low high : Nat}

/-- What grows along a list is cut at the same place for all numbers of a range that holds no turning point. -/
theorem takeWhile_le_eq {α : Type} {f : α → Nat} {n : Nat} (hlow : low ≤ n) (hhigh : n < high) :
    ∀ {xs : List α}, (∀ x ∈ xs, f x ≤ low ∨ high ≤ f x) → xs.takeWhile (f · ≤ n) = xs.takeWhile (f · ≤ low)
  | [], _ => rfl
  | x :: xs, h => by
    obtain ⟨hx, hxs⟩ := List.forall_mem_cons.1 h
    have heq : decide (f x ≤ n) = decide (f x ≤ low) := by
      rw [decide_eq_decide]
      omega
    rw [List.takeWhile_cons, List.takeWhile_cons, heq, takeWhile_le_eq hlow hhigh hxs]

theorem CharSet.contains_eq {s : CharSet} (hlow : low ≤ c.toNat) (hhigh : c.toNat < high)
    (h : ∀ b ∈ s.bounds, b ≤ low ∨ high ≤ b) : s.contains c = ((s.bounds.takeWhile (· ≤ low)).length % 2 == 1) := by
  unfold CharSet.contains
  rw [takeWhile_le_eq hlow hhigh h]

theorem CharMap.image?_eq_none {m : CharMap} (h : ∀ r ∈ m.runs, c.toNat < r.first ∨ r.last < c.toNat) :
    m.image? c = none := by
  unfold CharMap.image?
  rw [List.find?_eq_none.2, Option.map_none]
  intro r hr
  have := h r hr
  simp only [CharRun.covers, Bool.and_eq_true, decide_eq_true_eq]
  omega

theorem forall_mem_ofList {P : Char → Prop} [DecidablePred P] {cs : List Char} (h : cs.all (decide <| P ·)) :
    ∀ c ∈ (String.ofList cs).toList, P c := by
  rw [String.toList_ofList]
  exact List.all_iff_forall_prop.1 h

end Text

namespace Domain

open Text

/-! ## Ideographs -/

/-- **An ideograph**, from the first block beyond the characters of two bytes. -/
def IsIdeograph (c : Char) : Prop := 0x20000 ≤ c.toNat ∧ c.toNat < 0x2a6e0

variable {c : Char}

set_option maxRecDepth 4000 in
/-- Ideographs are in no pair that composes.  The pairs are texts, and each is checked as the list that it is. -/
theorem apart_of_mem_pairs : ∀ s ∈ composites, ∀ d ∈ s.pairs.toList, d.toNat < 0x20000 ∨ 0x2a6e0 ≤ d.toNat := by
  simp only [composites, List.forall_mem_cons, List.not_mem_nil, false_imp_iff, implies_true, and_true]
  and_intros
  all_goals exact forall_mem_ofList (by decide +kernel)

theorem isInert_of_isIdeograph (h : IsIdeograph c) : IsInert c where
  decompose := by
    refine decompose_of_apart (fun s hs hm => ?_) (.inr (by unfold IsIdeograph at h; omega))
    have := apart_of_mem_pairs s hs c hm
    unfold IsIdeograph at h
    omega
  markClass := by
    have hruns : ∀ r ∈ markRuns, r.last < 0x20000 := by decide +kernel
    exact markClass_of_apart fun r hr => .inr (Nat.lt_of_lt_of_le (hruns r hr) h.1)
  compose? := by
    have hlast : ∀ s ∈ composites, s.last < 0x20000 := by decide +kernel
    refine compose?_of_apart (fun s hs => ?_) (.inr (by unfold IsIdeograph at h; omega))
    exact Nat.ne_of_lt (Nat.lt_of_lt_of_le (hlast s hs) h.1)

theorem contains_of_isIdeograph (h : IsIdeograph c) {s : CharSet}
    (hbounds : ∀ b ∈ s.bounds, b ≤ 0x20000 ∨ 0x2a6e0 ≤ b) :
    s.contains c = ((s.bounds.takeWhile (· ≤ 0x20000)).length % 2 == 1) :=
  CharSet.contains_eq h.1 h.2 hbounds

theorem listed?_of_isIdeograph (h : IsIdeograph c) : listed? c = none := by
  have hfirst : ∀ l ∈ spellingLists, l.first ≤ 0x20000 ∨ 0x2a6e0 ≤ l.first := by decide +kernel
  have hlast : ∀ l ∈ (spellingLists.takeWhile (·.first ≤ 0x20000)).getLast?,
      l.first + (splitAll (· == ' ') l.spellings.toList).length ≤ 0x20000 := by decide +kernel
  unfold listed?
  rw [takeWhile_le_eq h.1 h.2 hfirst, Option.bind_eq_none_iff]
  intro l hl
  have := hlast l hl
  have := h.1
  exact List.getElem?_eq_none (by omega)

/-- **Ideographs are spelled as themselves.** -/
theorem spelling?_of_isIdeograph (h : IsIdeograph c) : spelling? c = some [c] := by
  have hruns : ∀ r ∈ spellingRuns.runs, r.last < 0x20000 := by decide +kernel
  have hcapitals : ∀ r ∈ capitals.runs, r.last < 0x20000 := by decide +kernel
  have hbounds : ∀ b ∈ ignored.bounds ++ refused.bounds, b ≤ 0x20000 ∨ 0x2a6e0 ≤ b := by decide +kernel
  have hignored : ignored.contains c = false :=
    (contains_of_isIdeograph h fun b hb => hbounds b (List.mem_append_left _ hb)).trans (by decide +kernel)
  have hrefused : refused.contains c = false :=
    (contains_of_isIdeograph h fun b hb => hbounds b (List.mem_append_right _ hb)).trans (by decide +kernel)
  have himage : spellingRuns.image? c = none :=
    CharMap.image?_eq_none fun r hr => .inr (Nat.lt_of_lt_of_le (hruns r hr) h.1)
  have hsmall : lowerCase c = [c] := by
    have hdotted : (c.toNat == 0x130) = false := by
      rw [beq_eq_false_iff_ne]
      have := h.1
      omega
    rw [lowerCase, hdotted, CharMap.image?_eq_none fun r hr => .inr (Nat.lt_of_lt_of_le (hcapitals r hr) h.1)]
    rfl
  have hwide : ¬ c.toNat < 0x80 := by
    have := h.1
    omega
  rw [spelling?, if_neg hwide, hignored, himage, listed?_of_isIdeograph h, hsmall, hrefused]
  simp

theorem isForbidden_of_isIdeograph (h : IsIdeograph c) : isForbidden c = false := by
  have hsigns : ∀ d ∈ "#/:<>?@[\\]^|%".toList, d.toNat < 0x80 := List.all_iff_forall_prop.1 (by decide)
  have hlow := h.1
  rcases hf : isForbidden c with _ | _
  · rfl
  · simp only [isForbidden, Bool.or_eq_true, decide_eq_true_eq, beq_iff_eq, List.contains_iff_mem] at hf
    rcases hf with (hf | hf) | hf
    · omega
    · omega
    · have := hsigns c hf
      omega

theorem isRightward_of_isIdeograph (h : IsIdeograph c) : isRightward c = false := by
  have hfirst : ∀ d ∈ directionChanges, d.first ≤ 0x20000 ∨ 0x2a6e0 ≤ d.first := by decide +kernel
  have hlast : ((directionChanges.takeWhile (·.first ≤ 0x20000)).getLast?.map (·.direction)).getD .left = .left := by
    decide +kernel
  have hlow := h.1
  have halpha : c.isAlpha = false := Bool.eq_false_iff.2 fun ha => by
    have := toNat_lt_of_isAlpha ha
    omega
  have hdigit : c.isDigit = false := Bool.eq_false_iff.2 fun hd => by
    have := toNat_lt_of_isDigit hd
    omega
  have hdirection : direction c = .left := by
    rw [direction, halpha, hdigit, if_neg (by decide), if_neg (by decide), if_neg (by omega),
      takeWhile_le_eq h.1 h.2 hfirst]
    exact hlast
  rw [isRightward, hdirection]

/-! ## Labels of ideographs -/

variable {label : List Char}

theorem joinersFit_of_isIdeograph : ∀ {label : List Char} (before : List Char), (∀ c ∈ label, IsIdeograph c) →
    joinersFit before label = true
  | [], _, _ => rfl
  | c :: cs, before, h => by
    obtain ⟨hc, hcs⟩ := List.forall_mem_cons.1 h
    have hlow := hc.1
    have hbreak : (c.toNat == 0x200c) = false := by
      rw [beq_eq_false_iff_ne]
      omega
    have hjoin : (c.toNat != 0x200d) = true := by
      rw [bne_iff_ne]
      omega
    rw [joinersFit, joinersFit_of_isIdeograph (c :: before) hcs, hbreak, hjoin]
    rfl

/-- A label of ideographs, up to a thousand of them, can stand in a domain. -/
theorem isSound_of_isIdeograph (h : ∀ c ∈ label, IsIdeograph c) (hlength : label.length ≤ 1000) :
    isSound label = true := by
  have hbounds : ∀ b ∈ Text.mark.bounds, b ≤ 0x20000 ∨ 0x2a6e0 ≤ b := by decide +kernel
  have hhead : label.head?.any Text.mark.contains = false := by
    rcases label with _ | ⟨c, cs⟩
    · rfl
    · exact (contains_of_isIdeograph (h c List.mem_cons_self) hbounds).trans (by decide +kernel)
  rw [isSound, hhead, joinersFit_of_isIdeograph [] h, decide_eq_true hlength]
  simp

/-- **The ASCII form of a label of ideographs** is the encoded label behind its sign. -/
theorem ascii?_of_isIdeograph (h : ∀ c ∈ label, IsIdeograph c) (hne : label ≠ []) (hlength : label.length ≤ 1000) :
    ascii? label = some (Domain.mark ++ Encoded.encode label) := by
  have hne_ascii : ∀ c ∈ label, ∀ d : Char, d.toNat < 0x80 → c ≠ d := by
    rintro c hc d hd rfl
    have := (h c hc).1
    omega
  have hspelled : spelled? label = some label :=
    spelled?_of_inert (fun c hc => spelling?_of_isIdeograph (h c hc)) (fun c hc => isInert_of_isIdeograph (h c hc))
      fun c hc => isForbidden_of_isIdeograph (h c hc)
  have hsplit : splitAll (· == '.') label = [label] :=
    splitAll_of_none fun c hc => beq_eq_false_iff_ne.2 (hne_ascii c hc '.' (by decide))
  obtain ⟨c, cs, rfl⟩ := List.exists_cons_of_ne_nil hne
  have hunmarked : label? (c :: cs) = some (c :: cs) := by
    have hfirst : 'x' ≠ c := (hne_ascii c List.mem_cons_self 'x' (by decide)).symm
    have hmark : Domain.mark = ['x', 'n', '-', '-'] := rfl
    rw [label?, hmark, afterStart?, if_neg (by simpa using hfirst)]
  have hwritten : written (c :: cs) = Domain.mark ++ Encoded.encode (c :: cs) := by
    have hlow := (h c List.mem_cons_self).1
    have hwide : isAscii (c :: cs) = false := by
      rw [isAscii, List.all_cons, decide_eq_false (by omega), Bool.false_and]
    rw [written, hwide]
    rfl
  have hlabels : (splitAll (· == '.') (c :: cs)).mapM label? = some [c :: cs] := by
    rw [hsplit, List.mapM_cons, hunmarked]
    rfl
  have hsound : ∀ l ∈ [c :: cs], isSound l = true := by
    rw [List.forall_mem_singleton]
    exact isSound_of_isIdeograph h hlength
  have hleft : ∀ l ∈ [c :: cs], ∀ d ∈ l, isRightward d = false := by
    rw [List.forall_mem_singleton]
    exact fun d hd => isRightward_of_isIdeograph (h d hd)
  rw [ascii?_of_leftward hspelled hlabels hsound hleft, hsplit, List.map_singleton, List.intercalate_singleton,
    hwritten]

/-- The characters of an encoded label without ASCII are small letters, digits, and perhaps a hyphen. -/
theorem plain_of_mem_encode (h : ∀ c ∈ label, 0x80 ≤ c.toNat) :
    ∀ d ∈ Encoded.encode label, IsPlain d ∧ d.toLower = d ∧ d ≠ '.' := by
  have hdigits : ∀ d < 36, IsPlain (Encoded.digit d) ∧ (Encoded.digit d).toLower = Encoded.digit d ∧
      Encoded.digit d ≠ '.' := by decide
  exact Encoded.of_mem_encode hdigits (by decide) fun c hc hascii => absurd (h c hc) (Nat.not_le_of_lt hascii)

/-- **A label whose encoded form is too long is not read from that form.** -/
theorem ascii?_of_long (h : ∀ c ∈ label, 0x80 ≤ c.toNat) (hlong : 2000 < (Encoded.encode label).length) :
    ascii? (Domain.mark ++ Encoded.encode label) = none := by
  have hall : ∀ d ∈ Domain.mark ++ Encoded.encode label, IsPlain d ∧ d.toLower = d ∧ d ≠ '.' := by
    have hmark : ∀ d ∈ Domain.mark, IsPlain d ∧ d.toLower = d ∧ d ≠ '.' := List.all_iff_forall_prop.1 (by decide)
    exact fun d hd => (List.mem_append.1 hd).elim (hmark d) (plain_of_mem_encode h d)
  have hspelled := spelled?_of_plain (fun d hd => (hall d hd).1) fun d hd => (hall d hd).2.1
  have hsplit : splitAll (· == '.') (Domain.mark ++ Encoded.encode label) = [Domain.mark ++ Encoded.encode label] :=
    splitAll_of_none fun d hd => beq_eq_false_iff_ne.2 (hall d hd).2.2
  have hunread : label? (Domain.mark ++ Encoded.encode label) = none := by
    rw [label?, afterStart?_append]
    simp only
    rw [if_neg (Nat.not_le_of_lt hlong)]
  simp only [ascii?, hspelled, Option.bind_eq_bind, Option.bind_some, hsplit, List.mapM_cons, hunread, Option.bind_none]

/-- **A domain that is written but not read**: ideographs with gaps between them, from 681 to a thousand of them. -/
theorem ascii?_of_climbs (h : ∀ c ∈ label, IsIdeograph c) (climbs : Encoded.Climbs label) (hmany : 681 ≤ label.length)
    (hlength : label.length ≤ 1000) :
    ascii? label = some (Domain.mark ++ Encoded.encode label) ∧
      ascii? (Domain.mark ++ Encoded.encode label) = none := by
  have hwide : ∀ c ∈ label, 188 ≤ c.toNat := fun c hc => Nat.le_trans (by decide) (h c hc).1
  have hlong := Encoded.le_length_encode climbs hwide
  refine ⟨ascii?_of_isIdeograph h (by rintro rfl; simp at hmany) hlength, ascii?_of_long (fun c hc => ?_) (by omega)⟩
  exact Nat.le_trans (by decide) (hwide c hc)

/-- Seven hundred ideographs with gaps between them. -/
def ideographs : List Char := (List.range 700).map fun i => Char.ofNat (0x20000 + 61 * i)

theorem length_ideographs : ideographs.length = 700 := by rw [ideographs, List.length_map, List.length_range]

theorem toNat_ideograph : ∀ i < 700, (Char.ofNat (0x20000 + 61 * i)).toNat = 0x20000 + 61 * i := by decide +kernel

theorem isIdeograph_of_mem {c : Char} (h : c ∈ ideographs) : IsIdeograph c := by
  obtain ⟨i, hi, rfl⟩ := List.mem_map.1 h
  have hi := List.mem_range.1 hi
  unfold IsIdeograph
  rw [toNat_ideograph i hi]
  omega

theorem climbs_ideographs : Encoded.Climbs ideographs := by
  refine List.pairwise_map.2 (List.pairwise_lt_range.imp_of_mem fun hi hj hij => ?_)
  rw [toNat_ideograph _ (List.mem_range.1 hi), toNat_ideograph _ (List.mem_range.1 hj)]
  omega

end Domain

/-! ## Addresses with long domains -/

namespace Host

open Hypermedia.Domain (IsIdeograph)

variable {label : List Char}

/-- An encoded label is no number. -/
theorem endsInNumber_mark {cs : List Char} (h : '.' ∉ cs) : endsInNumber (Domain.mark ++ cs) = false := by
  have hsplit : Text.splitAll (· == '.') (Domain.mark ++ cs) = [Domain.mark ++ cs] := by
    refine Text.splitAll_of_none fun d hd => beq_eq_false_iff_ne.2 ?_
    rintro rfl
    exact (List.mem_append.1 hd).elim (by decide) h
  have hnumber : ipv4Number? (Domain.mark ++ cs) = none := by
    have hvalue : Text.valueIn? 10 (Domain.mark ++ cs) = none :=
      Text.valueIn?_of_mem (c := 'x') (by decide) (List.mem_append_left _ (by decide))
    exact hvalue
  unfold endsInNumber labels
  rw [hsplit]
  show ((Domain.mark ++ cs).all Char.isDigit || (ipv4Number? (Domain.mark ++ cs)).isSome) = false
  rw [hnumber]
  rfl

/-- **A host that is written but not read**: a label of ideographs with gaps between them. -/
theorem special?_of_climbs (h : ∀ c ∈ label, IsIdeograph c) (climbs : Domain.Encoded.Climbs label)
    (hmany : 681 ≤ label.length) (hlength : label.length ≤ 1000) :
    let host : Host := .name (String.ofList (Domain.mark ++ Domain.Encoded.encode label))
    special? label = .ok host ∧ special? host.chars = .error .invalidDomain := by
  intro host
  obtain ⟨hread, hunread⟩ := Domain.ascii?_of_climbs h climbs hmany hlength
  have hwide : ∀ c ∈ label, ∀ d : Char, d.toNat < 0x80 → c ≠ d := by
    rintro c hc d hd rfl
    have := (h c hc).1
    omega
  have hdot : '.' ∉ Domain.Encoded.encode label := fun hm =>
    (Domain.plain_of_mem_encode (fun c hc => Nat.le_trans (by decide) (h c hc).1) '.' hm).2.2 rfl
  constructor
  · refine special?_of_name (fun hhead => ?_) ?_ (List.cons_ne_nil _ _) (endsInNumber_mark hdot)
    · exact hwide '[' (List.mem_of_mem_head? hhead) '[' (by decide) rfl
    · rw [domain?_of_not_mem fun hm => hwide '%' hm '%' (by decide) rfl, hread]
  · have hdomain : domain? host.chars = none := by
      have hchars : host.chars = Domain.mark ++ Domain.Encoded.encode label := String.toList_ofList
      rw [hchars, domain?_of_plain (Domain.plain_of_ascii? hread), hunread]
    have hhead : (host.chars.head? == some '[') = false := by
      have hchars : host.chars = Domain.mark ++ Domain.Encoded.encode label := String.toList_ofList
      rw [hchars]
      rfl
    unfold special?
    rw [hhead, hdomain]
    rfl

end Host

namespace Uri

variable {cs : List Char} {host : Host}

/-- Nothing is stripped from a text that ends beyond ASCII. -/
theorem trimmed_of_wide (hwide : ∀ c ∈ cs, 0x80 ≤ c.toNat) :
    trimmed (String.ofList ("http://".toList ++ cs)) = "http://".toList ++ cs := by
  have hvisible : ∀ c ∈ "http://".toList ++ cs, 0x20 < c.toNat := fun c hc => by
    have hfront : ∀ c ∈ "http://".toList, 0x20 < c.toNat := List.all_iff_forall_prop.1 (by decide)
    exact (List.mem_append.1 hc).elim (hfront c) fun hc => Nat.lt_of_lt_of_le (by decide) (hwide c hc)
  have htext : (String.ofList ("http://".toList ++ cs)).toList = "http://".toList ++ cs := String.toList_ofList
  rw [trimmed_eq, htext] <;> rw [htext]
  · intro c hc
    have hc := hvisible c hc
    rcases hi : isIgnored c with _ | _
    · rfl
    · simp only [isIgnored, Bool.or_eq_true, beq_iff_eq] at hi
      rcases hi with (rfl | rfl) | rfl <;> exact absurd hc (by decide)
  · exact fun c hc => hvisible c (List.mem_of_mem_head? hc)
  · exact fun c hc => hvisible c (List.mem_of_getLast? hc)

theorem ne_of_wide (hwide : ∀ c ∈ cs, 0x80 ≤ c.toNat) {d : Char} (hd : d.toNat < 0x80) : ∀ c ∈ cs, c ≠ d := by
  rintro c hc rfl
  exact absurd (hwide c hc) (Nat.not_le_of_lt hd)

/-- What is beyond ASCII is an authority without credentials and port. -/
theorem authority?_of_wide (hne : cs ≠ []) (hwide : ∀ c ∈ cs, 0x80 ≤ c.toNat) (hread : Host.special? cs = .ok host) :
    authority? "http" cs = .ok ({ host := some host }, []) := by
  have hsign : splitCredentials cs = (none, cs) := by
    unfold splitCredentials
    rw [if_neg (by simpa using fun hm => ne_of_wide hwide (by decide) '@' hm rfl)]
  have hbrackets : ∀ c ∈ cs, c ∉ "[]".toList := fun c hc hm => by
    have hascii : ∀ d ∈ "[]".toList, d.toNat < 0x80 := List.all_iff_forall_prop.1 (by decide)
    exact ne_of_wide hwide (hascii c hm) c hc rfl
  have hcolon : ':' ∉ cs := fun hm => ne_of_wide hwide (by decide) ':' hm rfl
  have hsplit : splitHost false cs = (cs, []) := by
    simpa [splitHost] using @Authority.splitHost_append false cs [] hbrackets fun _ => hcolon
  rw [Authority.authority?_eq hsign hsplit, hread]
  simp [hne, isSpecialScheme, port?, Authority.signedIn, bind, Except.bind, Except.map]

/-- **An address is read from a host beyond ASCII** when this host is. -/
theorem parse?_of_wide (hne : cs ≠ []) (hwide : ∀ c ∈ cs, 0x80 ≤ c.toNat) (hread : Host.special? cs = .ok host) :
    parse? (String.ofList ("http://".toList ++ cs)) =
      .ok { scheme := "http", authority := some { host := some host }, path := "/" } := by
  have hscheme : scheme? ("http://".toList ++ cs) = some ("http", '/' :: '/' :: cs) :=
    @scheme?_chars "http" ⟨by decide, List.all_iff_forall_prop.1 (by decide)⟩ ('/' :: '/' :: cs)
  have hends : ∀ c ∈ cs, endsAuthority true c = false := fun c hc => by
    simp [endsAuthority, ne_of_wide hwide _ c hc]
  have hdrop : ('/' :: '/' :: cs).dropWhile (Path.isSeparator true) = cs := by
    obtain ⟨c, cs, rfl⟩ := List.exists_cons_of_ne_nil hne
    have hc : Path.isSeparator true c = false := by
      simp [Path.isSeparator, ne_of_wide hwide _ c List.mem_cons_self]
    have hslash : Path.isSeparator true '/' = true := rfl
    rw [List.dropWhile_cons, if_pos hslash, List.dropWhile_cons, if_pos hslash, List.dropWhile_cons,
      if_neg (by simp [hc])]
  have hbefore : cs.takeWhile (!endsAuthority true ·) = cs := by
    simpa using @Text.takeWhile_append _ (!endsAuthority true ·) cs [] (fun c hc => by simp [hends c hc]) rfl
  have hafter : cs.dropWhile (!endsAuthority true ·) = [] := by
    simpa using @Text.dropWhile_append _ (!endsAuthority true ·) cs [] (fun c hc => by simp [hends c hc]) rfl
  have hspecial : isSpecialScheme "http" = true := rfl
  have hweb : ({ scheme := "http", authority := some { host := some host }, path := "/" } : Uri).IsWeb := .inl rfl
  unfold parse? parseFrom?
  simp only [trimmed_of_wide hwide, hscheme]
  rw [hweb.ofScheme_eq none _ fun h => absurd h Bool.false_ne_true, hdrop]
  unfold ofAuthority
  simp only [hspecial, hbefore, hafter, authority?_of_wide hne hwide hread, bind, Except.bind, pure, Except.pure,
    List.append_nil]
  rw [if_neg (by simp), if_pos trivial]
  rfl

/-- The address whose host is a label of ideographs with gaps between them. -/
def ideographBase : Uri :=
  { scheme := "http"
    authority := some { host := some (.name (String.ofList (Domain.mark ++ Domain.Encoded.encode Domain.ideographs))) }
    path := "/" }

theorem special?_ideographs :
    Host.special? Domain.ideographs =
        .ok (.name (String.ofList (Domain.mark ++ Domain.Encoded.encode Domain.ideographs))) ∧
      Host.special? (Host.name (String.ofList (Domain.mark ++ Domain.Encoded.encode Domain.ideographs))).chars =
        .error .invalidDomain :=
  Host.special?_of_climbs (fun _ => Domain.isIdeograph_of_mem) Domain.climbs_ideographs
    (by rw [Domain.length_ideographs]; decide) (by rw [Domain.length_ideographs]; decide)

theorem parse?_ideographs : parse? (String.ofList ("http://".toList ++ Domain.ideographs)) = .ok ideographBase := by
  have hlength := Domain.length_ideographs
  exact parse?_of_wide (fun hnil => by rw [hnil] at hlength; cases hlength)
    (fun _ hc => Nat.le_trans (by decide) (Domain.isIdeograph_of_mem hc).1) special?_ideographs.1

/-- **What has the host of the ideographs is not read from its text**, which spells a host that is too long. -/
theorem parseFrom?_ideographs {u : Uri} (sound : u.Sound) (web : u.IsWeb) (h : u.authority = ideographBase.authority)
    (base : Option Uri) : parseFrom? base u.text = .error .invalidDomain := by
  rw [parseFrom?_text_web sound web h rfl, special?_ideographs.2]
  rfl

end Uri
end Hypermedia
