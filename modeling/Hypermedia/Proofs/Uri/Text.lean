import Hypermedia.Proofs.Uri.Sound
/-!
# The text of an address that was read

The text of a sound address is a scheme, a colon, an authority, a path and a tail (`chars_eq`).  It has no characters
that reading would strip it of (`Sound.trimmed_text`), and its scheme and its tail are read from it again
(`scheme?_chars`, `withTail_tailChars`).
-/
namespace Hypermedia
namespace Uri

open Percent (Encoded)
open Hypermedia.Path (AllSound Segment)

variable {u v : Uri} {a : Authority} {segments : List Segment} {scheme : String}

/-- The query and the fragment with the marks in front of them. -/
def tailChars (u : Uri) : List Char := markedChars '?' u.query ++ markedChars '#' u.fragment

/-- What stands between the scheme and the path. -/
def authorityChars (u : Uri) : List Char :=
  match u.authority with
  | some a => '/' :: '/' :: a.chars
  | none => if u.dotted then ['/', '.'] else []

theorem chars_eq (u : Uri) :
    u.chars = u.scheme.toList ++ ':' :: (u.authorityChars ++ (u.path.toList ++ u.tailChars)) := by
  unfold chars originChars authorityChars tailChars
  rcases u.authority with _ | a <;> simp

/-- Addresses that differ in their paths at most have one text just if they have one path. -/
theorem text_path_inj {path path' : String} :
    ({ u with path } : Uri).text = ({ u with path := path' } : Uri).text ↔ path = path' := by
  refine ⟨fun h => ?_, fun h => by rw [h]⟩
  have hchars := String.ofList_injective h
  rw [chars_eq, chars_eq] at hchars
  have hbehind := List.append_cancel_left (List.cons.inj (List.append_cancel_left hchars)).2
  exact String.toList_injective (List.append_cancel_right hbehind)

/-- Addresses that differ in their queries at most have one text just if they have one query. -/
theorem text_query_inj {q q' : String} :
    ({ u with query := some q } : Uri).text = ({ u with query := some q' } : Uri).text ↔ q = q' := by
  refine ⟨fun h => ?_, fun h => by rw [h]⟩
  have hchars := String.ofList_injective h
  rw [chars_eq, chars_eq] at hchars
  have hbehind := List.append_cancel_left (List.cons.inj (List.append_cancel_left hchars)).2
  have htail := List.append_cancel_right (List.append_cancel_left hbehind)
  exact String.toList_injective (List.cons.inj htail).2

/-! ## Visible characters -/

/-- A character that no place of a text is stripped of. -/
def IsVisible (c : Char) : Prop := 0x20 < c.toNat ∧ c.toNat < 0x7f

instance (c : Char) : Decidable (IsVisible c) := inferInstanceAs (Decidable (0x20 < c.toNat ∧ c.toNat < 0x7f))

theorem isVisible_of_encoded {set : Char → Bool} {c : Char} (hset : set c = false) (hascii : c.toNat < 0x80)
    (hblank : set ' ' = true) (hcontrol : ∀ d, Percent.control d = true → set d = true) : IsVisible c := by
  have hfree : Percent.control c = false := by
    rcases hc : Percent.control c with _ | _
    · rfl
    · rw [hcontrol c hc] at hset; cases hset
  have hne : c.toNat ≠ 0x20 := fun he => by
    have : c = ' ' := by rw [← Char.ofNat_toNat c, he]
    rw [this, hblank] at hset
    cases hset
  simp only [Percent.control, Bool.or_eq_false_iff, decide_eq_false_iff_not, beq_eq_false_iff_ne] at hfree
  unfold IsVisible
  omega

theorem isVisible_of_isSchemeChar {c : Char} (h : isSchemeChar c = true) : IsVisible c :=
  Text.of_ascii (P := fun c => isSchemeChar c = true → IsVisible c) (by decide +kernel) (toNat_lt_of_isSchemeChar h) h

theorem isVisible_of_mem_chars {special : Bool} (h : AllSound special segments) :
    ∀ c ∈ Path.chars segments, IsVisible c := by
  intro c hc
  rcases Path.mem_chars h hc with rfl | ⟨hset, hascii⟩
  · decide
  · exact isVisible_of_encoded hset hascii (by decide) fun _ => Percent.control_of_pathSet

/-- No query and no fragment starts in a path. -/
theorem endsPath_of_mem_chars {special : Bool} (h : AllSound special segments) :
    ∀ c ∈ Path.chars segments, (!endsPath c) = true := by
  intro c hc
  rcases Path.mem_chars h hc with rfl | ⟨hset, -⟩
  · rfl
  · rcases he : endsPath c with _ | _
    · rfl
    · simp only [endsPath, Bool.or_eq_true, beq_iff_eq] at he
      rcases he with rfl | rfl <;> exact absurd hset (by decide)

theorem isVisible_marked {mark : Char} {part : Option String} (hmark : IsVisible mark)
    (h : ∀ s, part = some s → ∀ c ∈ s.toList, IsVisible c) : ∀ c ∈ markedChars mark part, IsVisible c := by
  intro c hc
  rcases part with _ | s
  · cases hc
  · rcases List.mem_cons.1 hc with rfl | hc
    · exact hmark
    · exact h s rfl c hc

theorem Sound.isVisible_tail (h : u.Sound) : ∀ c ∈ u.tailChars, IsVisible c := by
  intro c hc
  rcases List.mem_append.1 hc with hc | hc
  · refine isVisible_marked (by decide) (fun q hq c hc => ?_) c hc
    obtain ⟨hset, hascii⟩ := h.query q hq c hc
    exact isVisible_of_encoded hset hascii (by cases u.isSpecial <;> decide) fun _ => Percent.control_of_querySet
  · refine isVisible_marked (by decide) (fun f hf c hc => ?_) c hc
    obtain ⟨hset, hascii⟩ := h.fragment f hf c hc
    exact isVisible_of_encoded hset hascii (by decide) fun _ => Percent.control_of_fragmentSet

theorem Hosted.isVisible (h : u.Hosted a segments) : ∀ c ∈ u.authorityChars ++ u.path.toList, IsVisible c := by
  intro c hc
  rcases List.mem_append.1 hc with hc | hc
  · have hslash : IsVisible '/' := by decide
    rw [authorityChars, h.authority] at hc
    rcases List.mem_cons.1 hc with rfl | hc
    · exact hslash
    rcases List.mem_cons.1 hc with rfl | hc
    · exact hslash
    rcases h.sound.mem_chars c hc with rfl | hchar
    · decide
    · exact ⟨hchar.1, hchar.2.1⟩
  · rw [h.path, String.toList_ofList] at hc
    exact isVisible_of_mem_chars h.segments c hc

/-- What is not visible in an address belongs to an opaque path, and does not end it. -/
theorem Sound.visible_front (h : u.Sound) : (∀ c ∈ u.authorityChars ++ u.path.toList, IsVisible c) ∨
    (u.authorityChars = [] ∧ Encoded Percent.control u.path.toList ∧
      (u.tailChars = [] → ∀ c ∈ u.path.toList.getLast?, IsVisible c)) := by
  cases h.shape with
  | web hosted _ _ _ _ => exact .inl hosted.isVisible
  | file hosted _ _ _ _ _ => exact .inl hosted.isVisible
  | hosted hosted _ => exact .inl hosted.isVisible
  | rooted hnone hs _ hsegments hpath _ =>
    refine .inl fun c hc => ?_
    rcases List.mem_append.1 hc with hc | hc
    · rw [authorityChars, hnone] at hc
      simp only at hc
      split at hc
      · have hall : ∀ d ∈ ['/', '.'], 0x20 < d.toNat ∧ d.toNat < 0x7f := List.all_iff_forall_prop.1 (by decide)
        exact hall c hc
      · cases hc
    · rw [hpath, String.toList_ofList] at hc
      exact isVisible_of_mem_chars hsegments c hc
  | bare hnone _ hdotted hencoded _ _ hlast =>
    refine .inr ⟨by simp [authorityChars, hnone, hdotted], hencoded, fun htail c hc => ?_⟩
    have hq : u.query = none := by
      rcases hq : u.query with _ | q
      · rfl
      · simp [tailChars, hq, markedChars] at htail
    have hf : u.fragment = none := by
      rcases hf : u.fragment with _ | f
      · rfl
      · simp [tailChars, hf, markedChars] at htail
    obtain ⟨hset, hascii⟩ := hencoded c (List.mem_of_getLast? hc)
    have hne : c.toNat ≠ 0x20 := fun he => by
      have : c = ' ' := by rw [← Char.ofNat_toNat c, he]
      exact hlast hq hf (this ▸ hc)
    simp only [Percent.control, Bool.or_eq_false_iff, decide_eq_false_iff_not, beq_eq_false_iff_ne] at hset
    unfold IsVisible
    omega

theorem isIgnored_of_control {c : Char} (h : Percent.control c = false) : isIgnored c = false := by
  rcases hi : isIgnored c with _ | _
  · rfl
  · simp only [isIgnored, Bool.or_eq_true, beq_iff_eq] at hi
    rcases hi with (rfl | rfl) | rfl <;> cases h

/-- A text without tabs and line breaks that starts and ends with no blank is read as it is. -/
theorem trimmed_eq {s : String} (hkept : ∀ c ∈ s.toList, isIgnored c = false)
    (hfirst : ∀ c ∈ s.toList.head?, 0x20 < c.toNat) (hlast : ∀ c ∈ s.toList.getLast?, 0x20 < c.toNat) :
    trimmed s = s.toList := by
  have hcore : Text.IsCore (fun c : Char => decide (c.toNat ≤ 0x20)) s.toList s.toList :=
    ⟨⟨[], [], by simp, by simp⟩, by simpa using hfirst, by simpa using hlast⟩
  unfold trimmed
  rw [Text.stripBoth_eq_iff.2 hcore, List.filter_eq_self]
  intro c hc
  rw [hkept c hc]
  rfl

theorem control_of_isVisible {c : Char} (h : IsVisible c) : Percent.control c = false := by
  obtain ⟨hlow, hhigh⟩ := h
  simp only [Percent.control, Bool.or_eq_false_iff, decide_eq_false_iff_not, beq_eq_false_iff_ne]
  omega

theorem isIgnored_of_isVisible {c : Char} (h : IsVisible c) : isIgnored c = false :=
  isIgnored_of_control (control_of_isVisible h)

/-- Of a visible text nothing is ignored. -/
theorem significant_of_visible {cs : List Char} (h : ∀ c ∈ cs, IsVisible c) : significant (String.ofList cs) = cs := by
  unfold significant
  rw [String.toList_ofList, List.filter_eq_self]
  intro c hc
  rw [isIgnored_of_isVisible (h c hc)]
  rfl

theorem isVisible_scheme (h : IsScheme scheme) : ∀ c ∈ scheme.toList, IsVisible c :=
  fun c hc => isVisible_of_isSchemeChar (h.chars c hc).1

/-- The text of an address holds no controls. -/
theorem Sound.control_chars (h : u.Sound) : ∀ c ∈ u.chars, Percent.control c = false := by
  intro c hc
  rw [chars_eq] at hc
  rcases List.mem_append.1 hc with hc | hc
  · exact control_of_isVisible (isVisible_scheme h.scheme c hc)
  rcases List.mem_cons.1 hc with rfl | hc
  · decide
  rw [← List.append_assoc] at hc
  rcases List.mem_append.1 hc with hc | hc
  · rcases h.visible_front with hvisible | ⟨hnil, hencoded, -⟩
    · exact control_of_isVisible (hvisible c hc)
    · rw [hnil, List.nil_append] at hc
      exact (hencoded c hc).1
  · exact control_of_isVisible (h.isVisible_tail c hc)

/-- It starts with its scheme. -/
theorem Sound.isVisible_head (h : u.Sound) : ∀ c ∈ u.chars.head?, IsVisible c := by
  intro c hc
  rw [chars_eq] at hc
  have hfirst := h.scheme.first
  rcases hs : u.scheme.toList with _ | ⟨d, ds⟩
  · rw [hs] at hfirst
    cases hfirst
  · rw [hs] at hc
    cases hc
    exact isVisible_scheme h.scheme c (hs ▸ List.mem_cons_self)

/-- It ends with the last part that is not empty. -/
theorem Sound.isVisible_getLast (h : u.Sound) : ∀ c ∈ u.chars.getLast?, IsVisible c := by
  intro c hc
  rw [chars_eq, List.getLast?_append, List.getLast?_cons, Option.some_or] at hc
  rcases hlast : (u.authorityChars ++ (u.path.toList ++ u.tailChars)).getLast? with _ | d
  · rw [hlast] at hc
    cases hc
    decide
  · rw [hlast] at hc
    cases hc
    rw [← List.append_assoc, List.getLast?_append] at hlast
    rcases Option.or_eq_some_iff.1 hlast with hlast | ⟨hnone, hlast⟩
    · exact h.isVisible_tail d (List.mem_of_getLast? hlast)
    · rcases h.visible_front with hvisible | ⟨hnil, -, hpath⟩
      · exact hvisible d (List.mem_of_getLast? hlast)
      · rw [hnil, List.nil_append] at hlast
        exact hpath (List.getLast?_eq_none_iff.1 hnone) d hlast

/-- **Nothing is stripped from the text of an address that was read.** -/
theorem Sound.trimmed_text (h : u.Sound) : trimmed u.text = u.chars := by
  have htext : u.text.toList = u.chars := String.toList_ofList
  rw [trimmed_eq, htext] <;> rw [htext]
  · exact fun c hc => isIgnored_of_control (h.control_chars c hc)
  · exact fun c hc => (h.isVisible_head c hc).1
  · exact fun c hc => (h.isVisible_getLast c hc).1

/-- The scheme is read from the text of an address. -/
theorem scheme?_chars (h : IsScheme scheme) (rest : List Char) :
    scheme? (scheme.toList ++ ':' :: rest) = some (scheme, rest) := by
  have hchars : ∀ c ∈ scheme.toList, isSchemeChar c = true := fun c hc => (h.chars c hc).1
  have hsmall : scheme.toList.map Char.toLower = scheme.toList := by
    rw [List.map_congr_left (g := id) fun c hc => (h.chars c hc).2, List.map_id]
  have hfirst := h.first
  have htake := Text.takeWhile_append hchars (show (':' :: rest).head?.all (!isSchemeChar ·) = true from rfl)
  have hdrop := Text.dropWhile_append hchars (show (':' :: rest).head?.all (!isSchemeChar ·) = true from rfl)
  rcases hs : scheme.toList with _ | ⟨c, cs⟩
  · rw [hs] at hfirst; cases hfirst
  · rw [hs] at hfirst htake hdrop hsmall
    rw [List.cons_append] at htake hdrop ⊢
    rw [scheme?, if_pos (by simpa using hfirst), hdrop, htake, hsmall, ← hs, String.ofList_toList]
    rfl

/-! ## The parts -/

theorem head?_tailChars (u : Uri) : u.tailChars.head?.all endsPath = true := by
  unfold tailChars
  rcases u.query with _ | q <;> rcases u.fragment with _ | f <;> rfl

/-- **The query and the fragment are read from their text.** -/
theorem withTail_tailChars (hs : v.isSpecial = u.isSpecial)
    (hquery : ∀ q, u.query = some q → Encoded (Percent.querySet u.isSpecial) q.toList)
    (hfragment : ∀ f, u.fragment = some f → Encoded Percent.fragmentSet f.toList) :
    withTail v u.tailChars = { v with query := u.query, fragment := u.fragment } := by
  have hf : ∀ f, u.fragment = some f →
      some (String.ofList (Percent.encode Percent.fragmentSet f.toList)) = some f := fun f hf => by
    rw [Percent.encode_of_encoded (hfragment f hf), String.ofList_toList]
  unfold tailChars
  rcases hq : u.query with _ | q
  · rcases hfr : u.fragment with _ | f
    · rfl
    · simp only [markedChars, List.nil_append, withTail, hf f hfr]
  · have hencoded := hquery q hq
    have hmark : '#' ∉ q.toList := fun hc => by
      have := (hencoded '#' hc).1
      cases hsp : u.isSpecial <;> rw [hsp] at this <;> exact absurd this (by decide)
    have hqs : String.ofList (Percent.encode (Percent.querySet v.isSpecial) q.toList) = q := by
      rw [hs, Percent.encode_of_encoded hencoded, String.ofList_toList]
    rcases hfr : u.fragment with _ | f
    · simp only [markedChars, List.append_nil, withTail, Text.splitFirst_of_not_mem hmark, hqs, Option.bind_none]
    · simp only [markedChars, List.cons_append, withTail, Text.splitFirst_append f.toList hmark, hqs, Option.bind_some,
        hf f hfr]

end Uri
end Hypermedia
