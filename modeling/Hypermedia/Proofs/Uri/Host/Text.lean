import Hypermedia.Proofs.Uri.Domain
import Hypermedia.Proofs.Uri.Host.Address
import Hypermedia.Proofs.Uri.Percent
/-!
# Hosts that were read

A host that was read has a text without the marks of an address (`Host.Sound`).  From that text the host is read again,
if its name is its own ASCII form (`special?_chars`, `plain?_chars`), and no two hosts have the same text
(`eq_of_chars_eq`).
-/
namespace Hypermedia
namespace Host

/-! ## Hosts -/

/-- What a host without a special scheme may not have in its name, besides controls. -/
def isNameChar (c : Char) : Bool := !(c.toNat == 0 || "\t\n\r #/:<>?@[\\]^|".toList.contains c)

/-- **A host that was read**, of a special address or another one.  Only special addresses have domains and addresses
of four bytes, and a domain does not end in a number. -/
inductive Sound : Bool → Host → Prop
  | domain {text : String} : text.toList ≠ [] → (∀ c ∈ text.toList, Domain.IsPlain c) →
      endsInNumber text.toList = false → Sound true (.name text)
  | name {text : String} : text.toList ≠ [] → (∀ c ∈ text.toList, isNameChar c = true) →
      Percent.Encoded Percent.control text.toList → Sound false (.name text)
  | ipv4 {address : Nat} : address < Nat.pow 2 32 → Sound true (.ipv4 address)
  | ipv6 {special : Bool} {pieces : List Nat} : pieces.length = 8 → (∀ p ∈ pieces, p < 0x10000) →
      Sound special (.ipv6 pieces)

theorem sound_of_bracketed? {special : Bool} {cs : List Char} {h : Host} (hread : bracketed? cs = .ok h) :
    Sound special h := by
  unfold bracketed? at hread
  split at hread
  · split at hread
    · rename_i ps hps
      cases hread
      obtain ⟨hlength, hpieces⟩ := pieces_of_ipv6Value? hps
      exact .ipv6 hlength hpieces
    · cases hread
  · cases hread

/-- **A host of a special address that is read is sound.** -/
theorem sound_of_special? {cs : List Char} {h : Host} (hread : special? cs = .ok h) : Sound true h := by
  unfold special? at hread
  split at hread
  · exact sound_of_bracketed? hread
  · split at hread
    · cases hread
    · cases hread
    · rename_i ds hne hds
      obtain ⟨text, -, hascii⟩ := Option.bind_eq_some_iff.1 hds
      split at hread
      · split at hread
        · rename_i hread'
          cases hread
          exact .ipv4 (lt_of_ipv4? hread')
        · cases hread
      · rename_i hnumber
        cases hread
        refine .domain ?_ ?_ ?_
        · rw [String.toList_ofList]
          rintro rfl
          exact hne rfl
        · rw [String.toList_ofList]
          exact Domain.plain_of_ascii? hascii
        · rw [String.toList_ofList]
          simpa using hnumber

/-- **A host of another address that is read is sound.** -/
theorem sound_of_plain? {cs : List Char} {h : Host} (hread : plain? cs = .ok (some h)) : Sound false h := by
  unfold plain? at hread
  split at hread
  · cases hread
  · rename_i hne
    split at hread
    · rcases hb : bracketed? cs with e | h'
      · rw [hb] at hread; cases hread
      · rw [hb] at hread; cases hread; exact sound_of_bracketed? hb
    · split at hread
      · cases hread
      · rename_i hany
        cases hread
        have hfree : ∀ c ∈ cs, isNameChar c = true := by
          intro c hc
          simp only [List.any_eq_true, not_exists, not_and] at hany
          simpa [isNameChar] using hany c hc
        have hsign : ∀ c ∈ Percent.signs, isNameChar c = true := List.all_iff_forall_prop.1 (by decide)
        refine .name ?_ (fun c hc => ?_) ?_
        · rw [String.toList_ofList]
          exact Percent.encode_ne_nil _ (by simpa using hne)
        · rw [String.toList_ofList] at hc
          rcases Percent.mem_encode hc with hc | ⟨hc, -⟩
          · exact hsign c hc
          · exact hfree c hc
        · rw [String.toList_ofList]
          exact Percent.encoded_encode Percent.sparesSigns_control cs

/-! ## The text of a host -/

/-- **A character in the text of a host**: visible, in ASCII, and no mark around an authority. -/
def IsHostChar (c : Char) : Prop := 0x20 < c.toNat ∧ c.toNat < 0x7f ∧ c ∉ "#/?@\\".toList

instance (c : Char) : Decidable (IsHostChar c) :=
  inferInstanceAs (Decidable (0x20 < c.toNat ∧ c.toNat < 0x7f ∧ c ∉ "#/?@\\".toList))

/-- A character in the text of a host without brackets. -/
def IsBare (c : Char) : Prop := IsHostChar c ∧ c ∉ ":[]".toList

instance (c : Char) : Decidable (IsBare c) := inferInstanceAs (Decidable (IsHostChar c ∧ c ∉ ":[]".toList))

theorem isBare_of_isPlain {c : Char} (h : Domain.IsPlain c) : IsBare c :=
  Text.of_ascii (P := fun c => Domain.isForbidden c = false → IsBare c) (by decide +kernel) h.1 h.2

theorem isBare_of_isNameChar {c : Char} (h : isNameChar c = true) (hascii : c.toNat < 0x80)
    (hcontrol : Percent.control c = false) : IsBare c :=
  Text.of_ascii (P := fun c => isNameChar c = true → Percent.control c = false → IsBare c) (by decide +kernel) hascii h
    hcontrol

/-- Digits stand in hosts. -/
theorem isBare_of_isDigit {c : Char} (h : c.isDigit = true) : IsBare c :=
  Text.of_ascii (P := fun c => c.isDigit = true → IsBare c) (by decide +kernel) (Text.toNat_lt_of_isDigit h) h

theorem mem_ipv4Chars {c : Char} {v : Nat} (h : c ∈ ipv4Chars v) : c = '.' ∨ c.isDigit = true := by
  rw [ipv4Chars_eq] at h
  rcases Text.mem_intercalate h with rfl | ⟨s, hs, hc⟩
  · exact .inl rfl
  · obtain ⟨n, -, rfl⟩ := List.mem_map.1 hs
    exact .inr (isDigit_of_mem_number hc)

variable {special : Bool} {host host' : Host}

/-- A host in brackets is an address of eight pieces; any other is bare. -/
theorem Sound.bare_or_bracketed (h : Sound special host) :
    (∀ c ∈ host.chars, IsBare c) ∨ ∃ ps, host = .ipv6 ps := by
  cases h with
  | domain _ hplain _ => exact .inl fun c hc => isBare_of_isPlain (hplain c hc)
  | name _ hchars hencoded =>
    exact .inl fun c hc => isBare_of_isNameChar (hchars c hc) (hencoded c hc).2 (hencoded c hc).1
  | ipv4 _ =>
    refine .inl fun c hc => ?_
    rcases mem_ipv4Chars hc with rfl | hdigit
    · unfold IsBare IsHostChar
      decide
    · exact isBare_of_isDigit hdigit
  | ipv6 _ _ => exact .inr ⟨_, rfl⟩

theorem Sound.isHostChar (h : Sound special host) : ∀ c ∈ host.chars, IsHostChar c := by
  rcases h.bare_or_bracketed with hbare | ⟨ps, rfl⟩
  · exact fun c hc => (hbare c hc).1
  · have hall : ∀ c ∈ "[]:0123456789abcdef".toList, 0x20 < c.toNat ∧ c.toNat < 0x7f ∧ c ∉ "#/?@\\".toList :=
      List.all_iff_forall_prop.1 (by decide)
    intro c hc
    refine hall c ?_
    rcases List.mem_cons.1 hc with rfl | hc
    · decide
    · rcases List.mem_append.1 hc with hc | hc
      · exact List.mem_cons_of_mem _ (List.mem_cons_of_mem _ (mem_ipv6Chars hc))
      · rw [List.mem_singleton.1 hc]
        decide

theorem Sound.chars_ne_nil (h : Sound special host) : host.chars ≠ [] := by
  cases h with
  | domain hne _ _ => exact hne
  | name hne _ _ => exact hne
  | ipv4 _ => simp [chars, ipv4Chars]
  | ipv6 _ _ => simp [chars]

/-- **Only an address of eight pieces starts with a bracket.** -/
theorem Sound.head?_ne (h : Sound special host) (hps : ∀ ps, host ≠ .ipv6 ps) : host.chars.head? ≠ some '[' := by
  rcases h.bare_or_bracketed with hbare | ⟨ps, rfl⟩
  · intro hhead
    exact absurd (hbare '[' (List.mem_of_mem_head? hhead)).2 (by decide)
  · exact absurd rfl (hps ps)

/-! ## Reading hosts again -/

theorem bracketed?_chars {ps : List Nat} (hlength : ps.length = 8) (h : ∀ p ∈ ps, p < 0x10000) :
    bracketed? (chars (.ipv6 ps)) = .ok (.ipv6 ps) := by
  have hlast : (chars (.ipv6 ps)).getLast? = some ']' := by rw [chars, List.getLast?_concat]
  have hinner : ((chars (.ipv6 ps)).drop 1).dropLast = ipv6Chars ps := by simp [chars]
  unfold bracketed?
  rw [hlast, hinner, ipv6Value?_ipv6Chars hlength h]
  rfl

/-- Without escapes a domain is read as it is. -/
theorem domain?_of_not_mem {cs : List Char} (hpercent : '%' ∉ cs) : domain? cs = Domain.ascii? cs := by
  unfold domain?
  rw [Percent.text?_of_not_mem hpercent, Option.bind_some, String.toList_ofList]

theorem domain?_of_plain {cs : List Char} (hplain : ∀ c ∈ cs, Domain.IsPlain c) : domain? cs = Domain.ascii? cs :=
  domain?_of_not_mem fun h => absurd (hplain '%' h).2 (by decide)

theorem special?_of_name {cs ds : List Char} (hhead : cs.head? ≠ some '[') (hdomain : domain? cs = some ds)
    (hne : ds ≠ []) (hnumber : endsInNumber ds = false) : special? cs = .ok (.name (String.ofList ds)) := by
  obtain ⟨d, ds, rfl⟩ := List.exists_cons_of_ne_nil hne
  unfold special?
  rw [if_neg (by simpa using hhead), hdomain]
  simp only [hnumber, Bool.false_eq_true, if_false]

theorem special?_of_number {cs ds : List Char} {a : Nat} (hhead : cs.head? ≠ some '[') (hdomain : domain? cs = some ds)
    (hne : ds ≠ []) (hnumber : endsInNumber ds = true) (haddress : ipv4? ds = some a) :
    special? cs = .ok (.ipv4 a) := by
  obtain ⟨d, ds, rfl⟩ := List.exists_cons_of_ne_nil hne
  unfold special?
  rw [if_neg (by simpa using hhead), hdomain]
  simp only [hnumber, haddress, if_true]

theorem isWritten_ipv4Chars (v : Nat) : Domain.IsWritten (ipv4Chars v) := by
  have hchars : ∀ c ∈ ipv4Chars v, Domain.IsPlain c ∧ c.toLower = c := fun c hc => by
    rcases mem_ipv4Chars hc with rfl | hdigit
    · decide
    · exact Text.of_ascii (P := fun c => c.isDigit = true → Domain.IsPlain c ∧ c.toLower = c) (by decide +kernel)
        (Text.toNat_lt_of_isDigit hdigit) hdigit
  refine ⟨fun c hc => (hchars c hc).1, fun c hc => (hchars c hc).2, fun l hl => ?_⟩
  rw [splitAll_ipv4Chars] at hl
  obtain ⟨n, -, rfl⟩ := List.mem_map.1 hl
  rcases hn : number n with _ | ⟨c, cs⟩
  · exact absurd hn (number_ne_nil n)
  · have hc : 'x' ≠ c := (isDigit_ne (isDigit_of_mem_number (hn ▸ List.mem_cons_self)) (by decide)).symm
    have hmark : Domain.mark = ['x', 'n', '-', '-'] := rfl
    rw [hmark, Text.afterStart?, if_neg (by simpa using hc)]

/-- **A host of a special address is read from its text**; a name has to be its own ASCII form. -/
theorem special?_chars (h : Sound true host)
    (hname : ∀ text, host = .name text → Domain.ascii? text.toList = some text.toList) :
    special? host.chars = .ok host := by
  have hhead := h.head?_ne
  have hne := h.chars_ne_nil
  cases h with
  | @domain text _ hplain hnumber =>
    have hdomain : domain? text.toList = some text.toList := (domain?_of_plain hplain).trans (hname _ rfl)
    have hread := special?_of_name (hhead fun _ => Host.noConfusion) hdomain hne hnumber
    rwa [String.ofList_toList] at hread
  | @ipv4 v hv =>
    have hwritten := isWritten_ipv4Chars v
    have hdomain : domain? (ipv4Chars v) = some (ipv4Chars v) :=
      (domain?_of_plain hwritten.plain).trans (Domain.ascii?_of_isWritten hwritten)
    exact special?_of_number (hhead fun _ => Host.noConfusion) hdomain hne (endsInNumber_ipv4Chars v)
      (ipv4?_ipv4Chars hv)
  | ipv6 hlength hpieces =>
    unfold special?
    rw [if_pos (by simp [chars]), bracketed?_chars hlength hpieces]

/-- **A host of another address is read from its text.** -/
theorem plain?_chars (h : Sound false host) : plain? host.chars = .ok (some host) := by
  have hhead := h.head?_ne
  have hne := h.chars_ne_nil
  unfold plain?
  rw [if_neg (by simpa using hne)]
  cases h with
  | @name text _ hchars hencoded =>
    rw [if_neg (by simpa using hhead fun _ => Host.noConfusion), if_neg]
    · rw [chars, Percent.encode_of_encoded hencoded, String.ofList_toList]
    · rw [Bool.not_eq_true, List.any_eq_false]
      intro c hc
      simpa [isNameChar] using hchars c hc
  | ipv6 hlength hpieces =>
    rw [if_pos (by simp [chars]), bracketed?_chars hlength hpieces]
    rfl

theorem chars_ipv6_ne (h : Sound special host) (hps : ∀ ps, host ≠ .ipv6 ps) (ps : List Nat) :
    host.chars ≠ chars (.ipv6 ps) := fun heq => h.head?_ne hps (by rw [heq]; rfl)

/-- **No two hosts have the same text.** -/
theorem eq_of_chars_eq (h : Sound special host) (h' : Sound special host') (heq : host.chars = host'.chars) :
    host = host' := by
  have hne := chars_ipv6_ne h
  have hne' := chars_ipv6_ne h'
  cases h with
  | @domain text _ _ hnumber =>
    cases h' with
    | domain _ _ _ => exact congrArg _ (String.toList_inj.1 heq)
    | @ipv4 v _ =>
      have := endsInNumber_ipv4Chars v
      rw [chars, chars] at heq
      rw [heq, this] at hnumber
      cases hnumber
    | ipv6 _ _ => exact absurd heq (hne (fun _ => Host.noConfusion) _)
  | name _ _ _ =>
    cases h' with
    | name _ _ _ => exact congrArg _ (String.toList_inj.1 heq)
    | ipv6 _ _ => exact absurd heq (hne (fun _ => Host.noConfusion) _)
  | @ipv4 v hv =>
    cases h' with
    | @domain text _ _ hnumber =>
      have := endsInNumber_ipv4Chars v
      rw [chars, chars] at heq
      rw [← heq, this] at hnumber
      cases hnumber
    | @ipv4 v' hv' =>
      have hread := ipv4?_ipv4Chars hv
      rw [chars, chars] at heq
      rw [heq, ipv4?_ipv4Chars hv'] at hread
      exact congrArg _ (Option.some.inj hread).symm
    | ipv6 _ _ => exact absurd heq (hne (fun _ => Host.noConfusion) _)
  | ipv6 hlength hpieces =>
    cases h' with
    | domain _ _ _ => exact absurd heq.symm (hne' (fun _ => Host.noConfusion) _)
    | name _ _ _ => exact absurd heq.symm (hne' (fun _ => Host.noConfusion) _)
    | ipv4 _ => exact absurd heq.symm (hne' (fun _ => Host.noConfusion) _)
    | ipv6 hlength' hpieces' =>
      have hread := bracketed?_chars hlength hpieces
      rw [heq, bracketed?_chars hlength' hpieces'] at hread
      exact (Except.ok.inj hread).symm

end Host
end Hypermedia
