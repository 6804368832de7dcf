import Hypermedia.Json.Tree
import Hypermedia.Proofs.Text.Ascii
import Hypermedia.Text.Blank
import Mathlib.Algebra.GroupWithZero.Nat
/-!
# How much a JSON text takes to spell

A text that stands in a JSON text has fewer characters that are not blank than the JSON text around it
(`Json.ink_lt_of_member`): an escape takes more characters than it spells, and the quotes are left over.
-/
namespace Hypermedia
namespace Json

/-- How many of the characters are not blank. -/
def ink (cs : List Char) : Nat := cs.countP (!Text.isBlank ·)

theorem ink_cons (c : Char) (cs : List Char) : ink (c :: cs) = ink [c] + ink cs := by
  unfold ink
  rw [← List.singleton_append, List.countP_append]

theorem ink_le_one (c : Char) : ink [c] ≤ 1 := List.countP_le_length

/-! ## Characters of a string -/

def Piece.ink : Piece → Nat
  | .scalar c => Json.ink [c]
  | .half _ => 1

theorem ink_join? : ∀ {ps : List Piece} {cs : List Char}, Piece.join? ps = some cs → ink cs ≤ (ps.map Piece.ink).sum
  | [], _, h => by
    cases h
    exact Nat.le_refl 0
  | .scalar c :: ps, cs, h => by
    obtain ⟨cs', hcs', rfl⟩ := Option.map_eq_some_iff.1 h
    have := ink_join? hcs'
    rw [ink_cons, List.map_cons, List.sum_cons, Piece.ink]
    omega
  | .half high :: .half low :: ps, cs, h => by
    unfold Piece.join? at h
    split at h
    · obtain ⟨cs', hcs', rfl⟩ := Option.map_eq_some_iff.1 h
      have := ink_join? hcs'
      have := ink_le_one (Char.ofNat (0x10000 + (high - 0xd800) * 0x400 + (low - 0xdc00)))
      rw [ink_cons]
      simp only [List.map_cons, List.sum_cons, Piece.ink]
      omega
    · cases h
  | [.half _], _, h => by cases h
  | .half _ :: .scalar _ :: _, _, h => by cases h

theorem ink_ofUnit (n : Nat) : (Piece.ofUnit n).ink ≤ 1 := by
  unfold Piece.ofUnit
  split
  · exact Nat.le_refl 1
  · exact ink_le_one _

theorem ink_of_digitValue? {c : Char} {d : Nat} (h : Text.digitValue? c = some d) : ink [c] = 1 :=
  Text.of_ascii (P := fun c => (Text.digitValue? c).isSome → ink [c] = 1) (by decide)
    (Text.toNat_lt_of_digitValue? (by rw [h]; rfl)) (by rw [h]; rfl)

theorem ink_of_shortEscape? {c d : Char} (h : Token.shortEscape? c = some d) : ink [c] = 1 := by
  have hmem : c ∈ ['"', '\\', '/', 'b', 'f', 'n', 'r', 't'] := by
    unfold Token.shortEscape? at h
    grind
  have hall : (['"', '\\', '/', 'b', 'f', 'n', 'r', 't'].all fun c => ink [c] == 1) = true := by decide
  exact beq_iff_eq.1 (List.all_eq_true.1 hall c hmem)

/-! ## Tokens -/

namespace Token

/-- The characters of a string that are not blank, and one of its quotes. -/
def ink : Token → Nat
  | .text (some s) => Json.ink s.toList + 1
  | _ => 0

/-- What a string that is being read has spelled so far. -/
def Mode.ink : Mode → Nat
  | .between | .word _ => 0
  | .string ps | .escape ps | .unit ps _ _ => (ps.map Piece.ink).sum

theorem ink_of_ofMark? {c : Char} {t : Token} (h : ofMark? c = some t) : t.ink = 0 := by
  unfold ofMark? at h
  repeat' split at h
  all_goals cases h <;> rfl

theorem ink_of_ofWord? {cs : List Char} {t : Token} (h : ofWord? cs = some t) : t.ink = 0 := by
  unfold ofWord? at h
  split at h
  · cases h; rfl
  split at h
  · cases h; rfl
  split at h
  · cases h; rfl
  · obtain ⟨n, -, rfl⟩ := Option.map_eq_some_iff.1 h
    rfl

theorem ink_start (c : Char) : ((start c).1.map ink).sum + (start c).2.ink = 0 := by
  unfold start
  split
  · rfl
  split
  · rfl
  split
  · rename_i t ht
    simp [Mode.ink, ink_of_ofMark? ht]
  · rfl

theorem ink_text? (ps : List Piece) : (Token.text (Piece.text? ps.reverse)).ink ≤ (ps.map Piece.ink).sum + 1 := by
  unfold Piece.text?
  rcases h : Piece.join? ps.reverse with _ | cs
  · exact Nat.zero_le _
  · have hle := ink_join? h
    rw [List.map_reverse, List.sum_reverse] at hle
    rw [Option.map_some, ink, String.toList_ofList]
    omega

/-- **A character that is read** adds no more than itself to what is spelled. -/
theorem ink_step {mode mode' : Mode} {c : Char} {ts : List Token} (h : step mode c = some (ts, mode')) :
    (ts.map ink).sum + mode'.ink ≤ mode.ink + Json.ink [c] := by
  have hstart := ink_start c
  cases mode with
  | between =>
    rw [Option.some.inj h] at hstart
    exact Nat.le_trans (Nat.le_of_eq hstart) (Nat.zero_le _)
  | word cs =>
    simp only [step] at h
    split at h
    · obtain ⟨t, ht, heq⟩ := Option.map_eq_some_iff.1 h
      cases heq
      rw [List.map_cons, List.sum_cons, ink_of_ofWord? ht]
      omega
    · cases h
      exact Nat.zero_le _
  | string ps =>
    simp only [step] at h
    split at h
    · rename_i hc
      cases h
      have hquote : Json.ink [c] = 1 := by rw [beq_iff_eq.1 hc]; rfl
      have := ink_text? ps
      simp only [List.map_cons, List.map_nil, List.sum_cons, List.sum_nil, Mode.ink]
      omega
    split at h
    · cases h
      simp [Mode.ink]
    split at h
    · cases h
    · cases h
      simp only [List.map_nil, List.sum_nil, Mode.ink, List.map_cons, List.sum_cons, Piece.ink]
      omega
  | escape ps =>
    simp only [step] at h
    split at h
    · cases h
      simp [Mode.ink]
    · obtain ⟨d, hd, heq⟩ := Option.map_eq_some_iff.1 h
      cases heq
      have := ink_of_shortEscape? hd
      have := ink_le_one d
      simp only [List.map_nil, List.sum_nil, Mode.ink, List.map_cons, List.sum_cons, Piece.ink]
      omega
  | unit ps missing value =>
    obtain ⟨d, hd, heq⟩ := Option.map_eq_some_iff.1 h
    have := ink_of_digitValue? hd
    cases missing with
    | zero =>
      cases heq
      have := ink_ofUnit (16 * value + d)
      simp only [List.map_nil, List.sum_nil, Mode.ink, List.map_cons, List.sum_cons]
      omega
    | succ missing =>
      cases heq
      simp [Mode.ink]

theorem ink_finish? {mode : Mode} {ts : List Token} (h : finish? mode = some ts) : (ts.map ink).sum = 0 := by
  cases mode with
  | between => cases h; rfl
  | word cs =>
    obtain ⟨t, ht, rfl⟩ := Option.map_eq_some_iff.1 h
    simp [ink_of_ofWord? ht]
  | string _ | escape _ | unit _ _ _ => cases h

/-- **A text that is cut into tokens** spells no more than it has. -/
theorem ink_scan? : ∀ {cs : List Char} {mode : Mode} {ts : List Token}, scan? mode cs = some ts →
    (ts.map ink).sum ≤ mode.ink + Json.ink cs
  | [], mode, ts, h => by
    rw [ink_finish? h]
    exact Nat.zero_le _
  | c :: cs, mode, ts, h => by
    obtain ⟨⟨read, mode'⟩, hstep, hrest⟩ := Option.bind_eq_some_iff.1 h
    obtain ⟨rest, hscan, rfl⟩ := Option.map_eq_some_iff.1 hrest
    have hread := ink_step hstep
    have hleft : (rest.map ink).sum ≤ mode'.ink + Json.ink cs := ink_scan? hscan
    rw [ink_cons, List.map_append, List.sum_append]
    simp only
    omega

end Token

/-! ## Trees -/

namespace Tree

/-- What is read from tokens leaves their last ones. -/
theorem suffix_of_read : ∀ fuel : Nat,
    (∀ {ts : List Token} {v rest}, value? fuel ts = some (v, rest) → rest <:+ ts) ∧
    (∀ {ts : List Token} {vs rest}, items? fuel ts = some (vs, rest) → rest <:+ ts) ∧
    (∀ {ts : List Token} {fs rest}, fields? fuel ts = some (fs, rest) → rest <:+ ts)
  | 0 => by
    refine ⟨fun {ts v rest} h => ?_, fun {ts vs rest} h => ?_, fun {ts fs rest} h => ?_⟩
    · cases h
    · cases h
    · cases h
  | fuel + 1 => by
    obtain ⟨hvalue, hitems, hfields⟩ := suffix_of_read fuel
    refine ⟨fun {ts v rest} h => ?_, fun {ts vs rest} h => ?_, fun {ts fs rest} h => ?_⟩
    · unfold value? at h
      split at h
      case h_1 | h_2 | h_3 | h_4 =>
        cases h
        exact List.suffix_cons _ _
      case h_5 | h_7 =>
        cases h
        exact (List.suffix_cons _ _).trans (List.suffix_cons _ _)
      case h_6 heq =>
        obtain ⟨_, hread, hend⟩ := Option.map_eq_some_iff.1 h
        cases heq
        cases hend
        exact (hitems hread).trans (List.suffix_cons _ _)
      case h_8 heq =>
        obtain ⟨_, hread, hend⟩ := Option.map_eq_some_iff.1 h
        cases heq
        cases hend
        exact (hfields hread).trans (List.suffix_cons _ _)
      case h_9 => cases h
    · unfold items? at h
      split at h
      · rename_i v after hv
        cases h
        exact (List.suffix_cons _ _).trans (hvalue hv)
      · rename_i v after hv
        obtain ⟨⟨vs', rest'⟩, hrest, heq⟩ := Option.map_eq_some_iff.1 h
        cases heq
        exact (hitems hrest).trans ((List.suffix_cons _ _).trans (hvalue hv))
      · cases h
    · unfold fields? at h
      split at h
      case h_2 => cases h
      case h_1 k after heq =>
        cases heq
        have hafter : after <:+ .text k :: .colon :: after := (List.suffix_cons _ _).trans (List.suffix_cons _ _)
        split at h
        · rename_i v rest' hv
          cases h
          exact ((List.suffix_cons _ _).trans (hvalue hv)).trans hafter
        · rename_i v rest' hv
          obtain ⟨_, hread, hend⟩ := Option.map_eq_some_iff.1 h
          cases hend
          exact ((hfields hread).trans ((List.suffix_cons _ _).trans (hvalue hv))).trans hafter
        · cases h

theorem token_of_text {fuel : Nat} {ts rest : List Token} {s : Option String}
    (h : value? fuel ts = some (.text s, rest)) : .text s ∈ ts := by
  cases fuel with
  | zero => cases h
  | succ fuel =>
    unfold value? at h
    split at h
    case h_4 =>
      cases h
      exact List.mem_cons_self
    case h_6 | h_8 =>
      obtain ⟨_, -, hend⟩ := Option.map_eq_some_iff.1 h
      cases hend
    all_goals cases h

/-- A text in a field stands among the tokens that the fields are read from. -/
theorem token_of_field : ∀ {fuel : Nat} {ts rest : List Token} {fs : List (Option String × Tree)} {k s : Option String},
    fields? fuel ts = some (fs, rest) → (k, .text s) ∈ fs → .text s ∈ ts
  | 0, _, _, _, _, _, h, _ => by cases h
  | fuel + 1, ts, rest, fs, k, s, h, hmem => by
    unfold fields? at h
    split at h
    case h_2 => cases h
    case h_1 key after heq =>
      cases heq
      have hafter : after ⊆ .text key :: .colon :: after :=
        fun t ht => List.mem_cons_of_mem _ (List.mem_cons_of_mem _ ht)
      split at h
      · rename_i v rest' hv
        cases h
        cases List.mem_singleton.1 hmem
        exact hafter (token_of_text hv)
      · rename_i v rest' hv
        obtain ⟨⟨fs', _⟩, hread, hend⟩ := Option.map_eq_some_iff.1 h
        cases hend
        rcases List.mem_cons.1 hmem with heq | hmem
        · cases heq
          exact hafter (token_of_text hv)
        · exact hafter (((suffix_of_read fuel).1 hv).subset (List.mem_cons_of_mem _ (token_of_field hread hmem)))
      · cases h

theorem token_of_member {fuel : Nat} {ts : List Token} {fs : List (Option String × Tree)} {k s : Option String}
    (h : value? fuel ts = some (.object fs, [])) (hmem : (k, .text s) ∈ fs) : .text s ∈ ts := by
  cases fuel with
  | zero => cases h
  | succ fuel =>
    unfold value? at h
    split at h
    case h_8 heq =>
      obtain ⟨⟨_, _⟩, hread, hend⟩ := Option.map_eq_some_iff.1 h
      cases heq
      cases hend
      exact List.mem_cons_of_mem _ (token_of_field hread hmem)
    case h_6 =>
      obtain ⟨_, -, hend⟩ := Option.map_eq_some_iff.1 h
      cases hend
    all_goals cases h
    cases hmem

/-- **A member of an object spells less than the text of the object.** -/
theorem ink_lt_of_member {body : String} {fs : List (Option String × Tree)} {k : Option String} {s : String}
    (h : parse? body = some (.object fs)) (hmem : (k, .text (some s)) ∈ fs) : ink s.toList < ink body.toList := by
  obtain ⟨ts, hscan, hvalue⟩ := Option.bind_eq_some_iff.1 h
  split at hvalue
  · rename_i t hread
    cases hvalue
    obtain ⟨before, after, rfl⟩ := List.append_of_mem (token_of_member hread hmem)
    have hle := Token.ink_scan? hscan
    rw [List.map_append, List.map_cons, List.sum_append, List.sum_cons, Token.ink, Token.Mode.ink] at hle
    omega
  · cases hvalue

end Tree
end Json
end Hypermedia
