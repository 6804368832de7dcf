import Hypermedia.Uri.Host.Read
import Hypermedia.Proofs.Text.Split
import Mathlib.Data.Bool.AllAny
import Mathlib.Data.List.Induction
/-!
# Network addresses

An address of four bytes or of eight pieces is read again from its text (`ipv4?_ipv4Chars`, `ipv6Value?_ipv6Chars`).
What is read has bytes and pieces that fit (`lt_of_ipv4?`, `pieces_of_ipv6Value?`).
-/
namespace Hypermedia

/-! ## Numbers -/

namespace Text

theorem valueIn?_append (b : Nat) (cs : List Char) (c : Char) :
    valueIn? b (cs ++ [c]) = (valueIn? b cs).bind fun n => (digitValue? c).bind fun d =>
      if d < b then some (b * n + d) else none := by
  unfold valueIn?
  rw [List.foldl_append]
  rfl

/-- A text with something else than digits spells no number. -/
theorem valueIn?_of_mem {b : Nat} {cs : List Char} {c : Char} (hc : digitValue? c = none) (h : c ∈ cs) :
    valueIn? b cs = none := by
  induction cs using List.reverseRecOn with
  | nil => cases h
  | append_singleton cs d ih =>
    rw [valueIn?_append]
    rcases List.mem_append.1 h with h | h
    · rw [ih h, Option.bind_none]
    · obtain rfl := List.mem_singleton.1 h
      simp [hc]

/-- **The digits of a number spell it.** -/
theorem valueIn?_toDigits {b : Nat} (h : 1 < b) (h' : b ≤ 16) (n : Nat) : valueIn? b (Nat.toDigits b n) = some n := by
  have hdigit : ∀ d < 16, digitValue? (Nat.digitChar d) = some d := by decide
  induction n using Nat.strongRecOn with
  | _ n ih =>
    have hlast : ∀ cs m, valueIn? b cs = some m → ∀ d < b, valueIn? b (cs ++ [Nat.digitChar d]) = some (b * m + d) := by
      intro cs m hm d hd
      rw [valueIn?_append, hm, Option.bind_some, hdigit d (by omega), Option.bind_some, if_pos hd]
    rw [Nat.toDigits_eq_if h]
    split
    · rename_i hlt
      have := hlast [] 0 rfl n hlt
      simpa using this
    · rename_i hle
      rw [hlast _ _ (ih (n / b) (Nat.div_lt_self (by omega) h)) (n % b) (Nat.mod_lt _ (by omega)), Nat.div_add_mod]

theorem valueIn?_lt {b : Nat} {cs : List Char} {n : Nat} (h : valueIn? b cs = some n) : n < Nat.pow b cs.length := by
  induction cs using List.reverseRecOn generalizing n with
  | nil => cases h; exact Nat.one_pos
  | append_singleton cs c ih =>
    rw [valueIn?_append] at h
    obtain ⟨m, hm, h⟩ := Option.bind_eq_some_iff.1 h
    obtain ⟨d, -, h⟩ := Option.bind_eq_some_iff.1 h
    split at h
    · cases h
      have hm := ih hm
      rw [List.length_append, List.length_singleton]
      calc b * m + d < b * m + b := by omega
        _ = b * (m + 1) := (Nat.mul_succ b m).symm
        _ ≤ b * Nat.pow b cs.length := Nat.mul_le_mul_left b hm
        _ = Nat.pow b (cs.length + 1) := Nat.mul_comm _ _
    · cases h

theorem mem_hexDigits {c : Char} {n : Nat} (h : c ∈ hexDigits n) : c ∈ "0123456789abcdef".toList := by
  have hdigit : ∀ d < 16, Nat.digitChar d ∈ "0123456789abcdef".toList := by decide
  unfold hexDigits at h
  induction n using Nat.strongRecOn with
  | _ n ih =>
    rw [Nat.toDigits_eq_if (by decide)] at h
    split at h
    · rename_i hlt
      rw [List.mem_singleton.1 h]
      exact hdigit n hlt
    · rcases List.mem_append.1 h with h | h
      · exact ih (n / 16) (Nat.div_lt_self (by omega) (by decide)) h
      · rw [List.mem_singleton.1 h]
        exact hdigit _ (Nat.mod_lt _ (by decide))

end Text

namespace Host

/-! ## Addresses of four bytes -/

theorem number_ne_nil (n : Nat) : number n ≠ [] := Nat.toDigits_ne_nil

theorem isDigit_of_mem_number {c : Char} {n : Nat} (h : c ∈ number n) : c.isDigit = true :=
  Nat.isDigit_of_mem_toDigits (by decide) (by decide) h

theorem isDigit_ne {c d : Char} (h : c.isDigit = true) (hd : d.isDigit = false) : c ≠ d := by
  rintro rfl
  rw [h] at hd
  cases hd

/-- The bytes of an address. -/
def bytesOf (v : Nat) : List Nat := [v / Nat.pow 2 24, v / Nat.pow 2 16 % 256, v / Nat.pow 2 8 % 256, v % 256]

theorem lt_of_mem_bytesOf {v n : Nat} (h : v < Nat.pow 2 32) (hn : n ∈ bytesOf v) : n < 256 := by
  simp only [bytesOf, List.mem_cons, List.not_mem_nil, or_false] at hn
  simp only [Nat.pow_eq] at h hn
  omega

theorem ipv4Chars_eq (v : Nat) : ipv4Chars v = ['.'].intercalate ((bytesOf v).map number) := by
  simp [ipv4Chars, bytesOf, List.intercalate]

theorem splitAll_ipv4Chars (v : Nat) : Text.splitAll (· == '.') (ipv4Chars v) = (bytesOf v).map number := by
  rw [ipv4Chars_eq]
  refine Text.splitAll_intercalate (p := (· == '.')) rfl (List.cons_ne_nil _ _) fun s hs c hc => ?_
  obtain ⟨n, -, rfl⟩ := List.mem_map.1 hs
  simpa using isDigit_ne (isDigit_of_mem_number hc) (by decide)

theorem labels_ipv4Chars (v : Nat) : labels (ipv4Chars v) = (bytesOf v).map number := by
  unfold labels
  simp only [splitAll_ipv4Chars]
  rw [if_neg]
  simp [bytesOf, number_ne_nil]

theorem endsInNumber_ipv4Chars (v : Nat) : endsInNumber (ipv4Chars v) = true := by
  unfold endsInNumber
  rw [labels_ipv4Chars]
  have hlast : ((bytesOf v).map number).getLast? = some (number (v % 256)) := by simp [bytesOf]
  rw [hlast]
  have hall : (number (v % 256)).all Char.isDigit = true := List.all_eq_true.2 fun c hc => isDigit_of_mem_number hc
  rcases hn : number (v % 256) with _ | ⟨c, cs⟩
  · exact absurd hn (number_ne_nil _)
  · rw [hn] at hall
    simp [hall]

theorem ipv4Number?_number : ∀ n < 256, ipv4Number? (number n) = some n := by decide +kernel

/-- **An address of four bytes is read from its text.** -/
theorem ipv4?_ipv4Chars {v : Nat} (h : v < Nat.pow 2 32) : ipv4? (ipv4Chars v) = some v := by
  have hnumbers : ∀ {ns : List Nat}, (∀ n ∈ ns, n < 256) → (ns.map number).mapM ipv4Number? = some ns := by
    intro ns hns
    induction ns with
    | nil => rfl
    | cons n ns ih =>
      rw [List.map_cons, List.mapM_cons, ipv4Number?_number n (hns n List.mem_cons_self),
        ih fun m hm => hns m (List.mem_cons_of_mem n hm)]
      rfl
  have hbytes : ∀ n ∈ bytesOf v, n < 256 := fun n hn => lt_of_mem_bytesOf h hn
  have hvalue : ipv4Value? (bytesOf v) = some v := by
    have hpow : Nat.pow 256 1 = 256 := rfl
    simp only [bytesOf, Nat.pow_eq] at hbytes h ⊢
    simp only [List.forall_mem_cons] at hbytes
    unfold ipv4Value?
    simp only [List.dropLast_cons_cons, List.dropLast_singleton, List.getLastD_cons, List.getLastD_nil, List.any_cons,
      List.any_nil, List.length_cons, List.length_nil, List.foldl_cons, List.foldl_nil, hpow]
    rw [if_neg (by simp; omega)]
    simp only [Option.some.injEq]
    omega
  unfold ipv4?
  rw [labels_ipv4Chars, hnumbers hbytes, Option.bind_some, hvalue]

theorem lt_of_bytes : ∀ {ns : List Nat} (m : Nat), (∀ n ∈ ns, n ≤ 255) →
    ns.foldl (fun acc n => 256 * acc + n) m < (m + 1) * Nat.pow 256 ns.length
  | [], m, _ => by simp
  | n :: ns, m, h => by
    have hn := h n List.mem_cons_self
    calc (n :: ns).foldl (fun acc n => 256 * acc + n) m
        < (256 * m + n + 1) * Nat.pow 256 ns.length := lt_of_bytes _ fun k hk => h k (List.mem_cons_of_mem n hk)
      _ ≤ (m + 1) * 256 * Nat.pow 256 ns.length := Nat.mul_le_mul_right _ (by omega)
      _ = (m + 1) * Nat.pow 256 (n :: ns).length := by
        rw [List.length_cons, Nat.pow_eq, Nat.pow_eq, Nat.pow_succ', Nat.mul_assoc]

/-- An address of four bytes that was read has four bytes. -/
theorem lt_of_ipv4? {cs : List Char} {v : Nat} (h : ipv4? cs = some v) : v < Nat.pow 2 32 := by
  obtain ⟨ns, -, h⟩ := Option.bind_eq_some_iff.1 h
  unfold ipv4Value? at h
  simp only at h
  split at h
  · cases h
  · rename_i hfits
    simp only [Bool.or_eq_true, decide_eq_true_eq, not_or, Nat.not_lt, Nat.not_le, Nat.pow_eq] at hfits
    obtain ⟨⟨hfront, hlength⟩, hlast⟩ := hfits
    have hfront : ∀ n ∈ ns.dropLast, n ≤ 255 := by simpa using hfront
    have hshort : ns.dropLast.length ≤ 3 := by rw [List.length_dropLast]; omega
    have hpow : 256 ^ ns.dropLast.length * 256 ^ (4 - ns.dropLast.length) = 256 ^ 4 := by
      rw [← Nat.pow_add]
      congr 1
      omega
    have hvalue := lt_of_bytes 0 hfront
    rw [Nat.zero_add, Nat.one_mul, Nat.pow_eq] at hvalue
    cases h
    simp only [Nat.pow_eq]
    calc _ < (ns.dropLast.foldl (fun acc n => 256 * acc + n) 0 + 1) * 256 ^ (4 - ns.dropLast.length) := by
          rw [Nat.succ_mul]; omega
      _ ≤ 256 ^ ns.dropLast.length * 256 ^ (4 - ns.dropLast.length) := Nat.mul_le_mul_right _ hvalue
      _ = 2 ^ 32 := hpow

/-! ## Addresses of eight pieces -/

theorem hexDigits_ne_nil (n : Nat) : Text.hexDigits n ≠ [] := Nat.toDigits_ne_nil

theorem not_mem_hexDigits {c : Char} (h : c ∉ "0123456789abcdef".toList) (n : Nat) : c ∉ Text.hexDigits n :=
  fun hc => h (Text.mem_hexDigits hc)

theorem ipv6Piece?_hexDigits {n : Nat} (h : n < 0x10000) : ipv6Piece? (Text.hexDigits n) = some n := by
  have hlength : (Text.hexDigits n).length ≤ 4 := (Nat.length_toDigits_le_iff (by decide) (by decide)).2 h
  unfold ipv6Piece?
  rw [if_neg (by simpa [hexDigits_ne_nil] using hlength)]
  exact Text.valueIn?_toDigits (by decide) (by decide) n

theorem ipv6Pieces?_hexDigits : ∀ {ps : List Nat}, (∀ p ∈ ps, p < 0x10000) →
    ipv6Pieces? (ps.map Text.hexDigits) = some ps
  | [], _ => rfl
  | [p], h => by
    rw [List.map_singleton, ipv6Pieces?, if_neg (by simpa using not_mem_hexDigits (by decide) p),
      ipv6Piece?_hexDigits (h p List.mem_cons_self)]
    rfl
  | p :: q :: ps, h => by
    have hpiece := ipv6Piece?_hexDigits (h p List.mem_cons_self)
    have hrest : ipv6Pieces? ((q :: ps).map Text.hexDigits) = some (q :: ps) :=
      ipv6Pieces?_hexDigits fun r hr => h r (List.mem_cons_of_mem p hr)
    simp only [List.map_cons] at hrest ⊢
    rw [ipv6Pieces?, hpiece, hrest]
    · rfl
    · simp

theorem joinPieces_cons_cons (p q : Nat) (ps : List Nat) :
    joinPieces (p :: q :: ps) = Text.hexDigits p ++ ':' :: joinPieces (q :: ps) := by
  simp [joinPieces, List.intercalate_cons_cons]

/-- The text of pieces starts with a digit. -/
theorem joinPieces_eq_cons (p : Nat) (ps : List Nat) :
    ∃ c cs, joinPieces (p :: ps) = c :: cs ∧ c ∈ "0123456789abcdef".toList := by
  rcases hp : Text.hexDigits p with _ | ⟨c, cs⟩
  · exact absurd hp (hexDigits_ne_nil p)
  have hc : c ∈ "0123456789abcdef".toList := Text.mem_hexDigits (hp ▸ List.mem_cons_self)
  rcases ps with _ | ⟨q, ps⟩
  · exact ⟨c, cs, by simp [joinPieces, hp], hc⟩
  · exact ⟨c, cs ++ ':' :: joinPieces (q :: ps), by rw [joinPieces_cons_cons, hp]; rfl, hc⟩

theorem mem_joinPieces {c : Char} {ps : List Nat} (h : c ∈ joinPieces ps) : c ∈ ":0123456789abcdef".toList := by
  rcases Text.mem_intercalate h with rfl | ⟨s, hs, hc⟩
  · decide
  · obtain ⟨p, -, rfl⟩ := List.mem_map.1 hs
    exact List.mem_cons_of_mem ':' (Text.mem_hexDigits hc)

theorem mem_ipv6Chars {c : Char} {ps : List Nat} (h : c ∈ ipv6Chars ps) : c ∈ ":0123456789abcdef".toList := by
  unfold ipv6Chars at h
  simp only at h
  split at h
  · rcases List.mem_append.1 h with h | h
    · rcases List.mem_append.1 h with h | h
      · exact mem_joinPieces h
      · have hall : ∀ d ∈ [':', ':'], d ∈ ":0123456789abcdef".toList := List.all_iff_forall_prop.1 (by decide)
        exact hall c h
    · exact mem_joinPieces h
  · exact mem_joinPieces h

/-- Pieces are read from their text. -/
theorem ipv6Side?_joinPieces {ps : List Nat} (h : ∀ p ∈ ps, p < 0x10000) : ipv6Side? (joinPieces ps) = some ps := by
  unfold ipv6Side?
  rcases ps with _ | ⟨p, ps⟩
  · rfl
  obtain ⟨c, cs, hcs, -⟩ := joinPieces_eq_cons p ps
  rw [if_neg (by rw [hcs]; simp), ← ipv6Pieces?_hexDigits h]
  congr 1
  refine Text.splitAll_intercalate (p := (· == ':')) rfl (by simp) fun s hs c hc => ?_
  obtain ⟨n, -, rfl⟩ := List.mem_map.1 hs
  simpa using fun he : c = ':' => not_mem_hexDigits (c := ':') (by decide) n (he ▸ hc)

theorem splitGap_append : ∀ {xs : List Char} (ys : List Char), ':' ∉ xs →
    splitGap (xs ++ ys) = (xs ++ (splitGap ys).1, (splitGap ys).2)
  | [], _, _ => rfl
  | x :: xs, ys, h => by
    rw [List.cons_append, splitGap, splitGap_append ys fun hm => h (List.mem_cons_of_mem x hm)]
    · rfl
    · rintro _ rfl
      exact absurd List.mem_cons_self h

theorem splitGap_colon {c : Char} (h : c ≠ ':') (cs : List Char) :
    splitGap (':' :: c :: cs) = (':' :: (splitGap (c :: cs)).1, (splitGap (c :: cs)).2) := by
  rw [splitGap]
  intro _ _ hx
  exact h (List.cons.inj hx).1

/-- **Pieces end where a gap follows**, or nothing. -/
theorem splitGap_joinPieces {rest : List Char} {gap : Option (List Char)} (h : splitGap rest = ([], gap)) :
    ∀ ps : List Nat, splitGap (joinPieces ps ++ rest) = (joinPieces ps, gap)
  | [] => h
  | [p] => by
    rw [joinPieces, List.map_singleton, List.intercalate_singleton,
      splitGap_append rest (not_mem_hexDigits (by decide) p), h, List.append_nil]
  | p :: q :: ps => by
    obtain ⟨c, cs, hcs, hc⟩ := joinPieces_eq_cons q ps
    have hne : c ≠ ':' := by rintro rfl; exact absurd hc (by decide)
    have ih := splitGap_joinPieces h (q :: ps)
    rw [joinPieces_cons_cons, List.append_assoc, splitGap_append _ (not_mem_hexDigits (by decide) p), List.cons_append]
    rw [hcs, List.cons_append] at ih ⊢
    rw [splitGap_colon hne, ih]

theorem leadingZeros_spec : ∀ ps : List Nat,
    leadingZeros ps ≤ ps.length ∧ ps.take (leadingZeros ps) = List.replicate (leadingZeros ps) 0
  | [] => ⟨Nat.le_refl 0, rfl⟩
  | p :: ps => by
    obtain ⟨hle, htake⟩ := leadingZeros_spec ps
    unfold leadingZeros at hle htake ⊢
    rw [List.takeWhile_cons]
    split
    · rename_i hp
      rw [List.length_cons, List.take_succ_cons, htake, List.replicate_succ, List.length_cons, eq_of_beq hp]
      exact ⟨Nat.succ_le_succ hle, rfl⟩
    · exact ⟨Nat.zero_le _, rfl⟩

/-- **The longest run of zeros** is one. -/
theorem longestZeros_spec : ∀ ps : List Nat, (longestZeros ps).1 + (longestZeros ps).2 ≤ ps.length ∧
    (ps.drop (longestZeros ps).1).take (longestZeros ps).2 = List.replicate (longestZeros ps).2 0
  | [] => ⟨Nat.le_refl 0, rfl⟩
  | p :: ps => by
    obtain ⟨hle, htake⟩ := longestZeros_spec ps
    obtain ⟨hle', htake'⟩ := leadingZeros_spec (p :: ps)
    unfold longestZeros
    simp only
    split
    · exact ⟨by simpa using hle', by simpa using htake'⟩
    · simp only [List.length_cons, List.drop_succ_cons]
      exact ⟨by omega, htake⟩

/-- **An address of eight pieces is read from its text.** -/
theorem ipv6Value?_ipv6Chars {ps : List Nat} (hlength : ps.length = 8) (h : ∀ p ∈ ps, p < 0x10000) :
    ipv6Value? (ipv6Chars ps) = some ps := by
  unfold ipv6Chars
  simp only
  split
  · rename_i hgap
    obtain ⟨hle, hzeros⟩ := longestZeros_spec ps
    generalize hstart : (longestZeros ps).1 = start at *
    generalize hcount : (longestZeros ps).2 = count at *
    have hfront : ∀ p ∈ ps.take start, p < 0x10000 := fun p hp => h p (List.mem_of_mem_take hp)
    have hback : ∀ p ∈ ps.drop (start + count), p < 0x10000 := fun p hp => h p (List.mem_of_mem_drop hp)
    have hsplit : splitGap (joinPieces (ps.take start) ++ ':' :: ':' :: joinPieces (ps.drop (start + count))) =
        (joinPieces (ps.take start), some (joinPieces (ps.drop (start + count)))) := splitGap_joinPieces rfl _
    have hpoint : '.' ∉ joinPieces (ps.take start) := fun hc => absurd (mem_joinPieces hc) (by decide)
    have hlengths : (ps.take start).length = start ∧ (ps.drop (start + count)).length = 8 - (start + count) := by
      rw [List.length_take, List.length_drop]
      omega
    have hwhole : ps.take start ++ List.replicate count 0 ++ ps.drop (start + count) = ps := by
      rw [← hzeros, List.append_assoc, ← List.drop_drop, List.take_append_drop, List.take_append_drop]
    unfold ipv6Value?
    rw [List.append_assoc]
    simp only [List.cons_append, List.nil_append, hsplit]
    rw [if_neg (by simp [hpoint]), ipv6Side?_joinPieces hfront, ipv6Side?_joinPieces hback]
    simp only [Option.bind_some, hlengths]
    rw [if_pos (by omega)]
    have : 8 - start - (8 - (start + count)) = count := by omega
    rw [this, hwhole]
  · have hsplit : splitGap (joinPieces ps ++ []) = (joinPieces ps, none) := splitGap_joinPieces rfl ps
    rw [List.append_nil] at hsplit
    unfold ipv6Value?
    rw [hsplit]
    simp only [ipv6Side?_joinPieces h, Option.bind_some, hlength]
    rfl

theorem exists_of_mem_mapM {α β : Type} {f : α → Option β} : ∀ {xs : List α} {ys : List β}, xs.mapM f = some ys →
    ∀ y ∈ ys, ∃ x ∈ xs, f x = some y
  | [], _, h, y, hy => by cases h; cases hy
  | x :: xs, ys, h, y, hy => by
    rw [List.mapM_cons] at h
    obtain ⟨z, hz, h⟩ := Option.bind_eq_some_iff.1 h
    obtain ⟨zs, hzs, h⟩ := Option.bind_eq_some_iff.1 h
    cases h
    rcases List.mem_cons.1 hy with rfl | hy
    · exact ⟨x, List.mem_cons_self, hz⟩
    · obtain ⟨w, hw, hy⟩ := exists_of_mem_mapM hzs y hy
      exact ⟨w, List.mem_cons_of_mem x hw, hy⟩

theorem ipv6Piece?_lt {cs : List Char} {n : Nat} (h : ipv6Piece? cs = some n) : n < 0x10000 := by
  unfold ipv6Piece? at h
  split at h
  · cases h
  · rename_i hlength
    simp only [Bool.or_eq_true, decide_eq_true_eq, not_or, Nat.not_lt] at hlength
    calc n < 16 ^ cs.length := Text.valueIn?_lt h
      _ ≤ 16 ^ 4 := Nat.pow_le_pow_right (by decide) hlength.2

theorem byte?_le {cs : List Char} {n : Nat} (h : byte? cs = some n) : n ≤ 255 := by
  unfold byte? at h
  split at h
  · cases h
  · obtain ⟨m, -, h⟩ := Option.bind_eq_some_iff.1 h
    split at h
    · rename_i hle
      cases h
      exact hle
    · cases h

theorem embeddedIpv4?_lt {cs : List Char} {ns : List Nat} (h : embeddedIpv4? cs = some ns) : ∀ n ∈ ns, n < 0x10000 := by
  unfold embeddedIpv4? at h
  split at h
  · rename_i a b c d hbytes
    cases h
    have hall : ∀ n ∈ [a, b, c, d], n ≤ 255 := fun n hn => by
      obtain ⟨part, -, hpart⟩ := exists_of_mem_mapM hbytes n hn
      exact byte?_le hpart
    simp only [List.forall_mem_cons] at hall ⊢
    refine ⟨by omega, by omega, by simp⟩
  · cases h

theorem ipv6Pieces?_lt : ∀ {parts : List (List Char)} {ns : List Nat}, ipv6Pieces? parts = some ns →
    ∀ n ∈ ns, n < 0x10000
  | [], ns, h => by
    cases h
    simp
  | [part], ns, h => by
    rw [ipv6Pieces?] at h
    split at h
    · exact embeddedIpv4?_lt h
    · obtain ⟨n, hn, rfl⟩ := Option.map_eq_some_iff.1 h
      simpa using ipv6Piece?_lt hn
  | part :: next :: parts, ns, h => by
    rw [ipv6Pieces?] at h
    · obtain ⟨n, hn, h⟩ := Option.bind_eq_some_iff.1 h
      obtain ⟨ms, hms, rfl⟩ := Option.map_eq_some_iff.1 h
      exact List.forall_mem_cons.2 ⟨ipv6Piece?_lt hn, ipv6Pieces?_lt hms⟩
    · simp

theorem ipv6Side?_lt {cs : List Char} {ns : List Nat} (h : ipv6Side? cs = some ns) : ∀ n ∈ ns, n < 0x10000 := by
  unfold ipv6Side? at h
  split at h
  · cases h
    simp
  · exact ipv6Pieces?_lt h

/-- An address of eight pieces that was read has eight pieces of two bytes. -/
theorem pieces_of_ipv6Value? {cs : List Char} {ps : List Nat} (h : ipv6Value? cs = some ps) :
    ps.length = 8 ∧ ∀ p ∈ ps, p < 0x10000 := by
  unfold ipv6Value? at h
  split at h
  · obtain ⟨ns, hns, h⟩ := Option.bind_eq_some_iff.1 h
    split at h
    · rename_i hlength
      cases h
      exact ⟨eq_of_beq hlength, ipv6Side?_lt hns⟩
    · cases h
  · split at h
    · cases h
    · obtain ⟨ns, hns, h⟩ := Option.bind_eq_some_iff.1 h
      obtain ⟨ms, hms, h⟩ := Option.bind_eq_some_iff.1 h
      split at h
      · rename_i hlength
        cases h
        refine ⟨by simp; omega, fun p hp => ?_⟩
        rcases List.mem_append.1 hp with hp | hp
        · rcases List.mem_append.1 hp with hp | hp
          · exact ipv6Side?_lt hns p hp
          · rw [(List.mem_replicate.1 hp).2]
            decide
        · exact ipv6Side?_lt hms p hp
      · cases h

end Host
end Hypermedia
