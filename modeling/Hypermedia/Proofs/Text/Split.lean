import Hypermedia.Text.Split
import Mathlib.Data.List.TakeWhile
/-!
# Cutting joined lists

A list that was joined at a separator is cut there again: behind the first separator (`splitFirst_append`), at the first
member of a kind (`takeWhile_append`, `dropWhile_append`), and at every separator (`splitAll_append`).  Rewriting the
members one by one keeps the cuts if no separator comes or goes (`splitFirst_flatMap`, `splitAll_flatMap`).  Two lists
that are cut at the same separator and of which one is a prefix of the other have the same front (`prefix_cut`).
-/
namespace Hypermedia
namespace Text

variable {α : Type}

/-! ## The front of a list -/

theorem takeWhile_append {p : α → Bool} {xs ys : List α} (h : ∀ x ∈ xs, p x = true)
    (hy : ys.head?.all (!p ·) = true) : (xs ++ ys).takeWhile p = xs := by
  rw [List.takeWhile_append_of_pos h]
  cases ys with
  | nil => exact List.append_nil xs
  | cons y ys =>
    have hy : p y = false := by simpa using hy
    rw [List.takeWhile_cons, hy]
    exact List.append_nil xs

theorem dropWhile_append {p : α → Bool} {xs ys : List α} (h : ∀ x ∈ xs, p x = true)
    (hy : ys.head?.all (!p ·) = true) : (xs ++ ys).dropWhile p = ys := by
  rw [List.dropWhile_append_of_pos h]
  cases ys with
  | nil => rfl
  | cons y ys =>
    have hy : p y = false := by simpa using hy
    rw [List.dropWhile_cons, hy]
    rfl

/-- What is left behind a run does not start with a member of the run. -/
theorem head?_dropWhile (p : α → Bool) : ∀ xs : List α, (xs.dropWhile p).head?.all (!p ·) = true
  | [] => rfl
  | x :: xs => by
    rw [List.dropWhile_cons]
    rcases hp : p x with _ | _
    · simp [hp]
    · exact head?_dropWhile p xs

section

variable [BEq α] [LawfulBEq α] {a : α}

/-- What holds no separator goes to the front. -/
theorem splitFirst_of_not_mem_append (ys : List α) : ∀ {xs : List α}, a ∉ xs →
    splitFirst a (xs ++ ys) = (xs ++ (splitFirst a ys).1, (splitFirst a ys).2)
  | [], _ => rfl
  | x :: xs, h => by
    have hx : (x == a) = false := by simpa using fun he : x = a => h (he ▸ List.mem_cons_self)
    rw [List.cons_append, splitFirst, hx, splitFirst_of_not_mem_append ys fun hm => h (List.mem_cons_of_mem x hm)]
    rfl

theorem splitFirst_append {xs : List α} (ys : List α) (h : a ∉ xs) : splitFirst a (xs ++ a :: ys) = (xs, some ys) := by
  rw [splitFirst_of_not_mem_append _ h, splitFirst, beq_self_eq_true, if_pos rfl, List.append_nil]

theorem splitFirst_of_not_mem {xs : List α} (h : a ∉ xs) : splitFirst a xs = (xs, none) := by
  have happend := splitFirst_of_not_mem_append [] h
  rwa [List.append_nil, splitFirst, List.append_nil] at happend

/-- The front and the rest are rewritten each on its own when the separator stays as it is and nothing else is turned
into one. -/
theorem splitFirst_flatMap {f : α → List α} (hkept : f a = [a]) (hfree : ∀ x, x ≠ a → a ∉ f x) : ∀ xs : List α,
    splitFirst a (xs.flatMap f) = ((splitFirst a xs).1.flatMap f, (splitFirst a xs).2.map (·.flatMap f))
  | [] => rfl
  | x :: xs => by
    rw [List.flatMap_cons, splitFirst]
    by_cases hx : x = a
    · rw [hx, hkept, beq_self_eq_true]
      exact splitFirst_append (xs.flatMap f) List.not_mem_nil
    · rw [splitFirst_of_not_mem_append _ (hfree x hx), splitFirst_flatMap hkept hfree xs, beq_eq_false_iff_ne.2 hx]
      rfl

theorem afterStart?_append (ys : List α) : ∀ xs : List α, afterStart? xs (xs ++ ys) = some ys
  | [] => rfl
  | x :: xs => by rw [List.cons_append, afterStart?, if_pos (beq_self_eq_true x), afterStart?_append ys xs]

theorem eq_append_of_afterStart? : ∀ {xs ys rest : List α}, afterStart? xs ys = some rest → ys = xs ++ rest
  | [], _, _, h => Option.some.inj h
  | _ :: _, [], _, h => by cases h
  | x :: xs, y :: ys, rest, h => by
    rw [afterStart?] at h
    split at h
    · rename_i hxy
      rw [eq_of_beq hxy, eq_append_of_afterStart? h, List.cons_append]
    · cases h

end

/-- **Two lists cut at one separator**: if one is a prefix of the other, they have the same front. -/
theorem prefix_cut {a : α} : ∀ {xs xs' ys ys' : List α}, a ∉ xs → a ∉ xs' → xs ++ a :: ys <+: xs' ++ a :: ys' →
    xs = xs' ∧ ys <+: ys'
  | [], [], _, _, _, _, h => ⟨rfl, (List.cons_prefix_cons.1 h).2⟩
  | [], x' :: xs', _, _, _, h', h => absurd ((List.cons_prefix_cons.1 h).1 ▸ List.mem_cons_self) h'
  | x :: xs, [], _, _, h, _, hp => absurd ((List.cons_prefix_cons.1 hp).1 ▸ List.mem_cons_self) h
  | x :: xs, x' :: xs', ys, ys', h, h', hp => by
    obtain ⟨rfl, htail⟩ := List.cons_prefix_cons.1 hp
    obtain ⟨rfl, hrest⟩ := prefix_cut (fun hm => h (List.mem_cons_of_mem x hm))
      (fun hm => h' (List.mem_cons_of_mem x hm)) htail
    exact ⟨rfl, hrest⟩

/-- A prefix without members of a kind ends before the first of them. -/
theorem prefix_of_prefix_append {p : α → Bool} : ∀ {xs ys zs : List α}, (∀ x ∈ xs, p x = true) →
    zs.head?.all (!p ·) = true → xs <+: ys ++ zs → xs <+: ys
  | [], _, _, _, _, _ => List.nil_prefix
  | x :: xs, [], [], _, _, h => absurd (List.prefix_nil.1 h) (List.cons_ne_nil x xs)
  | x :: xs, [], z :: zs, hx, hz, h => by
    have hzx : x = z := (List.cons_prefix_cons.1 h).1
    have hpz : p z = false := by simpa using hz
    rw [← hzx, hx x List.mem_cons_self] at hpz
    cases hpz
  | x :: xs, y :: ys, zs, hx, hz, h => by
    obtain ⟨rfl, htail⟩ := List.cons_prefix_cons.1 h
    exact List.cons_prefix_cons.2
      ⟨rfl, prefix_of_prefix_append (fun w hw => hx w (List.mem_cons_of_mem x hw)) hz htail⟩

/-! ## The end of a list -/

theorem stripRight_append {p : α → Bool} {xs ys : List α} (hne : xs ≠ []) (hlast : ∀ x ∈ xs.getLast?, p x = false) :
    stripRight p (xs ++ ys) = xs ++ stripRight p ys := by
  unfold stripRight
  obtain ⟨zs, z, rfl⟩ : ∃ zs z, xs = zs ++ [z] := ⟨_, _, (List.dropLast_concat_getLast hne).symm⟩
  have hz : p z = false := hlast z (by simp)
  rw [List.reverse_append, List.dropWhile_append]
  rcases hys : ys.reverse.dropWhile p with _ | ⟨y, rest⟩
  · simp [hz]
  · simp

theorem stripRight_concat (p : α → Bool) (xs : List α) (x : α) :
    stripRight p (xs ++ [x]) = if p x then stripRight p xs else xs ++ [x] := by
  unfold stripRight
  rw [List.reverse_append, List.reverse_singleton, List.singleton_append, List.dropWhile_cons]
  split <;> simp

/-- What ends in no member of a kind is not stripped. -/
theorem stripRight_of_last {p : α → Bool} {xs : List α} (h : ∀ x ∈ xs.getLast?, p x = false) :
    stripRight p xs = xs := by
  rcases List.eq_nil_or_concat xs with rfl | ⟨ys, y, rfl⟩
  · rfl
  · have hy : p y = false := h y (by simp)
    rw [List.concat_eq_append, stripRight_concat, hy]
    rfl

theorem getLast?_stripRight (p : α → Bool) (xs : List α) : ∀ x ∈ (stripRight p xs).getLast?, p x = false := by
  intro x hx
  have hhead := head?_dropWhile p xs.reverse
  rw [stripRight, List.getLast?_reverse] at hx
  rw [Option.mem_def.1 hx] at hhead
  simpa using hhead

/-- What is stripped does not matter behind a list. -/
theorem stripRight_append_replicate {p : α → Bool} {x : α} (hx : p x = true) (xs : List α) : ∀ n : Nat,
    stripRight p (xs ++ List.replicate n x) = stripRight p xs
  | 0 => by rw [List.replicate_zero, List.append_nil]
  | n + 1 => by
    rw [List.replicate_succ', ← List.append_assoc, stripRight_concat, if_pos hx, stripRight_append_replicate hx xs n]

theorem stripRight_prefix (p : α → Bool) (xs : List α) : stripRight p xs <+: xs := by
  unfold stripRight
  rw [← List.reverse_suffix, List.reverse_reverse]
  exact List.dropWhile_suffix p

/-! ## Both ends of a list -/

/-- What is left of a list without the members of a kind around it. -/
structure IsCore (p : α → Bool) (xs core : List α) : Prop where
  around : ∃ before after, xs = before ++ core ++ after ∧ ∀ x ∈ before ++ after, p x = true
  head : ∀ x ∈ core.head?, p x = false
  last : ∀ x ∈ core.getLast?, p x = false

theorem stripRight_of_all {p : α → Bool} {xs : List α} (h : ∀ x ∈ xs, p x = true) : stripRight p xs = [] := by
  rw [stripRight, List.dropWhile_eq_nil_iff.2 fun x hx => h x (List.mem_reverse.1 hx), List.reverse_nil]

theorem exists_eq_stripRight_append (p : α → Bool) (xs : List α) :
    ∃ after, xs = stripRight p xs ++ after ∧ ∀ x ∈ after, p x = true := by
  refine ⟨(xs.reverse.takeWhile p).reverse, ?_, fun x hx => List.mem_takeWhile_imp (List.mem_reverse.1 hx)⟩
  rw [stripRight, ← List.reverse_append, List.takeWhile_append_dropWhile, List.reverse_reverse]

/-- **Stripping both ends leaves the core**, and a list has no other one. -/
theorem stripBoth_eq_iff {p : α → Bool} {xs core : List α} : stripBoth p xs = core ↔ IsCore p xs core := by
  have hboth : stripBoth p xs = stripRight p (xs.dropWhile p) := rfl
  rw [hboth]
  constructor
  · rintro rfl
    obtain ⟨after, hafter, hblank⟩ := exists_eq_stripRight_append p (xs.dropWhile p)
    refine ⟨⟨xs.takeWhile p, after, ?_, ?_⟩, fun x hx => ?_, getLast?_stripRight p _⟩
    · rw [List.append_assoc, ← hafter, List.takeWhile_append_dropWhile]
    · exact List.forall_mem_append.2 ⟨fun x hx => List.mem_takeWhile_imp hx, hblank⟩
    · obtain ⟨rest, hrest⟩ := stripRight_prefix p (xs.dropWhile p)
      have hhead := head?_dropWhile p xs
      rw [← hrest, List.head?_append, Option.mem_def.1 hx] at hhead
      simpa using hhead
  · rintro ⟨⟨before, after, rfl, hblank⟩, hhead, hlast⟩
    obtain ⟨hbefore, hafter⟩ := List.forall_mem_append.1 hblank
    rcases core with _ | ⟨c, cs⟩
    · rw [List.append_nil, List.dropWhile_eq_nil_iff.2 hblank]
      rfl
    · rw [List.append_assoc, dropWhile_append hbefore (by simpa using hhead c rfl),
        stripRight_append (List.cons_ne_nil c cs) hlast, stripRight_of_all hafter, List.append_nil]

theorem stripBoth_subset (p : α → Bool) (xs : List α) : stripBoth p xs ⊆ xs := fun x hx => by
  obtain ⟨before, after, hxs, -⟩ := (stripBoth_eq_iff.1 (rfl : stripBoth p xs = _)).around
  rw [hxs]
  exact List.mem_append_left after (List.mem_append_right before hx)

/-- A list and its core have the same members of the other kind. -/
theorem IsCore.countP_eq {p : α → Bool} {xs core : List α} (h : IsCore p xs core) :
    xs.countP (!p ·) = core.countP (!p ·) := by
  obtain ⟨before, after, rfl, hstripped⟩ := h.around
  obtain ⟨hbefore, hafter⟩ := List.forall_mem_append.1 hstripped
  have hnone : ∀ {ys : List α}, (∀ y ∈ ys, p y = true) → ys.countP (!p ·) = 0 := fun hys =>
    List.countP_eq_zero.2 fun y hy => by simp [hys y hy]
  rw [List.countP_append, List.countP_append, hnone hbefore, hnone hafter, Nat.zero_add, Nat.add_zero]

/-! ## Runs between separators -/

theorem splitAll_ne_nil (p : α → Bool) : ∀ xs : List α, splitAll p xs ≠ []
  | [] => List.cons_ne_nil _ _
  | x :: xs => by
    unfold splitAll
    split
    · exact List.cons_ne_nil _ _
    · split
      · exact List.cons_ne_nil _ _
      · exact List.cons_ne_nil _ _

/-- The runs have no separators, and all their members are those of the list. -/
theorem mem_splitAll {p : α → Bool} : ∀ {xs s : List α}, s ∈ splitAll p xs → ∀ x ∈ s, p x = false ∧ x ∈ xs
  | [], s, hs, x, hx => by
    rw [splitAll, List.mem_singleton] at hs
    subst hs
    cases hx
  | y :: ys, s, hs, x, hx => by
    have later : ∀ {t}, t ∈ splitAll p ys → ∀ z ∈ t, p z = false ∧ z ∈ y :: ys := fun ht z hz =>
      (mem_splitAll ht z hz).imp_right (List.mem_cons_of_mem y)
    unfold splitAll at hs
    split at hs
    · rcases List.mem_cons.1 hs with rfl | hs
      · cases hx
      · exact later hs x hx
    · rename_i hy
      have hy : p y = false := by simpa using hy
      split at hs
      · rw [List.mem_singleton] at hs
        subst hs
        rw [List.mem_singleton] at hx
        subst hx
        exact ⟨hy, List.mem_cons_self⟩
      · rename_i t ts hsplit
        rcases List.mem_cons.1 hs with rfl | hs
        · rcases List.mem_cons.1 hx with rfl | hx
          · exact ⟨hy, List.mem_cons_self⟩
          · exact later (hsplit ▸ List.mem_cons_self) x hx
        · exact later (hsplit ▸ List.mem_cons_of_mem t hs) x hx

theorem splitAll_of_none {p : α → Bool} : ∀ {xs : List α}, (∀ x ∈ xs, p x = false) → splitAll p xs = [xs]
  | [], _ => rfl
  | x :: xs, h => by
    rw [splitAll, if_neg (by simp [h x List.mem_cons_self]),
      splitAll_of_none fun z hz => h z (List.mem_cons_of_mem x hz)]

theorem splitAll_congr {p q : α → Bool} : ∀ {xs : List α}, (∀ x ∈ xs, p x = q x) → splitAll p xs = splitAll q xs
  | [], _ => rfl
  | x :: xs, h => by
    rw [splitAll, splitAll, h x List.mem_cons_self, splitAll_congr fun y hy => h y (List.mem_cons_of_mem x hy)]

/-- A list and one behind a separator are cut each on its own. -/
theorem splitAll_behind {p : α → Bool} {a : α} (ha : p a = true) (ys : List α) : ∀ xs : List α,
    splitAll p (xs ++ a :: ys) = splitAll p xs ++ splitAll p ys
  | [] => if_pos ha
  | x :: xs => by
    rw [List.cons_append, splitAll, splitAll, splitAll_behind ha ys xs]
    rcases hsplit : splitAll p xs with _ | ⟨s, ss⟩
    · exact absurd hsplit (splitAll_ne_nil p xs)
    · split <;> rfl

theorem splitAll_append {p : α → Bool} {a : α} (ha : p a = true) {xs : List α} (ys : List α)
    (h : ∀ x ∈ xs, p x = false) : splitAll p (xs ++ a :: ys) = xs :: splitAll p ys := by
  rw [splitAll_behind ha, splitAll_of_none h]
  rfl

/-- What holds no separator goes to the first run of what is behind it. -/
theorem splitAll_of_none_append {p : α → Bool} {ys s : List α} {ss : List (List α)} (hys : splitAll p ys = s :: ss) :
    ∀ {xs : List α}, (∀ x ∈ xs, p x = false) → splitAll p (xs ++ ys) = (xs ++ s) :: ss
  | [], _ => hys
  | x :: xs, h => by
    rw [List.cons_append, splitAll, if_neg (by simp [h x List.mem_cons_self]),
      splitAll_of_none_append hys fun z hz => h z (List.mem_cons_of_mem x hz)]
    rfl

/-- **Runs are rewritten one by one** when each separator stays as it is and nothing else is turned into one. -/
theorem splitAll_flatMap {p : α → Bool} {f : α → List α} (hkept : ∀ x, p x = true → f x = [x])
    (hfree : ∀ x, p x = false → ∀ y ∈ f x, p y = false) : ∀ xs : List α,
    splitAll p (xs.flatMap f) = (splitAll p xs).map (·.flatMap f)
  | [] => rfl
  | x :: xs => by
    have ih := splitAll_flatMap hkept hfree xs
    rw [List.flatMap_cons, splitAll]
    rcases hx : p x with _ | _
    · rcases hsplit : splitAll p xs with _ | ⟨s, ss⟩
      · exact absurd hsplit (splitAll_ne_nil p xs)
      · rw [hsplit] at ih
        exact splitAll_of_none_append ih (hfree x hx)
    · rw [hkept x hx, List.singleton_append, splitAll, if_pos hx, ih]
      rfl

/-- **Runs that were joined are cut again.** -/
theorem splitAll_intercalate {p : α → Bool} {a : α} (ha : p a = true) : ∀ {ss : List (List α)}, ss ≠ [] →
    (∀ s ∈ ss, ∀ x ∈ s, p x = false) → splitAll p ([a].intercalate ss) = ss
  | [], h, _ => absurd rfl h
  | [s], _, h => by
    rw [List.intercalate_singleton, splitAll_of_none (h s List.mem_cons_self)]
  | s :: t :: ss, _, h => by
    rw [List.intercalate_cons_cons, List.append_assoc, List.singleton_append,
      splitAll_append ha _ (h s List.mem_cons_self),
      splitAll_intercalate ha (List.cons_ne_nil t ss) fun r hr => h r (List.mem_cons_of_mem s hr)]

theorem mem_intercalate {a x : α} : ∀ {ss : List (List α)}, x ∈ [a].intercalate ss → x = a ∨ ∃ s ∈ ss, x ∈ s
  | [], h => by cases h
  | [s], h => .inr ⟨s, List.mem_cons_self, by rwa [List.intercalate_singleton] at h⟩
  | s :: t :: ss, h => by
    rw [List.intercalate_cons_cons, List.append_assoc, List.singleton_append] at h
    rcases List.mem_append.1 h with h | h
    · exact .inr ⟨s, List.mem_cons_self, h⟩
    · rcases List.mem_cons.1 h with h | h
      · exact .inl h
      · exact (mem_intercalate h).imp_right fun ⟨r, hr, hx⟩ => ⟨r, List.mem_cons_of_mem s hr, hx⟩

/-- **Joining the runs of a list gives the list back.** -/
theorem intercalate_splitAll [BEq α] [LawfulBEq α] (a : α) : ∀ xs : List α,
    [a].intercalate (splitAll (· == a) xs) = xs
  | [] => rfl
  | x :: xs => by
    have ih := intercalate_splitAll a xs
    rw [splitAll]
    rcases hss : splitAll (· == a) xs with _ | ⟨s, ss⟩
    · exact absurd hss (splitAll_ne_nil _ xs)
    rw [hss] at ih
    rcases hx : x == a with _ | _
    · rw [if_neg (by simp)]
      rcases ss with _ | ⟨t, ts⟩
      · rw [List.intercalate_singleton] at ih ⊢
        rw [ih]
      · rw [List.intercalate_cons_cons] at ih ⊢
        rw [List.cons_append, List.cons_append, ih]
    · rw [if_pos rfl, List.intercalate_cons_cons, ih, eq_of_beq hx]
      rfl

/-! ## Each member -/

/-- A list is read when each of its members is. -/
theorem mapM_eq_some {β : Type} {f : α → Option β} {g : α → β} : ∀ {xs : List α}, (∀ x ∈ xs, f x = some (g x)) →
    xs.mapM f = some (xs.map g)
  | [], _ => rfl
  | x :: xs, h => by
    obtain ⟨hx, hxs⟩ := List.forall_mem_cons.1 h
    rw [List.mapM_cons, hx, mapM_eq_some hxs]
    rfl

end Text
end Hypermedia
