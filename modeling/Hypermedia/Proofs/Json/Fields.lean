import Hypermedia.Json.Decode
import Hypermedia.Json.Read
import Mathlib.Data.List.Forall2
/-!
# Fields of objects and members of arrays

Taking a field out of an object leaves the other fields there, and gives back what was put at the end.  In a value that
was read no object has two fields of one key (`Json.Distinct`, `distinct_of_parse?`).  An array is decoded just when
each of its members is (`Decoder.each_eq_ok_iff`).
-/
namespace Hypermedia
namespace Json

namespace Fields

variable {fs : Fields} {key k : String} {v : Json}

@[simp] theorem keys_nil : keys [] = [] := rfl

@[simp] theorem keys_cons (f : String × Json) (fs : Fields) : keys (f :: fs) = f.1 :: keys fs := rfl

@[simp] theorem keys_append (fs gs : Fields) : keys (fs ++ gs) = keys fs ++ keys gs := List.map_append

/-! ## Writing -/

theorem put_of_not_mem (v : Json) : ∀ {fs : Fields}, key ∉ keys fs → put fs key v = fs ++ [(key, v)]
  | [], _ => rfl
  | (k, w) :: fs, h => by
    have hk : k ≠ key := fun he => h (he ▸ List.mem_cons_self)
    rw [put, if_neg (by simpa using hk), put_of_not_mem v fun hm => h (List.mem_cons_of_mem k hm), List.cons_append]

theorem keys_put_of_mem (v : Json) : ∀ {fs : Fields}, key ∈ keys fs → keys (put fs key v) = keys fs
  | [], h => by cases h
  | (k, w) :: fs, h => by
    rw [put]
    rcases hk : k == key with _ | _
    · have hkey : key ∈ keys fs := (List.mem_cons.1 h).resolve_left (Ne.symm (ne_of_beq_false hk))
      rw [if_neg (by simp), keys_cons, keys_put_of_mem v hkey, keys_cons]
    · rfl

theorem nodup_put (v : Json) (h : (keys fs).Nodup) : (keys (put fs key v)).Nodup := by
  by_cases hkey : key ∈ keys fs
  · rw [keys_put_of_mem v hkey]
    exact h
  · rw [put_of_not_mem v hkey, keys_append]
    exact List.nodup_append.2 ⟨h, by simp, fun k hk k' hk' he => hkey (by simp_all)⟩

theorem mem_put {f : String × Json} : ∀ {fs : Fields}, f ∈ put fs key v → f.2 = v ∨ f ∈ fs
  | [], h => .inl (by rw [List.mem_singleton.1 h])
  | (k, w) :: fs, h => by
    rw [put] at h
    split at h
    · rcases List.mem_cons.1 h with rfl | h
      · exact .inl rfl
      · exact .inr (List.mem_cons_of_mem _ h)
    · rcases List.mem_cons.1 h with rfl | h
      · exact .inr List.mem_cons_self
      · exact (mem_put h).imp_right (List.mem_cons_of_mem _)

theorem find?_put_self (v : Json) : ∀ fs : Fields, find? (put fs key v) key = some v
  | [] => by rw [put, find?, if_pos (beq_self_eq_true key)]
  | (k, w) :: fs => by
    rw [put]
    rcases hk : k == key with _ | _
    · rw [if_neg (by simp), find?, hk, if_neg (by simp), find?_put_self v fs]
    · rw [if_pos rfl, find?, hk, if_pos rfl]

/-- **Writing a field leaves the others as they are.** -/
theorem find?_put_of_ne (v : Json) (h : k ≠ key) : ∀ fs : Fields, find? (put fs key v) k = find? fs k
  | [] => by simp [put, find?, h.symm]
  | (k', w) :: fs => by
    rw [put]
    rcases hk : k' == key with _ | _
    · rw [if_neg (by simp), find?, find?, find?_put_of_ne v h fs]
    · have hne : k' ≠ k := fun he => h (he ▸ eq_of_beq hk)
      rw [if_pos rfl, find?, if_neg (by simpa using hne), find?, if_neg (by simpa using hne)]

/-! ## Taking out -/

theorem extract_of_not_mem : ∀ {fs : Fields}, key ∉ keys fs → extract fs key = (none, fs)
  | [], _ => rfl
  | (k, w) :: fs, h => by
    have hk : k ≠ key := fun he => h (he ▸ List.mem_cons_self)
    rw [extract, if_neg (by simpa using hk), extract_of_not_mem fun hm => h (List.mem_cons_of_mem k hm)]

/-- **What was put at the end is taken out there.** -/
theorem extract_append (v : Json) : ∀ {fs : Fields}, key ∉ keys fs → extract (fs ++ [(key, v)]) key = (some v, fs)
  | [], _ => by
    rw [List.nil_append, extract, if_pos (beq_self_eq_true key)]
    rfl
  | (k, w) :: fs, h => by
    have hk : k ≠ key := fun he => h (he ▸ List.mem_cons_self)
    rw [List.cons_append, extract, if_neg (by simpa using hk), extract_append v fun hm => h (List.mem_cons_of_mem k hm)]

theorem lastToFront_perm (fs : Fields) : (lastToFront fs).Perm fs := by
  unfold lastToFront
  rcases List.eq_nil_or_concat fs with rfl | ⟨gs, f, rfl⟩
  · exact List.Perm.refl _
  · rw [List.concat_eq_append, List.getLast?_concat, List.dropLast_concat]
    exact (List.perm_append_singleton f gs).symm

/-- What is left has all other fields, in whatever order. -/
theorem extract_perm : ∀ {fs : Fields}, (keys fs).Nodup →
    (extract fs key).2.Perm (fs.filter fun f => f.1 != key)
  | [], _ => List.Perm.refl _
  | (k, w) :: fs, h => by
    obtain ⟨hk, hfs⟩ := List.nodup_cons.1 h
    rw [extract]
    rcases hkey : k == key with _ | _
    · rw [if_neg (by simp), List.filter_cons_of_pos (by simpa using hkey)]
      exact (extract_perm hfs).cons _
    · rw [if_pos rfl, List.filter_cons_of_neg (by simpa using hkey)]
      have hall : fs.filter (fun f => f.1 != key) = fs := by
        rw [List.filter_eq_self]
        intro f hf
        have hmem : f.1 ∈ keys fs := List.mem_map_of_mem hf
        have hne : f.1 ≠ key := fun he => hk (by rw [eq_of_beq hkey, ← he]; exact hmem)
        simpa using hne
      rw [hall]
      exact lastToFront_perm fs

theorem keys_extract (h : (keys fs).Nodup) : (keys (extract fs key).2).Perm ((keys fs).filter (· != key)) := by
  have hperm : (keys (extract fs key).2).Perm ((fs.filter fun f => f.1 != key).map Prod.fst) := (extract_perm h).map _
  have hfilter : (fs.filter fun f => f.1 != key).map Prod.fst = (keys fs).filter (· != key) := by
    rw [keys, List.filter_map]
    rfl
  rw [hfilter] at hperm
  exact hperm

/-- A field that was taken out is gone. -/
theorem not_mem_extract (h : (keys fs).Nodup) : key ∉ keys (extract fs key).2 := by
  intro hmem
  have hfilter := (keys_extract h).mem_iff.1 hmem
  simp at hfilter

theorem mem_of_mem_extract (h : (keys fs).Nodup) (hk : k ∈ keys (extract fs key).2) : k ∈ keys fs :=
  (List.mem_filter.1 ((keys_extract h).mem_iff.1 hk)).1

theorem nodup_extract (h : (keys fs).Nodup) : (keys (extract fs key).2).Nodup :=
  (keys_extract h).nodup_iff.2 (h.filter _)

theorem mem_of_extract : ∀ {fs : Fields}, (extract fs key).1 = some v → (key, v) ∈ fs
  | [], h => by cases h
  | (k, w) :: fs, h => by
    rw [extract] at h
    rcases hk : k == key with _ | _
    · rw [hk, if_neg (by simp)] at h
      exact List.mem_cons_of_mem _ (mem_of_extract h)
    · rw [hk, if_pos rfl] at h
      cases h
      rw [eq_of_beq hk]
      exact List.mem_cons_self

/-! ## Looking up -/

theorem fst_extract : ∀ fs : Fields, (extract fs key).1 = find? fs key
  | [] => rfl
  | (k, w) :: fs => by
    rw [extract, find?]
    split
    · rfl
    · exact fst_extract fs

theorem find?_eq_some_iff : ∀ {fs : Fields}, (keys fs).Nodup → (find? fs k = some v ↔ (k, v) ∈ fs)
  | [], _ => by simp [find?]
  | (k', w) :: fs, h => by
    obtain ⟨hk', hfs⟩ := List.nodup_cons.1 h
    rw [find?, List.mem_cons]
    by_cases hk : k' = k
    · subst hk
      have hother : (k', v) ∉ fs := fun hm => hk' (List.mem_map.2 ⟨(k', v), hm, rfl⟩)
      simp [hother, eq_comm]
    · rw [if_neg (by simpa using hk), find?_eq_some_iff hfs]
      simp [Ne.symm hk]

/-- **What is left has every other field as it was.** -/
theorem find?_extract (h : (keys fs).Nodup) :
    find? (extract fs key).2 k = if k = key then none else find? fs k := by
  refine Option.ext fun v => ?_
  rw [find?_eq_some_iff (nodup_extract h), (extract_perm h).mem_iff, List.mem_filter, ← find?_eq_some_iff h]
  by_cases hk : k = key
  · simp [hk]
  · simp [hk]

end Fields

/-! ## Members of arrays -/

theorem Decoder.each_eq_ok_iff {α : Type} {d : Decoder α} : ∀ {vs : List Json} {as : List α},
    each d vs = .ok as ↔ List.Forall₂ (fun v a => d v = .ok a) vs as
  | [], as => by
    rw [each, List.forall₂_nil_left_iff, Except.ok.injEq, eq_comm]
  | v :: vs, as => by
    rw [each, List.forall₂_cons_left_iff]
    constructor
    · intro h
      rcases hv : d v with e | a
      · rw [hv] at h; cases h
      rcases hvs : each d vs with e | rest
      · simp only [hv, hvs, bind, Except.bind] at h; cases h
      · simp only [hv, hvs, bind, Except.bind] at h
        cases h
        exact ⟨a, rest, rfl, each_eq_ok_iff.1 hvs, rfl⟩
    · rintro ⟨a, rest, hv, hrest, rfl⟩
      rw [hv, each_eq_ok_iff.2 hrest]
      rfl

theorem Decoder.mem_of_each {α : Type} {d : Decoder α} {vs : List Json} {as : List α} (h : each d vs = .ok as) {a : α}
    (ha : a ∈ as) : ∃ v ∈ vs, d v = .ok a := by
  replace h := each_eq_ok_iff.1 h
  induction h with
  | nil => cases ha
  | cons hv _ ih =>
    rcases List.mem_cons.1 ha with rfl | ha
    · exact ⟨_, List.mem_cons_self, hv⟩
    · obtain ⟨v, hvs, hv⟩ := ih ha
      exact ⟨v, List.mem_cons_of_mem _ hvs, hv⟩

/-- An array of which a member cannot be decoded is not decoded; the first such member says why. -/
theorem Decoder.each_append_of_error {α : Type} {d : Decoder α} {v : Json} {e : DecodeError} (h : d v = .error e)
    (behind : List Json) : ∀ {before : List Json}, (∀ w ∈ before, ∃ a, d w = .ok a) →
      each d (before ++ v :: behind) = .error e
  | [], _ => by
    rw [List.nil_append, each, h]
    rfl
  | w :: before, hbefore => by
    obtain ⟨a, ha⟩ := hbefore w List.mem_cons_self
    rw [List.cons_append, each, ha, each_append_of_error h behind fun x hx => hbefore x (List.mem_cons_of_mem w hx)]
    rfl

/-! ## Values -/

/-- **A value of which no object has two fields of one key.** -/
inductive Distinct : Json → Prop
  | null : Distinct .null
  | bool (b : Bool) : Distinct (.bool b)
  | number (n : Number.Value) : Distinct (.number n)
  | text (s : String) : Distinct (.text s)
  | array {items : List Json} : (∀ v ∈ items, Distinct v) → Distinct (.array items)
  | object {fields : Fields} : (Fields.keys fields).Nodup → (∀ f ∈ fields, Distinct f.2) → Distinct (.object fields)

/-- Fields that were read so far. -/
structure Fields.Distinct (fs : Fields) : Prop where
  keys : (Fields.keys fs).Nodup
  values : ∀ f ∈ fs, Json.Distinct f.2

mutual

theorem distinct_toJson? : ∀ (depth : Nat) (t : Tree) {v : Json}, t.toJson? depth = some v → v.Distinct
  | _, .null, _, h => by cases h; exact .null
  | _, .bool b, _, h => by cases h; exact .bool b
  | _, .number n, _, h => by
    obtain ⟨m, -, rfl⟩ := Option.map_eq_some_iff.1 h
    exact .number m
  | _, .text s, _, h => by
    obtain ⟨s, -, rfl⟩ := Option.map_eq_some_iff.1 h
    exact .text s
  | 0, .array _, _, h => by cases h
  | depth + 1, .array items, _, h => by
    obtain ⟨vs, hvs, rfl⟩ := Option.map_eq_some_iff.1 h
    exact .array (distinct_itemsToJson? depth items hvs)
  | 0, .object _, _, h => by cases h
  | depth + 1, .object fields, _, h => by
    obtain ⟨fs, hfs, rfl⟩ := Option.map_eq_some_iff.1 h
    have hnone : Fields.Distinct [] := ⟨List.nodup_nil, fun _ hf => by cases hf⟩
    have hdistinct := distinct_fieldsToJson? depth fields hnone hfs
    exact .object hdistinct.keys hdistinct.values

theorem distinct_itemsToJson? : ∀ (depth : Nat) (ts : List Tree) {vs : List Json},
    Tree.itemsToJson? depth ts = some vs → ∀ v ∈ vs, v.Distinct
  | _, [], _, h, v, hv => by
    cases h
    cases hv
  | depth, t :: ts, _, h, v, hv => by
    obtain ⟨w, hw, h⟩ := Option.bind_eq_some_iff.1 h
    obtain ⟨ws, hws, rfl⟩ := Option.map_eq_some_iff.1 h
    rcases List.mem_cons.1 hv with rfl | hv
    · exact distinct_toJson? depth t hw
    · exact distinct_itemsToJson? depth ts hws v hv

theorem distinct_fieldsToJson? : ∀ (depth : Nat) (ts : List (Option String × Tree)) {read fs : Fields},
    read.Distinct → Tree.fieldsToJson? depth read ts = some fs → fs.Distinct
  | _, [], _, _, hread, h => by
    cases h
    exact hread
  | depth, (k, t) :: ts, read, _, hread, h => by
    obtain ⟨key, -, h⟩ := Option.bind_eq_some_iff.1 h
    obtain ⟨w, hw, h⟩ := Option.bind_eq_some_iff.1 h
    have hput : (Fields.put read key w).Distinct := by
      refine ⟨Fields.nodup_put w hread.keys, fun f hf => ?_⟩
      rcases Fields.mem_put hf with heq | hf
      · rw [heq]
        exact distinct_toJson? depth t hw
      · exact hread.values f hf
    exact distinct_fieldsToJson? depth ts hput h

end

/-- **Whatever text is read, no object in the value has two fields of one key.** -/
theorem distinct_of_parse? {s : String} {v : Json} (h : parse? s = some v) : v.Distinct := by
  obtain ⟨t, -, ht⟩ := Option.bind_eq_some_iff.1 h
  exact distinct_toJson? nestingLimit t ht

end Json
end Hypermedia
