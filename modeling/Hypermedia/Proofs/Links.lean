import Hypermedia.Proofs.Json.Fields
import Hypermedia.Proofs.Text.Distinct
import Hypermedia.Resource
import Mathlib.Data.List.Basic
/-!
# Links that are written and read

The entry for links is written link by link, each of them behind those of its relation (`Links.toDocument_eq_foldl`).
What is read from it are the links grouped by relation, in the order in which the relations come first and otherwise
unchanged (`Links.StableGrouping`); only a second link to the resource itself is refused (`Links.read_back`).  The links
of a document that was read are grouped already (`Links.Canonical`), so they come back as they are.
-/
namespace Hypermedia

open Json (Fields)

namespace Links

/-! ## Links by relation -/

/-- **Links that are grouped by relation**: a relation that occurs again occurs at once. -/
def Grouped : Links → Prop
  | [] => True
  | l :: ls => (l.relation ∈ ls.map (·.relation) → ls.head?.map (·.relation) = some l.relation) ∧ Grouped ls

instance decidableGrouped : (ls : Links) → Decidable ls.Grouped
  | [] => isTrue trivial
  | l :: ls =>
    have := decidableGrouped ls
    inferInstanceAs (Decidable
      ((l.relation ∈ ls.map (·.relation) → ls.head?.map (·.relation) = some l.relation) ∧ Grouped ls))

/-- Links of one relation. -/
def AllOf (relation : String) (ls : Links) : Prop := ∀ l ∈ ls, l.relation = relation

/-- **Links that a document can hold**: grouped by relation, and with one link to the resource itself at most. -/
structure Canonical (ls : Links) : Prop where
  grouped : ls.Grouped
  self : (ls.filter (·.relation == selfRelation)).length ≤ 1

variable {ls ms : Links} {relation : String}

theorem relations_cons (l : Link) (ls : Links) :
    relations (l :: ls) = l.relation :: relations (ls.filter (·.relation != l.relation)) := by
  unfold relations
  rw [List.map_cons, List.eraseDups_cons, List.filter_map]
  rfl

theorem mem_relations {r : String} : r ∈ relations ls ↔ ∃ l ∈ ls, l.relation = r := by
  unfold relations
  rw [List.mem_eraseDups, List.mem_map]

theorem not_mem_relations_rest (l : Link) (ls : Links) :
    l.relation ∉ relations (ls.filter (·.relation != l.relation)) := by
  intro hm
  obtain ⟨m, hm, hrel⟩ := mem_relations.1 hm
  simp [hrel] at hm

theorem nodup_relations (ls : Links) : (relations ls).Nodup := Text.nodup_eraseDups _

/-- **Grouped links are those of the first relation, then those of the second, and so on.** -/
theorem flatMap_relations : ∀ {ls : Links}, ls.Grouped →
    (relations ls).flatMap (fun r => ls.filter (·.relation == r)) = ls
  | [], _ => rfl
  | l :: ls, h => by
    obtain ⟨hl, hls⟩ := h
    have ih := flatMap_relations hls
    -- the other relations hold the same links as without the first link
    have hrest : ∀ {R : List String}, l.relation ∉ R →
        R.flatMap (fun r => (l :: ls).filter (·.relation == r)) = R.flatMap (fun r => ls.filter (·.relation == r)) := by
      intro R hR
      refine List.flatMap_congr fun r hr => ?_
      have hne : l.relation ≠ r := fun he => hR (he ▸ hr)
      rw [List.filter_cons_of_neg (by simpa using hne)]
    rw [relations_cons, List.flatMap_cons, hrest (not_mem_relations_rest l ls), List.filter_cons_of_pos (by simp),
      List.cons_append]
    congr 1
    rcases ls with _ | ⟨l', ls⟩
    · rfl
    by_cases hmem : l.relation ∈ (l' :: ls).map (·.relation)
    · have hfirst : l'.relation = l.relation := Option.some.inj (hl hmem)
      rw [relations_cons, List.flatMap_cons, hfirst] at ih
      have hfilter : (l' :: ls).filter (·.relation != l.relation) = ls.filter (·.relation != l.relation) := by
        rw [List.filter_cons, if_neg (by simp [hfirst])]
      rw [hfilter]
      exact ih
    · have hnone : ∀ m ∈ l' :: ls, m.relation ≠ l.relation := fun m hm he => hmem (List.mem_map.2 ⟨m, hm, he⟩)
      have hfilter : (l' :: ls).filter (·.relation == l.relation) = [] := by
        rw [List.filter_eq_nil_iff]
        intro m hm
        simpa using hnone m hm
      have hfilter' : (l' :: ls).filter (·.relation != l.relation) = l' :: ls := by
        rw [List.filter_eq_self]
        intro m hm
        simpa using hnone m hm
      rw [hfilter, hfilter', List.nil_append]
      exact ih

theorem grouped_append (hms : AllOf relation ms) (hls : ls.Grouped) (hfresh : ∀ l ∈ ls, l.relation ≠ relation) :
    Grouped (ms ++ ls) := by
  induction ms with
  | nil => exact hls
  | cons m ms ih =>
    refine ⟨fun hmem => ?_, ih fun l hl => hms l (List.mem_cons_of_mem m hl)⟩
    have hm : m.relation = relation := hms m List.mem_cons_self
    rcases ms with _ | ⟨m', ms⟩
    · obtain ⟨l, hl, hrel⟩ := List.mem_map.1 hmem
      exact absurd (hrel.trans hm) (hfresh l hl)
    · have hm' : m'.relation = relation := hms m' (by simp)
      simp [hm, hm']

/-! ## Links that are written and read -/

/-- **A link is read from its member of the entry.** -/
theorem decode_toMember (l : Link) : (Link.memberDecoder l.relation).decode l.toMember = .ok l := by
  obtain ⟨relation, href, templated⟩ := l
  cases templated <;> rfl

theorem distinct_toMember : ∀ l : Link, l.toMember.Distinct
  | ⟨_, href, false⟩ => .object (by simp) fun _ hf => List.mem_singleton.1 hf ▸ .text href
  | ⟨_, href, true⟩ => .object (by simp) fun f hf => by
    rcases List.mem_cons.1 hf with rfl | hf
    · exact .text href
    · exact List.mem_singleton.1 hf ▸ .bool true

theorem ofEntry_toEntry (h : AllOf relation ls) : ofEntry relation (toEntry ls) = .ok ls := by
  have hone : ∀ l ∈ ls, (Link.memberDecoder relation).decode l.toMember = .ok l :=
    fun l hl => h l hl ▸ decode_toMember l
  have heach : Json.Decoder.each (Link.memberDecoder relation).decode (ls.map Link.toMember) = .ok ls := by
    rw [Json.Decoder.each_eq_ok_iff, List.forall₂_map_left_iff, List.forall₂_same]
    exact hone
  unfold toEntry
  split
  · rename_i l
    have hl := hone l List.mem_cons_self
    unfold Link.toMember at hl ⊢
    rw [ofEntry, hl]
    · rfl
    · rintro items hitems
      cases hitems
  · rw [ofEntry, heach]
    rfl

theorem ofFields_cons {v : Json} {fs : Fields} (hentry : ofEntry relation v = .ok ms)
    (hself : relation = selfRelation → ms.length ≤ 1) (hrest : ofFields fs = .ok ls) :
    ofFields ((relation, v) :: fs) = .ok (ms ++ ls) := by
  have hfew : (relation == selfRelation && decide (1 < ms.length)) = false := by
    rw [Bool.and_eq_false_iff, beq_eq_false_iff_ne, decide_eq_false_iff_not]
    by_cases hr : relation = selfRelation
    · exact .inr (Nat.not_lt.2 (hself hr))
    · exact .inl hr
  unfold ofFields
  simp only [hentry, bind, Except.bind, hfew, hrest]
  rfl

theorem ofFields_ok {v : Json} {fs : Fields} (h : ofFields ((relation, v) :: fs) = .ok ls) :
    ∃ ms rest, ofEntry relation v = .ok ms ∧ (relation = selfRelation → ms.length ≤ 1) ∧ ofFields fs = .ok rest ∧
      ls = ms ++ rest := by
  unfold ofFields at h
  rcases hentry : ofEntry relation v with e | ms
  · rw [hentry] at h
    cases h
  simp only [hentry, bind, Except.bind] at h
  rcases hmany : relation == selfRelation && decide (1 < ms.length) with _ | _
  · rcases hrest : ofFields fs with e | rest
    · simp only [hmany, hrest] at h
      cases h
    · simp only [hmany, hrest] at h
      cases h
      refine ⟨ms, rest, rfl, fun hr => ?_, rfl, rfl⟩
      rw [hr, beq_self_eq_true, Bool.true_and, decide_eq_false_iff_not] at hmany
      exact Nat.not_lt.1 hmany
  · simp only [hmany] at h
    cases h

theorem allOf_filter (ls : Links) (r : String) : AllOf r (ls.filter (·.relation == r)) := fun l hl => by
  simpa using (List.mem_filter.1 hl).2

/-- How many links lead to the resource itself. -/
def selfCount (ls : Links) : Nat := (ls.filter (·.relation == selfRelation)).length

/-- **The entry that is written for links is read relation by relation**, unless there are several links to the resource
itself. -/
theorem ofDocument_toDocument_of_few (few : ls.selfCount ≤ 1) :
    ofDocument (toDocument ls) = .ok ((relations ls).flatMap fun r => ls.filter (·.relation == r)) := by
  have hentries : ∀ R : List String,
      ofFields (R.map fun r => (r, toEntry (ls.filter (·.relation == r)))) =
        .ok (R.flatMap fun r => ls.filter (·.relation == r)) := by
    intro R
    induction R with
    | nil => rfl
    | cons r R ih =>
      refine ofFields_cons (ofEntry_toEntry (allOf_filter ls r)) ?_ ih
      rintro rfl
      exact few
  exact hentries (relations ls)

/-- **Links that a document can hold are read from the entry that is written for them.** -/
theorem ofDocument_toDocument (h : ls.Canonical) : ofDocument (toDocument ls) = .ok ls := by
  rw [ofDocument_toDocument_of_few h.self, flatMap_relations h.grouped]

/-- The links of an entry are those of its relation. -/
theorem allOf_ofEntry {v : Json} (h : ofEntry relation v = .ok ls) : AllOf relation ls := by
  have hread : ∀ {v : Json} {l : Link}, (Link.memberDecoder relation).decode v = .ok l → l.relation = relation :=
    fun hv => Json.RecordDecoder.decode_keeps (Link.memberDecoder relation) (P := fun l => l.relation = relation) rfl
      (by
        intro fd hfd
        simp only [Link.memberDecoder, List.mem_cons, List.not_mem_nil, or_false] at hfd
        rcases hfd with rfl | rfl
        · exact Json.RecordDecoder.keeps_needed fun _ _ hl => hl
        · exact Json.RecordDecoder.keeps_defaulted fun _ _ hl => hl) hv
  unfold ofEntry at h
  split at h
  · rename_i items
    rcases hitems : Json.Decoder.each (Link.memberDecoder relation).decode items with e | ms
    · rw [hitems] at h; cases h
    · rw [hitems] at h
      cases h
      intro l hl
      obtain ⟨v, -, hv⟩ := Json.Decoder.mem_of_each hitems hl
      exact hread hv
  · rcases hv : (Link.memberDecoder relation).decode v with e | l
    · rw [hv] at h; cases h
    · rw [hv] at h
      cases h
      exact fun l' hl' => List.mem_singleton.1 hl' ▸ hread hv

theorem canonical_nil : Canonical [] := ⟨trivial, Nat.zero_le 1⟩

/-- **The links that an object of distinct relations holds** are ones that a document can hold, of these relations. -/
theorem canonical_ofFields : ∀ {fs : Fields} {ls : Links}, (Fields.keys fs).Nodup → ofFields fs = .ok ls →
    ls.Canonical ∧ ∀ l ∈ ls, l.relation ∈ Fields.keys fs
  | [], _, _, h => by
    cases h
    exact ⟨canonical_nil, fun _ hl => by cases hl⟩
  | (relation, v) :: fs, ls, hdistinct, h => by
    obtain ⟨hrelation, hfs⟩ := List.nodup_cons.1 hdistinct
    obtain ⟨ms, rest, hentry, hfew, hrest, rfl⟩ := ofFields_ok h
    obtain ⟨hcanonical, hkeys⟩ := canonical_ofFields hfs hrest
    have hms := allOf_ofEntry hentry
    have hfresh : ∀ l ∈ rest, l.relation ≠ relation := fun l hl he => hrelation (he ▸ hkeys l hl)
    refine ⟨⟨grouped_append hms hcanonical.grouped hfresh, ?_⟩, fun l hl => ?_⟩
    · rw [List.filter_append, List.length_append]
      -- the links of the resource to itself are all in this entry or all in the others
      by_cases hr : relation = selfRelation
      · have hnone : rest.filter (·.relation == selfRelation) = [] := by
          rw [List.filter_eq_nil_iff]
          intro l hl
          simpa [← hr] using hfresh l hl
        rw [hnone, List.length_nil, Nat.add_zero]
        exact Nat.le_trans (List.length_filter_le _ ms) (hfew hr)
      · have hnone : ms.filter (·.relation == selfRelation) = [] := by
          rw [List.filter_eq_nil_iff]
          intro l hl
          simpa [hms l hl] using hr
        rw [hnone, List.length_nil, Nat.zero_add]
        exact hcanonical.self
    · rcases List.mem_append.1 hl with hl | hl
      · rw [hms l hl]
        exact List.mem_cons_self
      · exact List.mem_cons_of_mem _ (hkeys l hl)

theorem canonical_ofDocument {v : Json} (distinct : v.Distinct) (h : ofDocument v = .ok ls) : ls.Canonical := by
  cases distinct with
  | object hkeys _ => exact (canonical_ofFields hkeys h).1
  | null =>
    cases h
    exact canonical_nil
  | bool _ => cases h
  | number _ => cases h
  | text _ => cases h
  | array _ => cases h

/-! ## Grouping -/

/-- **Links grouped by relation**: the relations come in the order in which they came first, and the links of each are
the same in the same order. -/
structure StableGrouping (ls ms : Links) : Prop where
  grouped : ms.Grouped
  relations : relations ms = relations ls
  links : ∀ r, ms.filter (·.relation == r) = ls.filter (·.relation == r)

/-- **There is one way only to group links.** -/
theorem StableGrouping.eq (h : StableGrouping ls ms) :
    ms = ls.relations.flatMap fun r => ls.filter (·.relation == r) := by
  rw [← flatMap_relations h.grouped, h.relations]
  exact List.flatMap_congr fun r _ => h.links r

theorem StableGrouping.get? (h : StableGrouping ls ms) (r : String) : ms.get? r = ls.get? r := by
  unfold Links.get?
  rw [← List.head?_filter, ← List.head?_filter, h.links]

theorem StableGrouping.refl (h : ls.Grouped) : StableGrouping ls ls := ⟨h, rfl, fun _ => rfl⟩

theorem filter_flatMap (ls : Links) (r : String) : ∀ {R : List String}, R.Nodup →
    (R.flatMap fun r' => ls.filter (·.relation == r')).filter (·.relation == r) =
      if r ∈ R then ls.filter (·.relation == r) else []
  | [], _ => rfl
  | r' :: R, h => by
    obtain ⟨hr', hR⟩ := List.nodup_cons.1 h
    rw [List.flatMap_cons, List.filter_append, filter_flatMap ls r hR]
    by_cases hr : r = r'
    · subst hr
      rw [if_neg hr', if_pos List.mem_cons_self, List.append_nil, List.filter_filter]
      simp only [Bool.and_self]
    · have hnone : (ls.filter (·.relation == r')).filter (·.relation == r) = [] := by
        rw [List.filter_eq_nil_iff]
        intro l hl
        rw [allOf_filter ls r' l hl]
        simpa using Ne.symm hr
      rw [hnone, List.nil_append]
      simp only [List.mem_cons, hr, false_or]

theorem relations_append (hms : AllOf relation ms) (hne : ms ≠ []) (hfresh : ∀ l ∈ ls, l.relation ≠ relation) :
    relations (ms ++ ls) = relation :: relations ls := by
  obtain ⟨m, ms, rfl⟩ := List.exists_cons_of_ne_nil hne
  have hm : m.relation = relation := hms m List.mem_cons_self
  have hnone : ms.filter (·.relation != relation) = [] := by
    rw [List.filter_eq_nil_iff]
    intro l hl
    simpa using hms l (List.mem_cons_of_mem m hl)
  have hall : ls.filter (·.relation != relation) = ls := by
    rw [List.filter_eq_self]
    intro l hl
    simpa using hfresh l hl
  rw [List.cons_append, relations_cons, hm, List.filter_append, hnone, hall, List.nil_append]

/-- The links of relations that occur, one relation behind the other. -/
theorem grouped_flatMap (ls : Links) : ∀ {R : List String}, R.Nodup → (∀ r ∈ R, r ∈ relations ls) →
    Grouped (R.flatMap fun r => ls.filter (·.relation == r)) ∧
      relations (R.flatMap fun r => ls.filter (·.relation == r)) = R
  | [], _, _ => ⟨trivial, rfl⟩
  | r :: R, h, hmem => by
    obtain ⟨hr, hR⟩ := List.nodup_cons.1 h
    obtain ⟨hgrouped, hrelations⟩ := grouped_flatMap ls hR fun r' hr' => hmem r' (List.mem_cons_of_mem r hr')
    have hall := allOf_filter ls r
    have hne : ls.filter (·.relation == r) ≠ [] := by
      obtain ⟨l, hl, hrel⟩ := mem_relations.1 (hmem r List.mem_cons_self)
      exact List.ne_nil_of_mem (List.mem_filter.2 ⟨hl, by simpa using hrel⟩)
    have hfresh : ∀ l ∈ R.flatMap fun r' => ls.filter (·.relation == r'), l.relation ≠ r := by
      intro l hl he
      obtain ⟨r', hr', hl⟩ := List.mem_flatMap.1 hl
      rw [allOf_filter ls r' l hl] at he
      exact hr (he ▸ hr')
    rw [List.flatMap_cons]
    exact ⟨grouped_append hall hgrouped hfresh, by rw [relations_append hall hne hfresh, hrelations]⟩

/-- **The links of all relations, one relation behind the other, are the links grouped.** -/
theorem stableGrouping_flatMap (ls : Links) :
    StableGrouping ls ((relations ls).flatMap fun r => ls.filter (·.relation == r)) := by
  obtain ⟨hgrouped, hrelations⟩ := grouped_flatMap ls (nodup_relations ls) fun _ h => h
  refine ⟨hgrouped, hrelations, fun r => ?_⟩
  rw [filter_flatMap ls r (nodup_relations ls)]
  by_cases hr : r ∈ relations ls
  · rw [if_pos hr]
  · rw [if_neg hr, eq_comm, List.filter_eq_nil_iff]
    exact fun l hl he => hr (mem_relations.2 ⟨l, hl, eq_of_beq he⟩)

/-! ## Several links to the resource itself -/

theorem ofFields_repeated {v : Json} {fs : Fields} (hentry : ofEntry selfRelation v = .ok ms) (hmany : 1 < ms.length) :
    ofFields ((selfRelation, v) :: fs) = .error (.protocol (.repeatedSelf ms.length)) := by
  unfold ofFields
  simp only [hentry, bind, Except.bind, beq_self_eq_true, Bool.true_and, decide_eq_true hmany]
  rfl

theorem ofFields_error {v : Json} {fs : Fields} {e : Failure} (hentry : ofEntry relation v = .ok ms)
    (hr : relation ≠ selfRelation) (hrest : ofFields fs = .error e) : ofFields ((relation, v) :: fs) = .error e := by
  unfold ofFields
  simp only [hentry, bind, Except.bind, beq_false_of_ne hr, Bool.false_and, hrest]
  rfl

/-- **An entry with several links to the resource itself is refused**, and their number is named. -/
theorem ofDocument_toDocument_of_many (many : 2 ≤ ls.selfCount) :
    ofDocument (toDocument ls) = .error (.protocol (.repeatedSelf ls.selfCount)) := by
  have hentries : ∀ {R : List String}, selfRelation ∈ R →
      ofFields (R.map fun r => (r, toEntry (ls.filter (·.relation == r)))) =
        .error (.protocol (.repeatedSelf ls.selfCount)) := by
    intro R hR
    induction R with
    | nil => cases hR
    | cons r R ih =>
      have hentry := ofEntry_toEntry (allOf_filter ls r)
      by_cases hr : r = selfRelation
      · subst hr
        exact ofFields_repeated hentry many
      · exact ofFields_error hentry hr (ih ((List.mem_cons.1 hR).resolve_left (Ne.symm hr)))
  obtain ⟨l, hl⟩ := List.exists_mem_of_length_pos (Nat.lt_of_lt_of_le Nat.zero_lt_two many)
  obtain ⟨hl, hself⟩ := List.mem_filter.1 hl
  exact hentries (mem_relations.2 ⟨l, hl, eq_of_beq hself⟩)

/-! ## Writing link by link -/

/-- A link's member of an entry, together with what was written for its relation before. -/
def addMember (v : Json) : Option Json → Json
  | none => v
  | some (.array items) => .array (items ++ [v])
  | some first => .array [first, v]

def enter (fs : Fields) (l : Link) : Fields :=
  Fields.put fs l.relation (addMember l.toMember (Fields.find? fs l.relation))

theorem addMember_toEntry (l : Link) (h : ls ≠ []) :
    addMember l.toMember (some (toEntry ls)) = toEntry (ls ++ [l]) := by
  rcases ls with _ | ⟨l₁, _ | ⟨l₂, ls⟩⟩
  · exact absurd rfl h
  · rfl
  · show Json.array _ = Json.array _
    rw [← List.map_singleton, ← List.map_append]
    rfl

theorem relations_concat (ls : Links) (l : Link) :
    relations (ls ++ [l]) = if l.relation ∈ relations ls then relations ls else relations ls ++ [l.relation] := by
  have hmem : l.relation ∈ relations ls ↔ l.relation ∈ ls.map (·.relation) := List.mem_eraseDups
  unfold relations at hmem ⊢
  rw [List.map_append, List.map_singleton]
  by_cases h : l.relation ∈ ls.map (·.relation)
  · rw [if_pos (hmem.2 h), Text.eraseDups_concat_of_mem h]
  · rw [if_neg fun h' => h (hmem.1 h'), Text.eraseDups_concat_of_not_mem h]

theorem find?_map (f : String → Json) (k : String) : ∀ R : List String,
    Fields.find? (R.map fun r => (r, f r)) k = if k ∈ R then some (f k) else none
  | [] => rfl
  | r :: R => by
    rw [List.map_cons, Fields.find?, find?_map f k R]
    by_cases hr : r = k
    · subst hr
      rw [if_pos (beq_self_eq_true r), if_pos List.mem_cons_self]
    · rw [if_neg (by simpa using hr)]
      simp only [List.mem_cons, Ne.symm hr, false_or]

theorem put_map (f : String → Json) (k : String) (v : Json) : ∀ {R : List String}, R.Nodup → k ∈ R →
    Fields.put (R.map fun r => (r, f r)) k v = R.map fun r => (r, if r = k then v else f r)
  | [], _, hk => by cases hk
  | r :: R, h, hk => by
    obtain ⟨hr, hR⟩ := List.nodup_cons.1 h
    rw [List.map_cons, List.map_cons, Fields.put]
    by_cases hrk : r = k
    · subst hrk
      rw [if_pos (beq_self_eq_true r), if_pos rfl]
      congr 1
      exact List.map_congr_left fun r' hr' => by rw [if_neg fun he : r' = r => hr (he ▸ hr')]
    · rw [if_neg (by simpa using hrk), if_neg hrk, put_map f k v hR ((List.mem_cons.1 hk).resolve_left (Ne.symm hrk))]

/-- One more link changes the entry of its relation, or comes behind all others. -/
theorem toDocument_concat (ls : Links) (l : Link) : ∀ {fs : Fields}, toDocument ls = .object fs →
    toDocument (ls ++ [l]) = .object (enter fs l) := by
  rintro fs h
  cases h
  have hother : ∀ r, r ≠ l.relation → (ls ++ [l]).filter (·.relation == r) = ls.filter (·.relation == r) := by
    intro r hr
    rw [List.filter_append, List.filter_cons_of_neg (by simpa using Ne.symm hr), List.filter_nil, List.append_nil]
  have hown : (ls ++ [l]).filter (·.relation == l.relation) = ls.filter (·.relation == l.relation) ++ [l] := by
    rw [List.filter_append, List.filter_cons_of_pos (by simp), List.filter_nil]
  unfold toDocument enter
  rw [relations_concat, find?_map]
  by_cases hknown : l.relation ∈ relations ls
  · have hne : ls.filter (·.relation == l.relation) ≠ [] := by
      obtain ⟨m, hm, hrel⟩ := mem_relations.1 hknown
      exact List.ne_nil_of_mem (List.mem_filter.2 ⟨hm, by simpa using hrel⟩)
    rw [if_pos hknown, if_pos hknown, put_map _ _ _ (nodup_relations ls) hknown, addMember_toEntry l hne]
    congr 1
    refine List.map_congr_left fun r _ => ?_
    by_cases hr : r = l.relation
    · rw [if_pos hr, hr, hown]
    · rw [if_neg hr, hother r hr]
  · have hnone : ls.filter (·.relation == l.relation) = [] := by
      rw [List.filter_eq_nil_iff]
      exact fun m hm he => hknown (mem_relations.2 ⟨m, hm, eq_of_beq he⟩)
    have hfresh : l.relation ∉ Fields.keys
      ((relations ls).map fun r => (r, toEntry (ls.filter (·.relation == r)))) := by
      unfold Fields.keys
      rw [List.map_map, List.mem_map]
      rintro ⟨r, hr, rfl⟩
      exact hknown hr
    rw [if_neg hknown, if_neg hknown, Fields.put_of_not_mem _ hfresh, List.map_append, List.map_singleton, hown, hnone]
    congr 2
    exact List.map_congr_left fun r hr => by rw [hother r fun he => hknown (he ▸ hr)]

/-- **The entry for links is written link by link.** -/
theorem toDocument_append : ∀ (ms : Links) {ls : Links} {fs : Fields}, toDocument ls = .object fs →
    toDocument (ls ++ ms) = .object (ms.foldl enter fs)
  | [], ls, fs, h => by rw [List.append_nil, h, List.foldl_nil]
  | m :: ms, ls, fs, h => by
    rw [List.append_cons, List.foldl_cons]
    exact toDocument_append ms (toDocument_concat ls m h)

theorem toDocument_eq_foldl (ls : Links) : toDocument ls = .object (ls.foldl enter []) := by
  have hnone : toDocument [] = .object [] := rfl
  exact toDocument_append ls hnone

/-! ## Reading what was written -/

/-- **The links that are read from what was written are the links grouped by relation.**  The entry is written link by
link.  It is refused just when two links or more lead to the resource itself, as a fault of the document that names
their number; otherwise the links come back with the relations in the order of their first links, those of each
relation unchanged and in their order, so that the first link of a relation is what it was.  Links that were read from a
document come back as they are. -/
theorem read_back (ls : Links) :
    let read := ofDocument (toDocument ls)
    toDocument ls = .object (ls.foldl enter []) ∧
    ((∃ fault, read = .error (.protocol fault)) ↔ 2 ≤ ls.selfCount) ∧
    (2 ≤ ls.selfCount → read = .error (.protocol (.repeatedSelf ls.selfCount))) ∧
    (¬ 2 ≤ ls.selfCount → ∃ ms, read = .ok ms ∧ StableGrouping ls ms ∧ ∀ r, ms.get? r = ls.get? r) ∧
    ∀ v : Json, v.Distinct → ofDocument v = .ok ls → read = .ok ls := by
  intro read
  have hfew : ¬ 2 ≤ ls.selfCount → ∃ ms, read = .ok ms ∧ StableGrouping ls ms := fun h =>
    ⟨_, ofDocument_toDocument_of_few (Nat.le_of_lt_succ (Nat.lt_of_not_le h)), stableGrouping_flatMap ls⟩
  refine ⟨toDocument_eq_foldl ls, ⟨fun ⟨fault, hread⟩ => ?_, fun h => ⟨_, ofDocument_toDocument_of_many h⟩⟩,
    ofDocument_toDocument_of_many, fun h => ?_, fun v distinct hv => ?_⟩
  · by_contra h
    obtain ⟨ms, hms, -⟩ := hfew h
    rw [hread] at hms
    cases hms
  · obtain ⟨ms, hms, hgrouping⟩ := hfew h
    exact ⟨ms, hms, hgrouping, hgrouping.get?⟩
  · have canonical := canonical_ofDocument distinct hv
    obtain ⟨ms, hms, hgrouping⟩ := hfew (Nat.not_le.2 (Nat.lt_succ_of_le canonical.self))
    rw [hms, hgrouping.eq, ← (StableGrouping.refl canonical.grouped).eq]

/-- Children on both sides of the link to the resource itself come together, a second such link is refused, and links
that were read from a list and a single link are read again. -/
theorem children_read_back :
    let self : Link := { relation := "self", href := "/parents/1" }
    let first : Link := { relation := "children", href := "/children/1" }
    let second : Link := { relation := "children", href := "/children/2{?view}", templated := true }
    let v : Json := .object [("children", .array [first.toMember, second.toMember]), ("self", self.toMember)]
    ¬ 2 ≤ Links.selfCount [first, self, second] ∧
      (∃ ms, ofDocument (toDocument [first, self, second]) = .ok ms ∧ ms = [first, second, self]) ∧
    2 ≤ Links.selfCount [self, first, self] ∧
      ofDocument (toDocument [self, first, self]) = .error (.protocol (.repeatedSelf 2)) ∧
    v.Distinct ∧ ofDocument v = .ok [first, second, self] ∧
      ofDocument (toDocument [first, second, self]) = .ok [first, second, self] := by
  intro self first second v
  have hfew : ¬ 2 ≤ Links.selfCount [first, self, second] := by decide
  have hmany : 2 ≤ Links.selfCount [self, first, self] := by decide
  have hdistinct : v.Distinct := by
    refine .object (by decide) fun f hf => ?_
    simp only [List.mem_cons, List.not_mem_nil, or_false] at hf
    rcases hf with rfl | rfl
    · refine .array fun w hw => ?_
      simp only [List.mem_cons, List.not_mem_nil, or_false] at hw
      rcases hw with rfl | rfl
      · exact distinct_toMember first
      · exact distinct_toMember second
    · exact distinct_toMember self
  have hv : ofDocument v = .ok [first, second, self] := rfl
  obtain ⟨-, -, -, hread, -⟩ := read_back [first, self, second]
  obtain ⟨-, -, hrefused, -⟩ := read_back [self, first, self]
  obtain ⟨-, -, -, -, hsame⟩ := read_back [first, second, self]
  obtain ⟨ms, hms, hgrouping, -⟩ := hread hfew
  exact ⟨hfew, ⟨ms, hms, hgrouping.eq.trans (by decide)⟩, hmany, hrefused hmany, hdistinct, hv, hsame v hdistinct hv⟩

end Links
end Hypermedia
