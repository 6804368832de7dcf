import Hypermedia.Family.Schema
import Hypermedia.Proofs.Text.Distinct
/-!
# What accessor tables hold

A table lists the names of its declarations, each once and in the order of the first declarations, and has the first
declaration of each name (`Lists`).  Every further declaration of a name was found to agree with the first one.  That
is enough for any two of them to agree, so that the order of the declarations does not decide whether there is a table
(`AccessorTable.one_accessor_per_name`).  A name that is not declared is found as a plain property.
-/
namespace Hypermedia

/-- A role with the target of its association told by kind. -/
def Role.told {κ : Type} (kindOf : κ → String) : Role κ → Role String
  | .resourceId => .resourceId
  | .association a => .association ⟨a.relation, a.mayLack, kindOf a.target, a.cardinality⟩
  | .property => .property

namespace AccessorTable

variable {κ : Type} {kindOf : κ → String} {owner : String} {t t' : AccessorTable κ} {d : Accessor κ}

/-! ## One declaration -/

theorem clash?_eq_none_iff {first second : Accessor κ} :
    clash? kindOf owner first second = none ↔ first.role.told kindOf = second.role.told kindOf := by
  rcases first with ⟨_, _ | a | _⟩ <;> rcases second with ⟨_, _ | b | _⟩ <;> simp [clash?, Role.told, alike, and_assoc]

/-- The index leads to the first accessor of the name. -/
theorem index_leads {name : String} {i : Nat} (h : t.index.lookup name = some i) :
    ∃ first, t.accessors[i]? = some first ∧ t.accessors.find? (·.name == name) = some first := by
  obtain ⟨hlt, -⟩ := List.findIdx?_eq_some_iff_getElem.1 ((t.index_eq name).symm.trans h)
  have hfirst := List.getElem?_eq_getElem hlt
  refine ⟨t.accessors[i], hfirst, ?_⟩
  rw [← known?_eq, known?, h, Option.bind_some, hfirst]

/-- **What a declaration does**: it adds an accessor under a new name, or agrees with the accessor that is known. -/
theorem declare_ok (h : declare kindOf t d = .ok t') :
    (t.accessors.find? (·.name == d.name) = none ∧ t'.accessors = t.accessors ++ [d]) ∨
      ∃ first, t.accessors.find? (·.name == d.name) = some first ∧
        first.role.told kindOf = d.role.told kindOf ∧ t' = t := by
  unfold declare at h
  split at h
  · rename_i unknown
    cases h
    exact .inl ⟨by rw [← known?_eq, known?, unknown, Option.bind_none], rfl⟩
  · rename_i i hi
    obtain ⟨first, hget, hfind⟩ := index_leads hi
    rw [hget, Option.bind_some] at h
    split at h
    · rename_i hclash
      cases h
      exact .inr ⟨first, hfind, clash?_eq_none_iff.1 hclash, rfl⟩
    · cases h

theorem declare_error {fault : ConfigurationFault} (h : declare kindOf t d = .error fault) :
    ∃ first, t.accessors.find? (·.name == d.name) = some first ∧ first.role.told kindOf ≠ d.role.told kindOf := by
  unfold declare at h
  split at h
  · cases h
  · rename_i i hi
    obtain ⟨first, hget, hfind⟩ := index_leads hi
    rw [hget, Option.bind_some] at h
    split at h
    · cases h
    · rename_i hclash
      refine ⟨first, hfind, fun htold => ?_⟩
      rw [clash?_eq_none_iff.2 htold] at hclash
      cases hclash

/-! ## All declarations -/

theorem foldlM_declare_cons (t : AccessorTable κ) (d : Accessor κ) (ds : List (Accessor κ)) :
    (d :: ds).foldlM (declare kindOf) t = match declare kindOf t d with
      | .ok t' => ds.foldlM (declare kindOf) t'
      | .error fault => .error fault := by
  rw [List.foldlM_cons]
  cases declare kindOf t d <;> rfl

/-- The declarations of a name agree with the first of them. -/
def Agree (kindOf : κ → String) (ds : List (Accessor κ)) : Prop :=
  ∀ d ∈ ds, ∀ a ∈ ds.find? (·.name == d.name), a.role.told kindOf = d.role.told kindOf

/-- **What a table has of its declarations**: each name once in the order of the first declarations, and of each name
the first declaration, with which all others agree. -/
structure Lists (kindOf : κ → String) (t : AccessorTable κ) (ds : List (Accessor κ)) : Prop where
  names : t.accessors.map (·.name) = (ds.map (·.name)).eraseDups
  first : ∀ name, t.accessors.find? (·.name == name) = ds.find? (·.name == name)
  agree : Agree kindOf ds

theorem lists_empty : Lists kindOf (empty owner) [] := ⟨rfl, fun _ => rfl, fun _ hd => by cases hd⟩

theorem find?_of_mem {ds : List (Accessor κ)} (h : d ∈ ds) : ∃ a, ds.find? (·.name == d.name) = some a :=
  Option.isSome_iff_exists.1 (List.find?_isSome.2 ⟨d, h, beq_self_eq_true d.name⟩)

theorem mem_names {ds : List (Accessor κ)} {name : String} :
    name ∈ ds.map (·.name) ↔ (ds.find? (·.name == name)).isSome := by
  simp [List.find?_isSome]

theorem agree_concat {seen : List (Accessor κ)} (h : Agree kindOf seen)
    (hd : ∀ a ∈ (seen ++ [d]).find? (·.name == d.name), a.role.told kindOf = d.role.told kindOf) :
    Agree kindOf (seen ++ [d]) := by
  intro e he a ha
  rcases List.mem_append.1 he with he | he
  · obtain ⟨b, hb⟩ := find?_of_mem he
    rw [List.find?_append, hb, Option.some_or] at ha
    exact h e he a (hb.trans ha)
  · obtain rfl := List.mem_singleton.1 he
    exact hd a ha

theorem lists_declare {seen : List (Accessor κ)} (h : Lists kindOf t seen) (hd : declare kindOf t d = .ok t') :
    Lists kindOf t' (seen ++ [d]) := by
  rcases declare_ok hd with ⟨hnone, haccessors⟩ | ⟨first, hfirst, htold, rfl⟩
  · rw [h.first] at hnone
    refine ⟨?_, fun name => ?_, agree_concat h.agree fun a ha => ?_⟩
    · have hnew : d.name ∉ seen.map (·.name) := by simp [mem_names, hnone]
      rw [haccessors, List.map_append, List.map_append, List.map_singleton, h.names,
        Text.eraseDups_concat_of_not_mem hnew]
    · rw [haccessors, List.find?_append, List.find?_append, h.first]
    · rw [List.find?_append, hnone, Option.none_or] at ha
      have hself : d = a := by simpa using ha
      rw [hself]
  · rw [h.first] at hfirst
    refine ⟨?_, fun name => ?_, agree_concat h.agree fun a ha => ?_⟩
    · have hold : d.name ∈ seen.map (·.name) := by simp [mem_names, hfirst]
      rw [List.map_append, List.map_singleton, h.names, Text.eraseDups_concat_of_mem hold]
    · rw [h.first, List.find?_append]
      by_cases hname : d.name = name
      · rw [← hname, hfirst, Option.some_or]
      · rw [List.find?_singleton, if_neg (by simpa using hname), Option.or_none]
    · rw [List.find?_append, hfirst, Option.some_or] at ha
      rw [← Option.some.inj ha, htold]

theorem lists_foldlM : ∀ {ds seen : List (Accessor κ)} {t t' : AccessorTable κ}, Lists kindOf t seen →
    ds.foldlM (declare kindOf) t = .ok t' → Lists kindOf t' (seen ++ ds)
  | [], seen, t, t', h, ht => by
    cases ht
    rwa [List.append_nil]
  | d :: ds, seen, t, t', h, ht => by
    rw [foldlM_declare_cons] at ht
    rcases hd : declare kindOf t d with fault | next
    · rw [hd] at ht
      cases ht
    · rw [hd] at ht
      rw [List.append_cons]
      exact lists_foldlM (lists_declare h hd) ht

/-- A list of declarations without a table holds two of one name that disagree. -/
theorem disagree_of_error : ∀ {ds seen : List (Accessor κ)} {t : AccessorTable κ} {fault : ConfigurationFault},
    Lists kindOf t seen → ds.foldlM (declare kindOf) t = .error fault →
    ∃ a ∈ seen ++ ds, ∃ b ∈ seen ++ ds, a.name = b.name ∧ a.role.told kindOf ≠ b.role.told kindOf
  | [], _, _, _, _, ht => by cases ht
  | d :: ds, seen, t, fault, h, ht => by
    rw [foldlM_declare_cons] at ht
    rcases hd : declare kindOf t d with fault' | next
    · obtain ⟨first, hfirst, htold⟩ := declare_error hd
      rw [h.first] at hfirst
      exact ⟨first, List.mem_append_left _ (List.mem_of_find?_eq_some hfirst), d, by simp,
        by simpa using List.find?_some hfirst, htold⟩
    · rw [hd] at ht
      rw [List.append_cons]
      exact disagree_of_error (lists_declare h hd) ht

theorem lists_ofDeclarations {ds : List (Accessor κ)} (h : ofDeclarations kindOf owner ds = .ok t) :
    Lists kindOf t ds :=
  lists_foldlM lists_empty h

/-- Declaring the accessors that a list of declarations adds has the effect of declaring the list. -/
theorem foldlM_added : ∀ {ds : List (Accessor κ)} {t t' : AccessorTable κ}, ds.foldlM (declare kindOf) t = .ok t' →
    ∃ added, t'.accessors = t.accessors ++ added ∧ added.foldlM (declare kindOf) t = .ok t'
  | [], t, t', h => by
    cases h
    exact ⟨[], (List.append_nil _).symm, rfl⟩
  | d :: ds, t, t', h => by
    rw [foldlM_declare_cons] at h
    rcases hd : declare kindOf t d with fault | next
    · rw [hd] at h
      cases h
    · rw [hd] at h
      obtain ⟨added, haccessors, hadded⟩ := foldlM_added h
      rcases declare_ok hd with ⟨-, hnext⟩ | ⟨-, -, -, rfl⟩
      · refine ⟨d :: added, by rw [haccessors, hnext, List.append_assoc]; rfl, ?_⟩
        rw [foldlM_declare_cons, hd]
        exact hadded
      · exact ⟨added, haccessors, hadded⟩

theorem ofDeclarations_accessors {ds : List (Accessor κ)} (h : ofDeclarations kindOf owner ds = .ok t) :
    ofDeclarations kindOf owner t.accessors = .ok t := by
  obtain ⟨added, haccessors, hadded⟩ := foldlM_added h
  rw [haccessors]
  exact hadded

theorem exists_ofDeclarations_iff {ds : List (Accessor κ)} :
    (∃ t, ofDeclarations kindOf owner ds = .ok t) ↔
      ∀ a ∈ ds, ∀ b ∈ ds, a.name = b.name → a.role.told kindOf = b.role.told kindOf := by
  constructor
  · rintro ⟨t, ht⟩ a ha b hb hname
    have h := lists_ofDeclarations ht
    obtain ⟨first, hfirst⟩ := find?_of_mem ha
    rw [← h.agree a ha first hfirst]
    rw [hname] at hfirst
    exact h.agree b hb first hfirst
  · intro agree
    rcases h : ofDeclarations kindOf owner ds with fault | t
    · obtain ⟨a, ha, b, hb, hname, htold⟩ := disagree_of_error lists_empty h
      exact absurd (agree a ha b hb hname) htold
    · exact ⟨t, rfl⟩

/-! ## Finding accessors -/

def Found (as : List (Accessor κ)) : Prop := ∀ a ∈ as, as.find? (·.name == a.name) = some a

theorem Lists.found {ds : List (Accessor κ)} (h : Lists kindOf t ds) : Found t.accessors := by
  intro a ha
  have hnodup : (t.accessors.map (·.name)).Nodup := by
    rw [h.names]
    exact Text.nodup_eraseDups _
  obtain ⟨b, hb⟩ := find?_of_mem ha
  rw [hb, List.inj_on_of_nodup_map hnodup (List.mem_of_find?_eq_some hb) ha (by simpa using List.find?_some hb)]

theorem found_ofDeclarations {ds : List (Accessor κ)} (h : ofDeclarations kindOf owner ds = .ok t) :
    Found t.accessors :=
  (lists_ofDeclarations h).found

theorem lookup_name (table : AccessorTable κ) (name : String) : (table.lookup name).name = name := by
  rw [lookup_eq]
  rcases h : table.accessors.find? (·.name == name) with _ | a
  · rw [h, Option.getD_none]
  · rw [h, Option.getD_some]
    simpa using List.find?_some h

/-- **A name that is not declared is a plain property.** -/
theorem lookup_of_undeclared {table : AccessorTable κ} {name : String} (h : ∀ a ∈ table.accessors, a.name ≠ name) :
    table.lookup name = ⟨name, .property⟩ := by
  rw [lookup_eq, List.find?_eq_none.2 fun a ha => by simpa using h a ha, Option.getD_none]

theorem lookup_of_found {table : AccessorTable κ} {a : Accessor κ} (h : Found table.accessors)
    (ha : a ∈ table.accessors) : table.lookup a.name = a := by
  rw [lookup_eq, h a ha, Option.getD_some]

/-- **The accessor for the address is found under its name.** -/
theorem role_resourceId {table : AccessorTable κ} {a : Accessor κ} (h : Found table.accessors)
    (ha : table.resourceId? = some a) : (table.lookup a.name).role = .resourceId := by
  have hrole : a.isResourceId = true := by simpa using List.find?_some ha
  rw [lookup_of_found h (List.mem_of_find?_eq_some ha)]
  unfold Accessor.isResourceId at hrole
  split at hrole
  · assumption
  · cases hrole

/-! ## Tables -/

/-- **A table has one accessor for each name.**  There is a table exactly if any two declarations of one name agree, so
in whatever order they come.  It lists the names in the order of their first declarations, finds the first declaration
under each of them and a plain property under any other name, and is what its own accessors declare. -/
theorem one_accessor_per_name (kindOf : κ → String) (owner : String) (ds : List (Accessor κ)) :
    ((∃ t, ofDeclarations kindOf owner ds = .ok t) ↔
      ∀ a ∈ ds, ∀ b ∈ ds, a.name = b.name → a.role.told kindOf = b.role.told kindOf) ∧
    (∀ ds', ds'.Perm ds →
      ((∃ t, ofDeclarations kindOf owner ds' = .ok t) ↔ ∃ t, ofDeclarations kindOf owner ds = .ok t)) ∧
    ∀ t, ofDeclarations kindOf owner ds = .ok t →
      t.accessors.map (·.name) = (ds.map (·.name)).eraseDups ∧
      (∀ a ∈ t.accessors, ds.find? (·.name == a.name) = some a) ∧
      (∀ d ∈ ds, ∃ a ∈ t.accessors, a.name = d.name ∧ t.lookup d.name = a) ∧
      (∀ name, (∀ d ∈ ds, d.name ≠ name) → t.lookup name = ⟨name, .property⟩) ∧
      ofDeclarations kindOf owner t.accessors = .ok t := by
  refine ⟨exists_ofDeclarations_iff, fun ds' hperm => ?_, fun t ht => ?_⟩
  · rw [exists_ofDeclarations_iff, exists_ofDeclarations_iff]
    simp only [hperm.mem_iff]
  have h := lists_ofDeclarations ht
  have hmem : ∀ {a}, a ∈ t.accessors → a ∈ ds := fun {a} ha =>
    List.mem_of_find?_eq_some ((h.first a.name).symm.trans (h.found a ha))
  refine ⟨h.names, fun a ha => (h.first a.name).symm.trans (h.found a ha), fun d hd => ?_, fun name hname => ?_,
    ofDeclarations_accessors ht⟩
  · obtain ⟨a, ha⟩ := find?_of_mem hd
    rw [← h.first] at ha
    exact ⟨a, List.mem_of_find?_eq_some ha, by simpa using List.find?_some ha, by rw [lookup_eq, ha, Option.getD_some]⟩
  · exact lookup_of_undeclared fun a ha => hname a (hmem ha)

end AccessorTable

namespace Family

/-- The accessors of a widget, two of them declared once more. -/
def redeclared : List (Accessor Ty) := widgetAccessors ++ [⟨"setName", .property⟩, one "getOwner" .parent none false]

theorem widget_redeclared : ∃ t, AccessorTable.ofDeclarations schema.kind "Widget" redeclared = .ok t ∧
    t.accessors.map (·.name) = (redeclared.map (·.name)).eraseDups ∧
    (∃ a ∈ t.accessors, a.name = "getOwner" ∧ t.lookup "getOwner" = a) ∧
    t.lookup "getName" = ⟨"getName", .property⟩ ∧
    AccessorTable.ofDeclarations schema.kind "Widget" t.accessors = .ok t ∧
    ∃ t', AccessorTable.ofDeclarations schema.kind "Widget" redeclared.reverse = .ok t' := by
  obtain ⟨-, hperm, htable⟩ := AccessorTable.one_accessor_per_name schema.kind "Widget" redeclared
  obtain ⟨t, ht⟩ : ∃ t, AccessorTable.ofDeclarations schema.kind "Widget" redeclared = .ok t := ⟨_, rfl⟩
  obtain ⟨hnames, -, hlookup, hundeclared, hagain⟩ := htable t ht
  exact ⟨t, ht, hnames, hlookup (one "getOwner" .parent none false) (by simp [redeclared]),
    hundeclared "getName" (by decide), hagain, (hperm _ redeclared.reverse_perm).2 ⟨t, ht⟩⟩

end Family
end Hypermedia
