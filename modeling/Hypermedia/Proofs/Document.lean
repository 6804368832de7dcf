import Hypermedia.Proofs.Links
/-!
# Documents that are split and joined

The links of a document that was split are ones that a document can hold (`Links.Canonical`).  Such links are read back
from the entry that is written for them (`Links.ofDocument_toDocument`), and the fields keep their order, so a document
that was split and joined is split into the same parts again (`Document.split_join`).
-/
namespace Hypermedia

open Json (Fields)

namespace Document

/-! ## Documents -/

/-- Content that a document can have: an object without the fields that the document has for itself. -/
def IsContent (fields : Fields) : Prop := linksKey ∉ Fields.keys fields ∧ embeddedKey ∉ Fields.keys fields

/-- **What was joined is split into the same parts.** -/
theorem split_join {fields : Fields} {links : Links} (content : IsContent fields) (canonical : links.Canonical) :
    ∃ document, join (.object fields) links = .ok document ∧ split document = .ok ⟨.object fields, links⟩ := by
  refine ⟨_, rfl, ?_⟩
  rw [Fields.put_of_not_mem _ content.1]
  unfold split
  simp only [Fields.extract_append _ content.1, Links.ofDocument_toDocument canonical, bind, Except.bind,
    Fields.extract_of_not_mem content.2]
  rfl

/-- **What was split** is content and links that a document can have. -/
theorem content_of_split {document : Json} {r : Resource Json} (distinct : document.Distinct)
    (h : split document = .ok r) : ∃ fields, r.content = .object fields ∧ IsContent fields ∧ r.links.Canonical := by
  cases distinct with
  | @object fields hkeys hvalues =>
    have hcontent : IsContent (Fields.extract (Fields.extract fields linksKey).2 embeddedKey).2 :=
      ⟨fun hmem => Fields.not_mem_extract hkeys (Fields.mem_of_mem_extract (Fields.nodup_extract hkeys) hmem),
        Fields.not_mem_extract (Fields.nodup_extract hkeys)⟩
    unfold split at h
    rcases hentry : (Fields.extract fields linksKey).1 with _ | v
    · simp only [hentry, bind, Except.bind] at h
      cases h
      exact ⟨_, rfl, hcontent, Links.canonical_nil⟩
    · rcases hlinks : Links.ofDocument v with e | links
      · simp only [hentry, hlinks, bind, Except.bind] at h
        cases h
      · simp only [hentry, hlinks, bind, Except.bind] at h
        cases h
        exact ⟨_, rfl, hcontent, Links.canonical_ofDocument (hvalues _ (Fields.mem_of_extract hentry)) hlinks⟩
  | null => cases h
  | bool _ => cases h
  | number _ => cases h
  | text _ => cases h
  | array _ => cases h

/-- **Splitting and joining are stable.**  Whatever a document was split into, the content is an object without the
fields that documents have for themselves, it can be joined with the links, and the document that results is split into
the same parts, in the same order.  The same holds of all such content and all links that are grouped by relation with
one link to the resource itself at most. -/
theorem stable :
    (∀ (document : Json) (r : Resource Json), document.Distinct → split document = .ok r →
      ∃ fields joined, r.content = .object fields ∧ linksKey ∉ Fields.keys fields ∧ embeddedKey ∉ Fields.keys fields ∧
        join r.content r.links = .ok joined ∧ split joined = .ok r) ∧
    ∀ (fields : Fields) (links : Links), linksKey ∉ Fields.keys fields → embeddedKey ∉ Fields.keys fields →
      links.Grouped → (links.filter (·.relation == selfRelation)).length ≤ 1 →
        ∃ joined, join (.object fields) links = .ok joined ∧ split joined = .ok ⟨.object fields, links⟩ := by
  constructor
  · intro document r distinct hsplit
    obtain ⟨fields, hcontent, hkeys, hcanonical⟩ := content_of_split distinct hsplit
    obtain ⟨joined, hjoin, hsame⟩ := split_join hkeys hcanonical
    obtain ⟨content, links⟩ := r
    cases hcontent
    exact ⟨fields, joined, rfl, hkeys.1, hkeys.2, hjoin, hsame⟩
  · intro fields links hlinks hembedded hgrouped hself
    exact split_join ⟨hlinks, hembedded⟩ ⟨hgrouped, hself⟩

/-- A document whose own fields stand first and in the middle: the last field of the content comes to be the first, and
stays there. -/
theorem homer_stable :
    let self : Link := { relation := "self", href := "/parents/1" }
    let children : Links := [{ relation := "children", href := "/children/1" },
      { relation := "children", href := "/x" }]
    let document : Json := .object [("_embedded", .null), ("name", .text "Homer"),
      ("_links", .object [("self", self.toMember), ("none", .array []),
        ("children", .array (children.map Link.toMember))]),
      ("id", .ofNat 1)]
    let r : Resource Json := ⟨.object [("id", .ofNat 1), ("name", .text "Homer")], self :: children⟩
    document.Distinct ∧ split document = .ok r ∧
      (∃ joined, join r.content r.links = .ok joined ∧ split joined = .ok r) ∧
    Links.Grouped (children ++ [self]) ∧
    ∃ joined, join r.content (children ++ [self]) = .ok joined ∧
      split joined = .ok ⟨r.content, children ++ [self]⟩ := by
  intro self children document r
  have hmember : ∀ l : Link, l.templated = false → l.toMember.Distinct := by
    rintro ⟨relation, href, templated⟩ rfl
    exact .object (by simp) fun f hf => List.mem_singleton.1 hf ▸ .text href
  have hdistinct : document.Distinct := by
    refine .object (by decide) fun f hf => ?_
    simp only [List.mem_cons, List.not_mem_nil, or_false] at hf
    rcases hf with rfl | rfl | rfl | rfl
    · exact .null
    · exact .text _
    · refine .object (by decide) fun f hf => ?_
      simp only [List.mem_cons, List.not_mem_nil, or_false] at hf
      rcases hf with rfl | rfl | rfl
      · exact hmember _ rfl
      · exact .array nofun
      · refine .array fun v hv => ?_
        obtain ⟨l, hl, rfl⟩ := List.mem_map.1 hv
        simp only [children, List.mem_cons, List.not_mem_nil, or_false] at hl
        rcases hl with rfl | rfl
        · exact hmember _ rfl
        · exact hmember _ rfl
    · exact .number _
  have hsplit : split document = .ok r := rfl
  have hgrouped : Links.Grouped (children ++ [self]) := by decide
  obtain ⟨fields, joined, -, -, -, hjoin, hsame⟩ := stable.1 document r hdistinct hsplit
  exact ⟨hdistinct, hsplit, ⟨joined, hjoin, hsame⟩, hgrouped,
    stable.2 _ (children ++ [self]) (by decide) (by decide) hgrouped (by decide)⟩

end Document
end Hypermedia
