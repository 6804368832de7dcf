import Hypermedia.Collection
import Hypermedia.Proofs.Resolution.FirstMatch
/-!
# Members of subtypes

The address of a member is that of the collection with the number of the member behind it.  A resource that links to
itself by such an address has the kind of the collection (`member_told`): the address lies below the collection, and the
link leads to it.  This needs a root without a query and a fragment, since these stay at the end of the address of a
member, and are in the middle of what it would have to start with (`girl_untold`).
-/
namespace Hypermedia

open Hypermedia.Action

theorem Json.not_mem_natText {c : Char} (h : c.isDigit = false) (n : Nat) : c ∉ (natText n).toList := by
  intro hc
  rw [natText, String.toList_ofList] at hc
  rw [Nat.isDigit_of_mem_toDigits (by decide) (by decide) hc] at h
  cases h

/-! ## Addresses of members -/

namespace Uri

variable {base : Uri} {path : String}

/-- **A member lies below its collection.** -/
theorem IsRoot.liesBelow_member (h : base.IsRoot) (hmark : '?' ∉ path.toList) (n : Nat) :
    base.LiesBelow path ((base.append path).append (Json.natText n)) ∧
      ((base.append path).append (Json.natText n)).Sound := by
  obtain ⟨read, hread, hne, happend⟩ := h.append_path hmark
  have hsound := sound_append h.sound h.web path
  have hweb := isWeb_append h.sound h.web path
  have hdigits : ∀ c ∈ Nat.toDigits 10 n, c.isDigit = true := fun c hc =>
    Nat.isDigit_of_mem_toDigits (by decide) (by decide) hc
  have hmember := append_name hsound hweb (Path.isName_of_isDigit hdigits Nat.toDigits_ne_nil)
  refine ⟨⟨?_, ?_, ?_⟩, sound_append hsound hweb _⟩
  · unfold Json.natText
    rw [hmember, happend]
  · unfold Json.natText
    rw [hmember, happend]
  · unfold Json.natText collectionChars
    rw [hmember, String.toList_ofList]
    refine ⟨Nat.toDigits 10 n, ?_⟩
    simp

/-- **A link to a member leads to it**, if a link to the root leads there. -/
theorem IsRoot.resolve_member (h : base.IsRoot) (restorable : base.Restorable) (plain : '\x7b' ∉ base.chars)
    (hmark : '?' ∉ path.toList) (n : Nat) {l : Link}
    (hl : l.href = ((base.append path).append (Json.natText n)).text) :
    base.resolve l.expand = .ok ((base.append path).append (Json.natText n)) := by
  obtain ⟨below, sound⟩ := h.liesBelow_member hmark n
  obtain ⟨read, -, -, hcollection⟩ := h.append_path hmark
  obtain ⟨segments, hsegments, -, hmember⟩ := Uri.append_path (sound_append h.sound h.web path)
    (isWeb_append h.sound h.web path) (Json.not_mem_natText (by decide) n)
  generalize (base.append path).append (Json.natText n) = u at *
  refine resolve_expand sound ⟨fun _ a text ha hname => ?_, fun hfile => ?_⟩ ?_ base hl
  · exact restorable.name h.web.isSpecial a text (below.authority ▸ ha) hname
  · exact absurd (below.scheme ▸ hfile) h.web.ne_file
  · have hpath : u.path.toList = Path.chars segments := by rw [hmember, String.toList_ofList]
    have htail : u.tailChars = [] := by
      rw [hmember, hcollection, tailChars, h.query, h.fragment]
      rfl
    have hfront : u.authorityChars = base.authorityChars := by rw [hmember, hcollection]; rfl
    intro hc
    rw [chars_eq] at plain hc
    rw [hpath, htail, hfront, below.scheme, List.append_nil] at hc
    -- the braces would stand in front of the path
    rcases List.mem_append.1 hc with hc | hc
    · exact plain (List.mem_append_left _ hc)
    rcases List.mem_cons.1 hc with hc | hc
    · exact absurd hc (by decide)
    rcases List.mem_append.1 hc with hc | hc
    · exact plain (List.mem_append_right _ (List.mem_cons_of_mem _ (List.mem_append_left _ hc)))
    · rcases Path.mem_chars hsegments hc with hc | ⟨hset, -⟩
      · exact absurd hc (by decide)
      · exact absurd hset (by decide)

end Uri

/-! ## Resources that link to themselves as members -/

namespace Service

variable {S : Schema} {t sub : S.Ty} {service : Service S}

/-- **The address of a member tells its type**: a resource that links to itself by the address that a collection of a
subtype gives one of its members has the kind of the subtype, unless a candidate listed before it collects the
address. -/
theorem member_told {before after : List Descriptor}
    (h : service.Tells t (before ++ (S.entity sub).descriptor :: after))
    (restorable : service.base.Restorable) (plain : '\x7b' ∉ service.base.chars) {c : Collection S sub}
    {s₀ s₁ : Traces S} (made : (service.collection sub).after s₀ = (.ok c, s₁)) (n : UInt64) {links : Links} {l : Link}
    (self : links.self? = some l) (href : l.href = (c.memberUri (Json.natText n.toNat)).text)
    (first : ∀ b ∈ before, ¬ b.Collects service.base (c.memberUri (Json.natText n.toNat))) (s : Traces S) :
    ((service.resolve t links).after s).1 = .ok (S.kind sub) := by
  have hmem : (S.entity sub).descriptor ∈ before ++ (S.entity sub).descriptor :: after := by simp
  obtain ⟨-, -, -, hchecked⟩ := h.metadata
  obtain ⟨path, hpath⟩ := Option.isSome_iff_exists.1 (hchecked _ hmem).2
  have hmark : '?' ∉ path.toList := h.plain _ hmem path hpath
  have hmember : c.memberUri (Json.natText n.toNat) = (service.base.append path).append (Json.natText n.toNat) := by
    rw [Collection.memberUri, uri_of_collection made, Descriptor.collectionPath, hpath, Option.getD_some]
  rw [hmember] at href first
  have hcollects : (S.entity sub).descriptor.Collects service.base _ :=
    ⟨path, hpath, (h.root.liesBelow_member hmark n.toNat).1⟩
  have hself : links.selfUri? service.base = .ok (some ((service.base.append path).append (Json.natText n.toNat))) := by
    rw [Links.selfUri?_eq self, h.root.resolve_member restorable plain hmark n.toNat href]
    rfl
  rw [h.resolve_eq links s, hself]
  unfold Descriptor.kindAt
  rw [Except.map, Option.bind_some, Descriptor.first?_append first hcollects]
  rfl

end Service

namespace Family

/-- A girl is told by her number. -/
theorem girl_told_by_number :
    let s := listing [boys, girls]
    let uri := (s.base.append "/girls").append "7"
    ((s.collection Ty.girl).after {}).1.toOption.map (·.memberUri (Json.natText 7)) = some uri ∧
    uri.text = "http://host/girls/7" ∧ s.Tells Ty.content [boys, girls] ∧ s.base.Restorable ∧ '\x7b' ∉ s.base.chars ∧
    ((s.resolve Ty.content [⟨"self", uri.text, false⟩]).after {}).1 = .ok "Girl" := by
  intro s uri
  have hplain : ∀ c ∈ [boys, girls], c.IsPlain := by
    unfold Descriptor.IsPlain
    decide +kernel
  have htells : s.Tells Ty.content [boys, girls] := tells_listing hplain ⟨_, rfl⟩
  have hbraces : '\x7b' ∉ s.base.chars := by decide +kernel
  have hmember : ((s.collection Ty.girl).after {}).1.toOption.map (·.memberUri (Json.natText 7)) = some uri := by
    decide +kernel
  have hrestorable : s.base.Restorable := restorable_of_authority (.inl rfl) rfl
  refine ⟨hmember, by decide +kernel, htells, hrestorable, hbraces, ?_⟩
  rcases hmade : (s.collection Ty.girl).after {} with ⟨e | c, s₁⟩
  · rw [hmade] at hmember
    cases hmember
  · rw [hmade] at hmember
    have huri : c.memberUri (Json.natText 7) = uri := Option.some.inj hmember
    have hfirst : ∀ b ∈ [boys], ¬ b.Collects s.base uri := by decide +kernel
    have hlisted : s.Tells Ty.content ([boys] ++ (schema.entity Ty.girl).descriptor :: []) := htells
    have hhref : (⟨"self", uri.text, false⟩ : Link).href = (c.memberUri (Json.natText 7)).text := by rw [huri]
    have hfirst' : ∀ b ∈ [boys], ¬ b.Collects s.base (c.memberUri (Json.natText 7)) := by rwa [huri]
    exact Service.member_told hlisted hrestorable hbraces hmade 7 rfl hhref hfirst' {}

/-- **A girl of a service whose root has a query is not told by her number**: the query stands behind the number, and
in the middle of what the address would have to start with. -/
theorem girl_untold :
    let s : Service schema := { service [] with configuration := { base := { base with query := some "key=1" } } }
    let u : Uri := { base with path := "/girls/7", query := some "key=1" }
    Uri.parse? "http://host?key=1" = .ok s.base ∧
    ((s.collection Ty.girl).after {}).1.toOption.map (·.memberUri (Json.natText 7)) = some u ∧
    s.configuration.typeInfo? Ty.content = some { subtypes := [boys, (schema.entity Ty.girl).descriptor] } ∧
    ¬ boys.Collects s.base u ∧
    ((s.resolve Ty.content [⟨"self", u.text, false⟩]).after {}).1 = .ok "Content" := by
  intro s u
  refine ⟨by decide +kernel, by decide +kernel, rfl, by decide +kernel, by decide +kernel⟩

end Family
end Hypermedia
