import Hypermedia.Family.Schema
import Hypermedia.Proofs.Expansion
import Hypermedia.Proofs.Uri.Append
import Hypermedia.Proofs.Uri.Reread
/-!
# Following hrefs

The href of a link is expanded before it is followed: sections in braces are taken out of it, whether the link is a
template or not.  A link with the text of an address and without braces leads to the address (`Uri.resolve_expand`).
-/
namespace Hypermedia

namespace Uri

variable {u : Uri}

/-- **The text of an address leads to the address**, whatever the base is. -/
theorem resolve_text (sound : u.Sound) (restorable : u.Restorable) (base : Uri) : base.resolve u.text = .ok u := by
  unfold resolve
  rw [parse?_text sound restorable]

/-- **A link with the text of an address leads to the address**, if there are no braces in the text. -/
theorem resolve_expand (sound : u.Sound) (restorable : u.Restorable) (plain : '\x7b' ∉ u.chars) (base : Uri) {l : Link}
    (h : l.href = u.text) : base.resolve l.expand = .ok u := by
  have hexpand : l.expand = u.text := by
    have htext : u.text.toList = u.chars := String.toList_ofList
    rw [Link.expand_eq, h, htext, Link.dropSections_of_not_mem plain]
    rfl
  rw [hexpand, resolve_text sound restorable]

end Uri

namespace Links

variable {links : Links} {base u : Uri}

theorem self?_append (h : links.self? = none) (href : String) (templated : Bool) :
    Links.self? (links ++ [⟨selfRelation, href, templated⟩]) = some ⟨selfRelation, href, templated⟩ := by
  unfold self? get? at h ⊢
  rw [List.find?_append, h]
  simp

theorem selfUri?_eq {l : Link} (h : links.self? = some l) : links.selfUri? base = (base.resolve l.expand).map some := by
  unfold selfUri?
  rw [h]

theorem sound_selfUri? (sound : base.Sound) (web : base.IsWeb) (h : links.selfUri? base = .ok (some u)) : u.Sound := by
  rcases hl : links.self? with _ | l
  · rw [selfUri?, hl] at h
    cases h
  · rw [selfUri?_eq hl] at h
    rcases hu : base.resolve l.expand with e | v
    · rw [hu] at h
      cases h
    · rw [hu] at h
      cases h
      exact Uri.sound_resolve sound web hu

/-- An address that cannot be told is one that the link of a resource to itself does not spell. -/
theorem selfUri?_error {e : Failure} (h : links.selfUri? base = .error e) :
    ∃ l reason, links.self? = some l ∧ Uri.parse? l.expand = .error reason ∧ e = .invalidUri l.expand reason := by
  rcases hl : links.self? with _ | l
  · rw [selfUri?, hl] at h
    cases h
  · rw [selfUri?_eq hl] at h
    rcases hu : base.resolve l.expand with e' | v
    · rw [hu] at h
      cases h
      unfold Uri.resolve at hu
      split at hu
      · cases hu
      · cases hu
      · rename_i reason _ hparse
        cases hu
        exact ⟨l, reason, rfl, hparse, rfl⟩
    · rw [hu] at h
      cases h

end Links

namespace Family

/-- Every address on the web at the host of the family is restored by its text. -/
theorem restorable_of_authority {u : Uri} (web : u.IsWeb) (h : u.authority = base.authority) : u.Restorable := by
  have hwritten : Domain.IsWritten "host".toList :=
    ⟨List.all_iff_forall_prop.1 (by decide), List.all_iff_forall_prop.1 (by decide), by decide⟩
  exact Uri.restorable_of_isWritten web.ne_file h rfl hwritten

end Family
end Hypermedia
