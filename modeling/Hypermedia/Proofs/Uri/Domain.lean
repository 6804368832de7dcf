import Hypermedia.Proofs.Text.Ascii
import Hypermedia.Proofs.Text.Composition
import Hypermedia.Proofs.Text.Split
import Hypermedia.Proofs.Uri.Encoded
import Hypermedia.Uri.Domain.Basic
import Mathlib.Data.Bool.AllAny
/-!
# Domains in ASCII

The ASCII form of a domain has no character that separates the parts of an address (`plain_of_ascii?`).  A domain that
is written in ASCII, without capitals and without encoded labels, is its own ASCII form (`ascii?_of_isWritten`).
-/
namespace Hypermedia
namespace Domain

/-- **A character that may stand in a domain.** -/
def IsPlain (c : Char) : Prop := c.toNat < 0x80 ∧ isForbidden c = false

instance (c : Char) : Decidable (IsPlain c) := inferInstanceAs (Decidable (c.toNat < 0x80 ∧ isForbidden c = false))

/-! ## What is written -/

theorem isPlain_digit {d : Nat} (h : d < 36) : IsPlain (Encoded.digit d) := by
  have hall : ∀ d < 36, (Encoded.digit d).toNat < 0x80 ∧ isForbidden (Encoded.digit d) = false := by decide
  exact hall d h

theorem isPlain_of_mem_written {label : List Char} (h : ∀ c ∈ label, isForbidden c = false) :
    ∀ d ∈ written label, IsPlain d := by
  have hmark : ∀ d ∈ mark, d.toNat < 0x80 ∧ isForbidden d = false := List.all_iff_forall_prop.1 (by decide)
  intro d hd
  unfold written at hd
  split at hd
  · rename_i hascii
    exact ⟨by simpa using List.all_eq_true.1 hascii d hd, h d hd⟩
  · rcases List.mem_append.1 hd with hd | hd
    · exact hmark d hd
    · exact Encoded.of_mem_encode (fun _ => isPlain_digit) (by unfold IsPlain; decide)
        (fun c hc hascii => ⟨hascii, h c hc⟩) d hd

/-- **A domain in its ASCII form is plain.** -/
theorem plain_of_ascii? {cs ds : List Char} (h : ascii? cs = some ds) : ∀ d ∈ ds, IsPlain d := by
  obtain ⟨text, hspelled, h⟩ := Option.bind_eq_some_iff.1 h
  obtain ⟨labels, -, h⟩ := Option.bind_eq_some_iff.1 h
  have hfree : ∀ c ∈ text, isForbidden c = false := by
    obtain ⟨images, -, hspelled⟩ := Option.bind_eq_some_iff.1 hspelled
    simp only at hspelled
    split at hspelled
    · cases hspelled
    · rename_i hany
      cases hspelled
      simpa using hany
  split at h
  · cases h
    intro d hd
    rcases Text.mem_intercalate hd with rfl | ⟨part, hpart, hd⟩
    · unfold IsPlain
      decide
    · obtain ⟨label, hlabel, rfl⟩ := List.mem_map.1 hpart
      exact isPlain_of_mem_written (fun c hc => hfree c (Text.mem_splitAll hlabel c hc).2) d hd
  · cases h

/-! ## Domains that are written in ASCII -/

/-- **A domain that is written as domains are**: in ASCII, without capitals, and without encoded labels. -/
structure IsWritten (cs : List Char) : Prop where
  plain : ∀ c ∈ cs, IsPlain c
  small : ∀ c ∈ cs, c.toLower = c
  unmarked : ∀ l ∈ Text.splitAll (· == '.') cs, Text.afterStart? mark l = none

variable {cs : List Char}

/-- **A text is its own spelling** when each of its characters is, and composition leaves them alone. -/
theorem spelled?_of_inert (hspelling : ∀ c ∈ cs, spelling? c = some [c]) (hinert : ∀ c ∈ cs, Text.IsInert c)
    (hfree : ∀ c ∈ cs, isForbidden c = false) : spelled? cs = some cs := by
  have hflat : (cs.map ([·])).flatten = cs := by rw [← List.flatMap_def, List.flatMap_singleton']
  unfold spelled?
  rw [Text.mapM_eq_some hspelling, Option.bind_some, hflat, Text.composed_of_inert hinert, if_neg]
  simpa using hfree

/-- A text in ASCII without capitals is its own spelling. -/
theorem spelled?_of_plain (hplain : ∀ c ∈ cs, IsPlain c) (hsmall : ∀ c ∈ cs, c.toLower = c) :
    spelled? cs = some cs := by
  refine spelled?_of_inert (fun c hc => ?_) (fun c hc => Text.isInert_of_ascii (hplain c hc).1) fun c hc =>
    (hplain c hc).2
  rw [spelling?, if_pos (hplain c hc).1, hsmall c hc]

/-- The ASCII form of a domain whose labels can stand in it and hold nothing that is written from right to left. -/
theorem ascii?_of_leftward {text : List Char} {labels : List (List Char)} (hspelled : spelled? cs = some text)
    (hlabels : (Text.splitAll (· == '.') text).mapM label? = some labels) (hsound : ∀ l ∈ labels, isSound l = true)
    (hleft : ∀ l ∈ labels, ∀ c ∈ l, isRightward c = false) :
    ascii? cs = some (['.'].intercalate ((Text.splitAll (· == '.') text).map written)) := by
  have hall : labels.all isSound = true := List.all_eq_true.2 hsound
  have hnone : labels.any (·.any isRightward) = false := by
    rw [List.any_eq_false]
    intro l hl
    rw [Bool.not_eq_true, List.any_eq_false]
    intro c hc
    rw [hleft l hl c hc]
    decide
  simp only [ascii?, hspelled, Option.bind_eq_bind, Option.bind_some, hlabels, hall, hnone, Bool.not_false,
    Bool.true_or, Bool.and_true, if_true]

/-- **A domain that is written as domains are is its own ASCII form.** -/
theorem ascii?_of_isWritten (h : IsWritten cs) : ascii? cs = some cs := by
  have hascii : ∀ l ∈ Text.splitAll (· == '.') cs, isAscii l = true := fun l hl =>
    List.all_eq_true.2 fun c hc => by simpa using (h.plain c (Text.mem_splitAll hl c hc).2).1
  have hlabels : (Text.splitAll (· == '.') cs).mapM label? = some (Text.splitAll (· == '.') cs) := by
    have hself : ∀ l ∈ Text.splitAll (· == '.') cs, label? l = some (id l) := fun l hl => by
      rw [label?, h.unmarked l hl]
      rfl
    rw [Text.mapM_eq_some hself, List.map_id]
  have hsound : ∀ l ∈ Text.splitAll (· == '.') cs, isSound l = true := fun l hl => by
    rw [isSound, hascii l hl, Bool.true_or]
  have hleft : ∀ l ∈ Text.splitAll (· == '.') cs, ∀ c ∈ l, isRightward c = false := fun l hl c hc =>
    Text.of_ascii (P := fun c => isRightward c = false) (by decide) (h.plain c (Text.mem_splitAll hl c hc).2).1
  have hwritten : (Text.splitAll (· == '.') cs).map written = Text.splitAll (· == '.') cs := by
    rw [List.map_congr_left (g := id) fun l hl => by rw [written, if_pos (hascii l hl)]; rfl, List.map_id]
  rw [ascii?_of_leftward (spelled?_of_plain h.plain h.small) hlabels hsound hleft, hwritten, Text.intercalate_splitAll]

end Domain
end Hypermedia
