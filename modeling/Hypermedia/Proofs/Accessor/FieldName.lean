import Hypermedia.Proofs.Text.Split
import Hypermedia.Proxy.Property
/-!
# The field that a name stands for

A name that begins with `get`, `is` or `set` and goes on stands for the field that the rest names with a small first
letter, whatever the rest begins with; any other name stands for the field that it names with a small first letter
itself.  So a name stands for the field of that very name just when it does not begin with one of the words and has no
capital to lose (`Property.useOf_self_iff`).
-/
namespace Hypermedia

namespace Text

theorem length_lowerCase_le (c : Char) : (lowerCase c).length ≤ 2 := by
  unfold lowerCase
  split <;> simp

/-- A name gets longer by one character at most. -/
theorem length_decapitalize_le (name : String) : (decapitalize name).length ≤ name.length + 1 := by
  unfold decapitalize
  rcases hname : name.toList with _ | ⟨c, cs⟩
  · simp
  · have hlength : name.length = cs.length + 1 := by rw [← String.length_toList, hname, List.length_cons]
    have hc := length_lowerCase_le c
    simp only [String.length_ofList, List.length_append]
    omega

end Text

namespace RelationName

theorem afterWord?_append (start rest : String) : afterWord? start (start ++ rest) = some rest := by
  unfold afterWord?
  rw [String.toList_append, Text.afterStart?_append, Option.map_some, String.ofList_toList]

theorem afterWord?_eq_some_iff {start name rest : String} :
    afterWord? start name = some rest ↔ name = start ++ rest := by
  constructor
  · intro h
    obtain ⟨cs, hcs, rfl⟩ := Option.map_eq_some_iff.1 h
    rw [← String.toList_inj, Text.eq_append_of_afterStart? hcs, String.toList_append, String.toList_ofList]
  · rintro rfl
    exact afterWord?_append start rest

end RelationName

namespace Property

open RelationName (afterWord? afterWord?_append afterWord?_eq_some_iff)

variable {name rest : String}

/-- A name that begins with a word and goes on behind it. -/
def Begins (word name : String) : Prop := ∃ rest, rest ≠ "" ∧ name = word ++ rest

theorem useOf_setter (h : rest ≠ "") : useOf ("set" ++ rest) = .write (Text.decapitalize rest) := by
  unfold useOf
  rw [afterWord?_append]
  simp [h]

theorem useOf_getter (h : rest ≠ "") : useOf ("get" ++ rest) = .read (Text.decapitalize rest) := by
  have hset : afterWord? "set" ("get" ++ rest) = none := by
    unfold afterWord?
    rw [String.toList_append]
    rfl
  unfold useOf RelationName.ofAccessor RelationName.stripGetter
  rw [hset, afterWord?_append]
  simp [h]

theorem useOf_test (h : rest ≠ "") : useOf ("is" ++ rest) = .read (Text.decapitalize rest) := by
  have hset : afterWord? "set" ("is" ++ rest) = none := by
    unfold afterWord?
    rw [String.toList_append]
    rfl
  have hget : afterWord? "get" ("is" ++ rest) = none := by
    unfold afterWord?
    rw [String.toList_append]
    rfl
  unfold useOf RelationName.ofAccessor RelationName.stripGetter
  rw [hset, hget, afterWord?_append]
  simp [h]

theorem useOf_other (hget : ¬ Begins "get" name) (his : ¬ Begins "is" name) (hset : ¬ Begins "set" name) :
    useOf name = .read (Text.decapitalize name) := by
  have whole : ∀ word rest, ¬ Begins word name → afterWord? word name = some rest → rest = "" := by
    intro word rest hword hrest
    exact Decidable.byContradiction fun hne => hword ⟨rest, hne, afterWord?_eq_some_iff.1 hrest⟩
  have hstrip : RelationName.stripGetter name = name := by
    unfold RelationName.stripGetter
    rcases hg : afterWord? "get" name with _ | rest
    · rcases hi : afterWord? "is" name with _ | rest
      · rfl
      · simp [whole "is" rest his hi]
    · simp [whole "get" rest hget hg]
  have hread : RelationName.ofAccessor name = Text.decapitalize name := by
    unfold RelationName.ofAccessor
    rw [hstrip]
  unfold useOf
  rcases hs : afterWord? "set" name with _ | rest
  · simp only [hread]
  · simp only [whole "set" rest hset hs, hread]
    rfl

/-- **A name that stands for the field of that name.** -/
structure Plain (name : String) : Prop where
  get : ¬ Begins "get" name
  is : ¬ Begins "is" name
  set : ¬ Begins "set" name
  small : Text.decapitalize name = name

/-- **Just the plain names read the field of that name.**  What is left of another one behind its first word is too
short to be the whole name again. -/
theorem useOf_self_iff : useOf name = .read name ↔ Plain name := by
  constructor
  · intro h
    have long : ∀ word rest, 2 ≤ word.length → name = word ++ rest → useOf name ≠ .read (Text.decapitalize rest) := by
      rintro word rest hword rfl hrest
      rw [hrest, Use.read.injEq] at h
      have hle := Text.length_decapitalize_le rest
      rw [h, String.length_append] at hle
      omega
    have hget : ¬ Begins "get" name := by
      rintro ⟨rest, hne, rfl⟩
      exact long "get" rest (by decide) rfl (useOf_getter hne)
    have his : ¬ Begins "is" name := by
      rintro ⟨rest, hne, rfl⟩
      exact long "is" rest (by decide) rfl (useOf_test hne)
    have hset : ¬ Begins "set" name := by
      rintro ⟨rest, hne, rfl⟩
      rw [useOf_setter hne] at h
      cases h
    refine ⟨hget, his, hset, ?_⟩
    rw [useOf_other hget his hset, Use.read.injEq] at h
    exact h
  · rintro ⟨hget, his, hset, hsmall⟩
    rw [useOf_other hget his hset, hsmall]

end Property
end Hypermedia
