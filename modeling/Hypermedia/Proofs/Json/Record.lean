import Hypermedia.Proofs.Json.Fields
/-!
# Fields of decoded records

A record that was decoded from an object has in each of its fields what the object has there, as long as no other field
writes to the same place (`RecordDecoder.decode_field`).  What a plain decoder read is written as it was
(`Decoder.Undone`).
-/
namespace Hypermedia
namespace Json

/-! ## Plain values -/

namespace Decoder

variable {α : Type} {d : Decoder α} {write : α → Json} {v : Json}

/-- **What was read is written as it was.** -/
def Undone (d : Decoder α) (write : α → Json) : Prop := ∀ v a, d v = .ok a → write a = v

theorem undone_text : text.Undone .text := by
  intro v s h
  cases v <;> cases h
  rfl

theorem undone_unsigned (width : Nat) (wanted : String) : (unsigned width wanted).Undone ofNat := by
  intro v n h
  unfold unsigned integer at h
  split at h
  · split at h
    · rename_i i hi
      cases h
      rw [ofNat, Int.toNat_of_nonneg hi.1]
    · cases h
  · cases h

theorem lt_of_unsigned {width n : Nat} {wanted : String} (h : unsigned width wanted v = .ok n) :
    n < Nat.pow 2 width := by
  unfold unsigned integer at h
  split at h
  · split at h
    · rename_i i hi
      cases h
      have hpos : 0 < Nat.pow 2 width := Nat.two_pow_pos width
      have hle : i ≤ (Nat.pow 2 width : Nat) - 1 := hi.2
      omega
    · cases h
  · cases h

theorem of_optional {a : Option α} (h : optional d v = .ok a) :
    v = .null ∧ a = none ∨ ∃ b, a = some b ∧ d v = .ok b := by
  unfold optional at h
  split at h
  · cases h
    exact .inl ⟨rfl, rfl⟩
  · rcases hv : d v with e | b <;> rw [hv] at h <;> cases h
    exact .inr ⟨b, rfl, rfl⟩

end Decoder

namespace RecordDecoder

variable {ρ : Type} {P : ρ → Prop} {fds : List (FieldDecoder ρ)} {fd : FieldDecoder ρ} {key : String} {v : Json}

theorem of_needed {α : Type} {name : String} {d : Decoder α} {set : α → ρ → ρ} {r r' : ρ}
    (h : (FieldDecoder.needed name d set).read v r = .ok r') : ∃ a, d v = .ok a ∧ r' = set a r := by
  simp only [FieldDecoder.needed] at h
  rcases hv : d v with e | a <;> rw [hv] at h <;> cases h
  exact ⟨a, rfl, rfl⟩

theorem of_defaulted {α : Type} {name : String} {d : Decoder α} {set : α → ρ → ρ} {r r' : ρ}
    (h : (FieldDecoder.defaulted name d set).read v r = .ok r') : ∃ a, d v = .ok a ∧ r' = set a r :=
  of_needed (show (FieldDecoder.needed name d set).read v r = .ok r' from h)

/-- The first field of an object is read, or skipped if the record has none of its name; then come the others. -/
theorem of_readFields_cons {k : String} {fs : Fields} {r r' : ρ} (h : readFields fds ((k, v) :: fs) r = .ok r') :
    ∃ s, readFields fds fs s = .ok r' ∧
      ((∃ fd, fds.find? (·.name == k) = some fd ∧ fd.read v r = .ok s) ∨ fds.find? (·.name == k) = none ∧ s = r) := by
  simp only [readFields, bind, Except.bind] at h
  rcases hf : fds.find? (·.name == k) with _ | fd
  · rw [hf] at h
    exact ⟨r, h, .inr ⟨hf, rfl⟩⟩
  · rw [hf] at h
    rcases hv : fd.read v r with e | s
    · simp only [hv] at h
      cases h
    · simp only [hv] at h
      exact ⟨s, h, .inl ⟨fd, hf, hv⟩⟩

/-- Fields of other names keep what a field wrote. -/
theorem readFields_keeps_of_not_mem (others : ∀ fd ∈ fds, fd.name ≠ key → Keeps P fd) :
    ∀ {fs : Fields} {r r' : ρ}, key ∉ Fields.keys fs → readFields fds fs r = .ok r' → P r → P r'
  | [], r, r', _, h, hr => by
    cases h
    exact hr
  | (k, w) :: fs, r, r', hkey, h, hr => by
    obtain ⟨hne, hkey⟩ := not_or.1 (mt List.mem_cons.2 hkey)
    obtain ⟨s, hrest, ⟨fd, hf, hread⟩ | ⟨-, rfl⟩⟩ := of_readFields_cons h
    · have hname : fd.name = k := by simpa using List.find?_some hf
      have hs : P s := others fd (List.mem_of_find?_eq_some hf) (fun he => hne (by rw [← he, hname])) w r s hread hr
      exact readFields_keeps_of_not_mem others hkey hrest hs
    · exact readFields_keeps_of_not_mem others hkey hrest hr

theorem readFields_field (hfd : fds.find? (·.name == key) = some fd) (own : ∀ r r', fd.read v r = .ok r' → P r')
    (others : ∀ fd ∈ fds, fd.name ≠ key → Keeps P fd) :
    ∀ {fs : Fields} {r r' : ρ}, (Fields.keys fs).Nodup → Fields.find? fs key = some v → readFields fds fs r = .ok r' →
      P r'
  | [], _, _, _, hv, _ => by cases hv
  | (k, w) :: fs, r, r', hkeys, hv, h => by
    obtain ⟨hk, hkeys⟩ := List.nodup_cons.1 hkeys
    obtain ⟨s, hrest, hread⟩ := of_readFields_cons h
    rw [Fields.find?] at hv
    by_cases hkey : k = key
    · subst hkey
      rw [if_pos (beq_self_eq_true k)] at hv
      rw [Option.some.inj hv, hfd] at hread
      rcases hread with ⟨fd, hf, hread⟩ | ⟨hf, -⟩ <;> cases hf
      exact readFields_keeps_of_not_mem others hk hrest (own r s hread)
    · rw [if_neg (by simpa using hkey)] at hv
      exact readFields_field hfd own others hkeys hv hrest

theorem readFields_of_decode {d : RecordDecoder ρ} {fs : Fields} {r : ρ} (h : d.decode (.object fs) = .ok r) :
    readFields d.fields fs d.blank = .ok r := by
  simp only [decode, bind, Except.bind] at h
  rcases hv : readFields d.fields fs d.blank with e | s
  · simp only [hv] at h
    cases h
  · simp only [hv] at h
    split at h
    · cases h
    · exact h

/-- **A decoded record has what the object has in a field**: what the decoder of the field makes of it, wherever the
field stands in the object, since the other fields leave it alone. -/
theorem decode_field {d : RecordDecoder ρ} {fs : Fields} {r : ρ} (h : d.decode (.object fs) = .ok r)
    (hkeys : (Fields.keys fs).Nodup) (hv : Fields.find? fs key = some v)
    (hfd : d.fields.find? (·.name == key) = some fd) (own : ∀ r r', fd.read v r = .ok r' → P r')
    (others : ∀ fd ∈ d.fields, fd.name ≠ key → Keeps P fd) : P r :=
  readFields_field hfd own others hkeys hv (readFields_of_decode h)

/-- What a plain decoder reads into a field is written as the object has it. -/
theorem decode_needed {α : Type} {plain : Decoder α} {write : α → Json} {set : α → ρ → ρ} {d : RecordDecoder ρ}
    {fs : Fields} {r : ρ} (get : ρ → α) (get_set : ∀ a r, get (set a r) = a) (undone : plain.Undone write)
    (h : d.decode (.object fs) = .ok r) (hkeys : (Fields.keys fs).Nodup) (hv : Fields.find? fs key = some v)
    (hfd : d.fields.find? (·.name == key) = some (.needed key plain set))
    (others : ∀ fd ∈ d.fields, fd.name ≠ key → Keeps (fun r => write (get r) = v) fd) : write (get r) = v := by
  refine decode_field (P := fun r => write (get r) = v) h hkeys hv hfd (fun r r' hr => ?_) others
  obtain ⟨a, ha, rfl⟩ := of_needed hr
  rw [get_set]
  exact undone v a ha

end RecordDecoder
end Json
end Hypermedia
