import Hypermedia.Proofs.Json.Spelled
import Hypermedia.Proofs.Text.Split
import Hypermedia.ServerFault
import Mathlib
/-!
# What is read of a refusal

A body is read as a whole or not at all.  An object is read if timestamp and message are each given once at most, and as
texts or nulls (`Legible`); then a text that it gives as the message is the message.  Of any other object the message is
lost in the text of the body.  A list of at most two texts or nulls is read too, the timestamp first
(`ServerFault.message_read`).
-/
namespace Hypermedia
namespace ServerFault

open Json (Tree)

/-! ## Values -/

/-- The values that an object gives under a key. -/
def valuesOf (key : String) (fields : List (Option String × Tree)) : List Tree :=
  (fields.filter (·.1 == some key)).map (·.2)

/-- Values that a part of a body is read from: one at most, and then a text or null. -/
def Readable (vs : List Tree) : Prop := vs = [] ∨ vs = [.null] ∨ ∃ s, vs = [.text (some s)]

/-- The text among readable values. -/
def told : List Tree → Option String
  | [.text s] => s
  | _ => none

/-- An object that is read: its keys are texts without unpaired halves, and timestamp and message are readable. -/
structure Legible (fields : List (Option String × Tree)) : Prop where
  keys : ∀ f ∈ fields, f.1 ≠ none
  timestamp : Readable (valuesOf "timestamp" fields)
  message : Readable (valuesOf "message" fields)

/-- A list that is read: at most two texts or nulls. -/
structure Positional (items : List Tree) : Prop where
  short : items.length ≤ 2
  readable : ∀ t ∈ items, Readable [t]

theorem optionalText?_of_readable {t : Tree} (h : Readable [t]) : optionalText? t = some (told [t]) := by
  rcases h with h | h | ⟨s, h⟩ <;> cases h <;> rfl

theorem optionalText?_of_not_readable {t : Tree} (h : ¬ Readable [t]) : optionalText? t = none := by
  unfold optionalText?
  split
  · exact absurd (.inr (.inl rfl)) h
  · exact absurd (.inr (.inr ⟨_, rfl⟩)) h
  · rfl

theorem mem_valuesOf {key : String} {t : Tree} {fields : List (Option String × Tree)} :
    t ∈ valuesOf key fields ↔ (some key, t) ∈ fields := by
  simp [valuesOf]

theorem valuesOf_cons (key : String) (k : Option String) (t : Tree) (fs : List (Option String × Tree)) :
    valuesOf key ((k, t) :: fs) = if k = some key then t :: valuesOf key fs else valuesOf key fs := by
  unfold valuesOf
  rw [List.filter_cons]
  by_cases h : k = some key <;> simp [h]

/-- A text among readable values is all that they tell. -/
theorem told_of_mem {vs : List Tree} {s : String} (h : Readable vs) (hmem : .text (some s) ∈ vs) :
    told vs = some s := by
  rcases h with rfl | rfl | ⟨s', rfl⟩
  · cases hmem
  · cases List.mem_singleton.1 hmem
  · cases List.mem_singleton.1 hmem
    rfl

/-! ## Parts of a body -/

/-- What the values give for a part that may have been seen, and has a value already. -/
def partOf : (seen : Bool) → Option String → List Tree → Option (Option String)
  | _, known, [] => some known
  | true, _, _ :: _ => none
  | false, _, v :: vs => (optionalText? v).bind (partOf true · vs)

theorem partOf_of_readable {vs : List Tree} (h : Readable vs) : partOf false none vs = some (told vs) := by
  rcases h with rfl | rfl | ⟨s, rfl⟩ <;> rfl

theorem partOf_of_not_readable {vs : List Tree} (h : ¬ Readable vs) : partOf false none vs = none := by
  rcases vs with _ | ⟨v, _ | ⟨w, vs⟩⟩
  · exact absurd (.inl rfl) h
  · rw [partOf, optionalText?_of_not_readable h, Option.bind_none]
  · rw [partOf]
    cases optionalText? v <;> rfl

/-- The fields of an object give each part on its own. -/
theorem readFields?_eq : ∀ (fields : List (Option String × Tree)) (seenTimestamp seenMessage : Bool) (b : Body),
    readFields? fields seenTimestamp seenMessage b =
      if ∀ f ∈ fields, f.1 ≠ none then
        (partOf seenTimestamp b.timestamp (valuesOf "timestamp" fields)).bind fun timestamp =>
          (partOf seenMessage b.message (valuesOf "message" fields)).map fun message => ⟨timestamp, message⟩
      else none
  | [], _, _, b => by simp [readFields?, valuesOf, partOf]
  | (none, t) :: fs, _, _, b => by simp [readFields?]
  | (some k, t) :: fs, seenTimestamp, seenMessage, b => by
    -- a part that was seen must not come again, so that the flags and the body vary
    have hkeys : (∀ f ∈ (some k, t) :: fs, f.1 ≠ none) = ∀ f ∈ fs, f.1 ≠ none := by simp
    simp only [valuesOf_cons, hkeys]
    unfold readFields?
    by_cases htimestamp : k = "timestamp"
    · subst htimestamp
      rcases ht : optionalText? t with _ | v <;> cases seenTimestamp <;> simp [partOf, ht, readFields?_eq fs]
    by_cases hmessage : k = "message"
    · subst hmessage
      rcases ht : optionalText? t with _ | v <;> cases seenMessage <;> simp [partOf, ht, readFields?_eq fs]
    · simp [htimestamp, hmessage, readFields?_eq fs]

/-! ## Bodies -/

theorem ofTree?_legible {fields : List (Option String × Tree)} (h : Legible fields) :
    Body.ofTree? (.object fields) = some ⟨told (valuesOf "timestamp" fields), told (valuesOf "message" fields)⟩ := by
  rw [Body.ofTree?, readFields?_eq, if_pos h.keys, partOf_of_readable h.timestamp, partOf_of_readable h.message]
  rfl

theorem ofTree?_not_legible {fields : List (Option String × Tree)} (h : ¬ Legible fields) :
    Body.ofTree? (.object fields) = none := by
  rw [Body.ofTree?, readFields?_eq]
  by_cases hkeys : ∀ f ∈ fields, f.1 ≠ none
  · rw [if_pos hkeys]
    by_cases htimestamp : Readable (valuesOf "timestamp" fields)
    · have hmessage : ¬ Readable (valuesOf "message" fields) := fun hmessage => h ⟨hkeys, htimestamp, hmessage⟩
      rw [partOf_of_readable htimestamp, partOf_of_not_readable hmessage]
      rfl
    · rw [partOf_of_not_readable htimestamp]
      rfl
  · rw [if_neg hkeys]

theorem ofTree?_positional {items : List Tree} (h : Positional items) :
    Body.ofTree? (.array items) = some ⟨told (items.take 1), told (items.drop 1)⟩ := by
  obtain ⟨hshort, hreadable⟩ := h
  match items with
  | [] => rfl
  | [t] => rw [Body.ofTree?, optionalText?_of_readable (hreadable t List.mem_cons_self)]; rfl
  | [t, m] =>
    have hm : Readable [m] := hreadable m (List.mem_cons_of_mem t List.mem_cons_self)
    rw [Body.ofTree?, optionalText?_of_readable (hreadable t List.mem_cons_self), optionalText?_of_readable hm]
    rfl
  | _ :: _ :: _ :: _ => exact absurd hshort (by simp)

theorem ofTree?_not_positional {items : List Tree} (h : ¬ Positional items) : Body.ofTree? (.array items) = none := by
  match items with
  | [] => exact absurd ⟨by decide, by simp⟩ h
  | [t] =>
    have ht : ¬ Readable [t] := fun ht => h ⟨by simp, by simpa using ht⟩
    rw [Body.ofTree?, optionalText?_of_not_readable ht]
    rfl
  | [t, m] =>
    rw [Body.ofTree?]
    by_cases ht : Readable [t]
    · have hm : ¬ Readable [m] := fun hm => h ⟨by simp, by simpa using ⟨ht, hm⟩⟩
      rw [optionalText?_of_readable ht, optionalText?_of_not_readable hm]
      rfl
    · rw [optionalText?_of_not_readable ht]
      rfl
  | _ :: _ :: _ :: _ => rfl

/-! ## Refusals -/

theorem ofResponse_of_some {status : Nat} {body : String} {b : Body}
    (h : (Tree.parse? body).bind Body.ofTree? = some b) :
    ofResponse status body = { status, timestamp := b.timestamp, message := b.message.getD body } := by
  unfold ofResponse
  rw [h]
  obtain ⟨timestamp, _ | message⟩ := b <;> rfl

theorem ofResponse_of_none {status : Nat} {body : String} (h : (Tree.parse? body).bind Body.ofTree? = none) :
    ofResponse status body = { status, message := Text.trim body } := by
  unfold ofResponse
  rw [h]

theorem isCore_trim (body : String) : Text.IsCore Text.isBlank body.toList (Text.trim body).toList := by
  rw [← Text.stripBoth_eq_iff, Text.trim, String.toList_ofList]

theorem ink_trim (body : String) : Json.ink (Text.trim body).toList = Json.ink body.toList :=
  (isCore_trim body).countP_eq.symm

/-- **What is read of a refusal.**  A legible object gives its timestamp and its message, and the text of the body where
it gives no message; of other objects the whole text is kept, so that a message in it is told just if the object is
legible.  Lists of at most two texts or nulls are read by position, and nothing else is read: the message is the text
without the white space around it. -/
theorem message_read (status : Nat) (body : String) :
    (∀ fields, Tree.parse? body = some (.object fields) →
      (Legible fields → ofResponse status body =
        { status, timestamp := told (valuesOf "timestamp" fields),
          message := (told (valuesOf "message" fields)).getD body }) ∧
      (¬ Legible fields → ofResponse status body = { status, message := Text.trim body }) ∧
      ∀ m, (some "message", .text (some m)) ∈ fields → ((ofResponse status body).message = m ↔ Legible fields)) ∧
    (∀ items, Tree.parse? body = some (.array items) → Positional items → ofResponse status body =
      { status, timestamp := told (items.take 1), message := (told (items.drop 1)).getD body }) ∧
    ((∀ fields, Tree.parse? body ≠ some (.object fields)) →
      (∀ items, Tree.parse? body = some (.array items) → ¬ Positional items) →
      ofResponse status body = { status, message := Text.trim body }) ∧
    Text.IsCore Text.isBlank body.toList (Text.trim body).toList := by
  refine ⟨fun fields hbody => ?_, fun items hbody h => ?_, fun hobject harray => ?_, isCore_trim body⟩
  · have hlegible : Legible fields → ofResponse status body =
        { status, timestamp := told (valuesOf "timestamp" fields),
          message := (told (valuesOf "message" fields)).getD body } := fun h =>
      ofResponse_of_some (by rw [hbody, Option.bind_some, ofTree?_legible h])
    have hillegible : ¬ Legible fields → ofResponse status body = { status, message := Text.trim body } := fun h =>
      ofResponse_of_none (by rw [hbody, Option.bind_some, ofTree?_not_legible h])
    refine ⟨hlegible, hillegible, fun m hm => ⟨fun heq => ?_, fun h => ?_⟩⟩
    · by_contra h
      -- the whole text spells more than the message in it, also when it is trimmed
      rw [hillegible h] at heq
      have hless := Json.Tree.ink_lt_of_member hbody hm
      rw [← heq, ink_trim] at hless
      exact Nat.lt_irrefl _ hless
    · rw [hlegible h, told_of_mem h.message (mem_valuesOf.2 hm)]
      rfl
  · exact ofResponse_of_some (by rw [hbody, Option.bind_some, ofTree?_positional h])
  · refine ofResponse_of_none ?_
    rcases htree : Tree.parse? body with _ | tree
    · rfl
    rw [Option.bind_some]
    cases tree with
    | object fields => exact absurd htree (hobject fields)
    | array items => exact ofTree?_not_positional (harray items htree)
    | null | bool _ | number _ | text _ => rfl

/-- A message that is given with the time of the refusal. -/
def stamped : String := "\x7b\"timestamp\":\"2024-01-01T00:00:00Z\",\"message\":\"duplicate key\"\x7d"

def stampedFields : List (Option String × Tree) :=
  [(some "timestamp", .text (some "2024-01-01T00:00:00Z")), (some "message", .text (some "duplicate key"))]

/-- A message whose timestamp is a number. -/
def numbered : String := "\x7b\"timestamp\":1,\"message\":\"duplicate key\"\x7d"

def numberedFields : List (Option String × Tree) :=
  [(some "timestamp", .number ⟨false, ['1'], [], none⟩), (some "message", .text (some "duplicate key"))]

/-- Timestamp and message in a list. -/
def listed : String := "[\"2024-01-01T00:00:00Z\",\"duplicate key\"]"

theorem parse?_stamped : Tree.parse? stamped = some (.object stampedFields) := by cbv

theorem parse?_numbered : Tree.parse? numbered = some (.object numberedFields) := by cbv

theorem parse?_listed : Tree.parse? listed = some (.array (stampedFields.map (·.2))) := by cbv

theorem not_legible_numbered : ¬ Legible numberedFields := by
  rintro ⟨-, h | h | ⟨s, h⟩, -⟩ <;> cases h

theorem duplicate_key_read :
    (ofResponse 409 stamped).message = "duplicate key" ∧
    ofResponse 409 numbered = { status := 409, message := numbered } ∧
    ofResponse 409 listed = { status := 409, timestamp := some "2024-01-01T00:00:00Z", message := "duplicate key" } ∧
    ofResponse 502 "upstream down\n" = { status := 502, message := "upstream down" } := by
  have hlegible : Legible stampedFields :=
    ⟨by decide, .inr (.inr ⟨_, rfl⟩), .inr (.inr ⟨_, rfl⟩)⟩
  have hpositional : Positional (stampedFields.map (·.2)) :=
    ⟨Nat.le_refl 2, List.forall_mem_cons.2 ⟨.inr (.inr ⟨_, rfl⟩), List.forall_mem_singleton.2 (.inr (.inr ⟨_, rfl⟩))⟩⟩
  have hplain : Tree.parse? "upstream down\n" = none := by cbv
  obtain ⟨hstamped, -⟩ := message_read 409 stamped
  obtain ⟨hnumbered, -⟩ := message_read 409 numbered
  obtain ⟨-, hlisted, -⟩ := message_read 409 listed
  obtain ⟨-, -, hother, -⟩ := message_read 502 "upstream down\n"
  refine ⟨?_, ?_, hlisted _ parse?_listed hpositional, ?_⟩
  · exact ((hstamped _ parse?_stamped).2.2 "duplicate key" (.tail _ (.head _))).2 hlegible
  · rw [(hnumbered _ parse?_numbered).2.1 not_legible_numbered]
    decide +kernel
  · rw [hother (by simp [hplain]) (by simp [hplain])]
    decide +kernel

/-- **A message can be lost, and a text can be taken for one**: a timestamp that is a number hides the message beside
it, and the second text of a list counts as a message. -/
theorem message_lost :
    Tree.parse? numbered = some (.object numberedFields) ∧
    (some "message", .text (some "duplicate key")) ∈ numberedFields ∧
    (ofResponse 409 numbered).message ≠ "duplicate key" ∧
    Tree.parse? listed = some (.array (stampedFields.map (·.2))) ∧
    (ofResponse 409 listed).message ≠ Text.trim listed ∧ (ofResponse 409 listed).timestamp ≠ none :=
  ⟨parse?_numbered, .tail _ (.head _), by decide +kernel, parse?_listed, by decide +kernel, by decide +kernel⟩

end ServerFault
end Hypermedia
