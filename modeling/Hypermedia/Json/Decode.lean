import Hypermedia.Json.Print
/-!
# Decoding JSON into records

A decoder turns a JSON value into a value of a type or says what does not fit.  A record is decoded from an object,
where unknown keys are ignored and the fields are read in the order of the document, or from an array, which lists the
fields in the order of their declaration.
-/
namespace Hypermedia
namespace Json

inductive Found where
  | null
  | bool (b : Bool)
  | number (n : Number.Value)
  | text (s : String)
  | sequence
  | map
  deriving DecidableEq

def found : Json → Found
  | .null => .null
  | .bool b => .bool b
  | .number n => .number n
  | .text s => .text s
  | .array _ => .sequence
  | .object _ => .map

def Found.describe : Found → String
  | .null => "null"
  | .bool true => "boolean `true`"
  | .bool false => "boolean `false`"
  | .number (.integer i) => "integer `" ++ String.ofList (integerChars i) ++ "`"
  | .number (.double d) => "floating point `" ++ String.ofList (d.text numberLayout) ++ "`"
  | .text s => "string " ++ Text.quoted s
  | .sequence => "sequence"
  | .map => "map"

inductive DecodeError where
  /-- A value of another type stands there. -/
  | wrongType (found : Found) (wanted : String)
  /-- A value of the right type is out of range. -/
  | wrongValue (found : Found) (wanted : String)
  | missingField (name : String)
  /-- An array ends before the field with this index. -/
  | tooShort (index : Nat) (record : String) (fields : Nat)
  /-- An array of this length goes on behind the last field. -/
  | tooLong (length : Nat)
  | unknownVariant (name : String) (known : List String)
  /-- No member of a union takes the value. -/
  | noVariant (union : String)
  /-- A batch member names a kind that its type does not accept. -/
  | foreignKind (kind declared : String)
  deriving DecidableEq

def natText (n : Nat) : String := String.ofList (Nat.toDigits 10 n)

def DecodeError.message : DecodeError → String
  | .wrongType f wanted => "invalid type: " ++ f.describe ++ ", expected " ++ wanted
  | .wrongValue f wanted => "invalid value: " ++ f.describe ++ ", expected " ++ wanted
  | .missingField name => "missing field `" ++ name ++ "`"
  | .tooShort i record n =>
    "invalid length " ++ natText i ++ ", expected struct " ++ record ++ " with " ++ natText n ++
      (if n == 1 then " element" else " elements")
  | .tooLong n => "invalid length " ++ natText n ++ ", expected fewer elements in array"
  | .unknownVariant name known =>
    "unknown variant `" ++ name ++ "`, expected " ++ " or ".intercalate (known.map fun k => "`" ++ k ++ "`")
  | .noVariant union => "data did not match any variant of untagged enum " ++ union
  | .foreignKind kind declared => kind ++ " is not a subtype of " ++ declared

abbrev Decoder (α : Type) := Json → Except DecodeError α

namespace Decoder

def any : Decoder Json := .ok

def text : Decoder String
  | .text s => .ok s
  | v => .error (.wrongType v.found "a string")

def bool : Decoder Bool
  | .bool b => .ok b
  | v => .error (.wrongType v.found "a boolean")

/-- An integer between `low` and `high`; doubles are refused even when they are whole. -/
def integer (low high : Int) (wanted : String) : Decoder Int
  | .number (.integer i) =>
    if low ≤ i ∧ i ≤ high then .ok i else .error (.wrongValue (.number (.integer i)) wanted)
  | v => .error (.wrongType v.found wanted)

def unsigned (width : Nat) (wanted : String) : Decoder Nat :=
  fun v => (integer 0 (Nat.pow 2 width - 1) wanted v).map Int.toNat

def optional {α : Type} (d : Decoder α) : Decoder (Option α)
  | .null => .ok none
  | v => (d v).map some

def each {α : Type} (d : Decoder α) : List Json → Except DecodeError (List α)
  | [] => .ok []
  | v :: vs => do
    let a ← d v
    let as ← each d vs
    return a :: as

def list {α : Type} (d : Decoder α) : Decoder (List α)
  | .array items => each d items
  | v => .error (.wrongType v.found "a sequence")

def fields : Decoder Fields
  | .object fs => .ok fs
  | v => .error (.wrongType v.found "a map")

end Decoder

structure FieldDecoder (ρ : Type) where
  name : String
  /-- What an object without the field reports. -/
  required : Bool
  /-- Whether an array may end before the field. -/
  mayEnd : Bool
  read : Json → ρ → Except DecodeError ρ

namespace FieldDecoder

def needed {ρ α : Type} (name : String) (d : Decoder α) (set : α → ρ → ρ) : FieldDecoder ρ :=
  ⟨name, true, false, fun v r => (d v).map (set · r)⟩

def defaulted {ρ α : Type} (name : String) (d : Decoder α) (set : α → ρ → ρ) : FieldDecoder ρ :=
  ⟨name, false, true, fun v r => (d v).map (set · r)⟩

end FieldDecoder

/-- How a record is decoded: its name, its value before any field is read, and its fields in declaration order. -/
structure RecordDecoder (ρ : Type) where
  name : String
  blank : ρ
  fields : List (FieldDecoder ρ)

namespace RecordDecoder

variable {ρ : Type}

def readFields (fds : List (FieldDecoder ρ)) : Fields → ρ → Except DecodeError ρ
  | [], r => .ok r
  | (k, v) :: fs, r => do
    let r ← match fds.find? (·.name == k) with
      | some fd => fd.read v r
      | none => .ok r
    readFields fds fs r

/-- The first required field, in declaration order, that an object lacks. -/
def missing? (fds : List (FieldDecoder ρ)) (fs : Fields) : Option String :=
  (fds.find? fun fd => fd.required && (Fields.find? fs fd.name).isNone).map (·.name)

/-- Reads the members of an array into the fields; `index` fields have been read. -/
def readItems (name : String) (total length : Nat) :
    Nat → List (FieldDecoder ρ) → List Json → ρ → Except DecodeError ρ
  | _, [], [], r => .ok r
  | _, [], _ :: _, _ => .error (.tooLong length)
  | index, fd :: fds, [], r =>
    if fd.mayEnd then readItems name total length (index + 1) fds [] r else .error (.tooShort index name total)
  | index, fd :: fds, v :: vs, r => do
    let r ← fd.read v r
    readItems name total length (index + 1) fds vs r

def decode (d : RecordDecoder ρ) : Decoder ρ
  | .object fs => do
    let r ← readFields d.fields fs d.blank
    match missing? d.fields fs with
    | some name => .error (.missingField name)
    | none => .ok r
  | .array items => readItems d.name d.fields.length items.length 0 d.fields items d.blank
  | v => .error (.wrongType v.found ("struct " ++ d.name))

/-! ## What every decoded record has -/

/-- Whether reading a field keeps what `P` says of a record. -/
def Keeps (P : ρ → Prop) (fd : FieldDecoder ρ) : Prop :=
  ∀ v r r', fd.read v r = .ok r' → P r → P r'

theorem readFields_keeps {P : ρ → Prop} {fds : List (FieldDecoder ρ)} (h : ∀ fd ∈ fds, Keeps P fd) :
    ∀ (fs : Fields) (r r' : ρ), readFields fds fs r = .ok r' → P r → P r'
  | [], r, r', hr, hp => by
    simp only [readFields, Except.ok.injEq] at hr
    exact hr ▸ hp
  | (k, v) :: fs, r, r', hr, hp => by
    simp only [readFields, bind, Except.bind] at hr
    cases hf : fds.find? (·.name == k) with
    | none =>
      rw [hf] at hr
      exact readFields_keeps h fs r r' hr hp
    | some fd =>
      rw [hf] at hr
      cases hv : fd.read v r with
      | error e => simp [hv] at hr
      | ok s =>
        simp only [hv] at hr
        exact readFields_keeps h fs s r' hr (h fd (List.mem_of_find?_eq_some hf) v r s hv hp)

theorem readItems_keeps {P : ρ → Prop} (name : String) (total length : Nat) :
    ∀ (index : Nat) (fds : List (FieldDecoder ρ)) (vs : List Json) (r r' : ρ), (∀ fd ∈ fds, Keeps P fd) →
      readItems name total length index fds vs r = .ok r' → P r → P r'
  | _, [], [], r, r', _, hr, hp => by
    simp only [readItems, Except.ok.injEq] at hr
    exact hr ▸ hp
  | _, [], _ :: _, _, _, _, hr, _ => by simp [readItems] at hr
  | i, fd :: fds, [], r, r', h, hr, hp => by
    simp only [readItems] at hr
    split at hr
    · exact readItems_keeps name total length _ fds [] r r' (fun f hf => h f (List.mem_cons_of_mem _ hf)) hr hp
    · cases hr
  | i, fd :: fds, v :: vs, r, r', h, hr, hp => by
    simp only [readItems, bind, Except.bind] at hr
    cases hv : fd.read v r with
    | error e => rw [hv] at hr; cases hr
    | ok s =>
      rw [hv] at hr
      exact readItems_keeps name total length _ fds vs s r' (fun f hf => h f (List.mem_cons_of_mem _ hf)) hr
        (h fd (by simp) v r s hv hp)

/-- **What the record says before any field is read, and every field keeps, is said by every decoded record.** -/
theorem decode_keeps {P : ρ → Prop} (d : RecordDecoder ρ) (blank : P d.blank) (h : ∀ fd ∈ d.fields, Keeps P fd)
    {v : Json} {r : ρ} (hr : d.decode v = .ok r) : P r := by
  unfold decode at hr
  split at hr
  · rename_i fs
    cases hv : readFields d.fields fs d.blank with
    | error e => simp [hv, bind, Except.bind] at hr
    | ok s =>
      simp only [hv, bind, Except.bind] at hr
      split at hr
      · cases hr
      · cases hr
        exact readFields_keeps h fs _ _ hv blank
  · exact readItems_keeps _ _ _ _ _ _ _ _ h hr blank
  · cases hr

theorem keeps_needed {α : Type} {P : ρ → Prop} {name : String} {d : Decoder α} {set : α → ρ → ρ}
    (h : ∀ a r, P r → P (set a r)) : Keeps P (.needed name d set) := by
  intro v r r' hr hp
  simp only [FieldDecoder.needed] at hr
  cases hv : d v with
  | error e => rw [hv] at hr; cases hr
  | ok a => rw [hv] at hr; cases hr; exact h a r hp

theorem keeps_defaulted {α : Type} {P : ρ → Prop} {name : String} {d : Decoder α} {set : α → ρ → ρ}
    (h : ∀ a r, P r → P (set a r)) : Keeps P (.defaulted name d set) := by
  intro v r r' hr hp
  simp only [FieldDecoder.defaulted] at hr
  cases hv : d v with
  | error e => rw [hv] at hr; cases hr
  | ok a => rw [hv] at hr; cases hr; exact h a r hp

end RecordDecoder
end Json
end Hypermedia
