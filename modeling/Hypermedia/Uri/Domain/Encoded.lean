import Hypermedia.Text.Split
/-!
# Encoded labels

A label beyond ASCII is encoded in ASCII: its ASCII characters first, then one delta for each of the others, in the
order of their code points.  A delta counts the places that the next character skips, over all lower code points; its
digits are of mixed bases, which a bias adapts to the deltas before.
-/
namespace Hypermedia
namespace Domain
namespace Encoded

/-- The value of a digit: letters in either case come before decimal digits. -/
def digit? (c : Char) : Option Nat :=
  if 'a' ≤ c && c ≤ 'z' then some (c.toNat - 97)
  else if 'A' ≤ c && c ≤ 'Z' then some (c.toNat - 65)
  else if '0' ≤ c && c ≤ '9' then some (c.toNat - 22)
  else none

def digit (d : Nat) : Char := Char.ofNat (if d < 26 then 97 + d else 22 + d)

/-- The least value of a digit behind which another one follows. -/
def threshold (bias k : Nat) : Nat :=
  if k ≤ bias then 1 else if bias + 26 ≤ k then 26 else k - bias

theorem threshold_bounds (bias k : Nat) : 1 ≤ threshold bias k ∧ threshold bias k ≤ 26 := by
  unfold threshold; grind

def settle (delta k : Nat) : Nat :=
  if 455 < delta then settle (delta / 35) (k + 36) else k + 36 * delta / (delta + 38)
termination_by delta
decreasing_by exact Nat.div_lt_self (by omega) (by omega)

/-- The bias behind a delta that made the given number of characters. -/
def adapt (delta count : Nat) (first : Bool) : Nat :=
  let scaled := if first then delta / 700 else delta / 2
  settle (scaled + scaled / count) 0

def delta? (bias : Nat) : List Char → (k weight value : Nat) → Option (Nat × List Char)
  | [], _, _, _ => none
  | c :: cs, k, weight, value =>
    (digit? c).bind fun d =>
      let t := threshold bias k
      if d < t then some (value + d * weight, cs)
      else delta? bias cs (k + 36) (weight * (36 - t)) (value + d * weight)

theorem length_of_delta? {bias : Nat} {cs rest : List Char} {k weight value n : Nat}
    (h : delta? bias cs k weight value = some (n, rest)) : rest.length < cs.length := by
  induction cs generalizing k weight value with
  | nil => simp [delta?] at h
  | cons c cs ih =>
    obtain ⟨d, _, h⟩ := Option.bind_eq_some_iff.1 h
    simp only at h
    split at h
    · simp only [Option.some.injEq, Prod.mk.injEq] at h; simp [← h.2]
    · have := ih h; simp only [List.length_cons]; omega

/-- How far a label is decoded: its characters, the code point and the place of the last one, and the bias. -/
structure Progress where
  label : List Char
  code : Nat := 128
  place : Nat := 0
  bias : Nat := 72

/-- The progress behind a delta; there is none when it leads beyond the code points. -/
def Progress.insert? (p : Progress) (delta : Nat) : Option Progress :=
  let count := p.label.length + 1
  let code := p.code + (p.place + delta) / count
  let place := (p.place + delta) % count
  if Nat.isValidChar code then
    some ⟨p.label.insertIdx place (Char.ofNat code), code, place + 1, adapt delta count (p.place == 0)⟩
  else none

def decodeDeltas (p : Progress) (cs : List Char) : Option (List Char) :=
  if cs.isEmpty then some p.label
  else
    match _h : delta? p.bias cs 36 1 0 with
    | none => none
    | some (d, rest) => (p.insert? d).bind fun q => decodeDeltas q rest
termination_by cs.length
decreasing_by exact length_of_delta? (by assumption)

/-- The label that is encoded; there has to be a character beyond ASCII in it. -/
def decode? (cs : List Char) : Option (List Char) :=
  let digits := (cs.reverse.takeWhile (· != '-')).reverse
  let plain := (cs.reverse.dropWhile (· != '-')).reverse
  if digits.isEmpty || plain == ['-'] then none else decodeDeltas { label := plain.dropLast } digits

def deltaDigits (bias k n : Nat) : List Char :=
  let t := threshold bias k
  if n < t then [digit n] else digit (t + (n - t) % (36 - t)) :: deltaDigits bias (k + 36) ((n - t) / (36 - t))
termination_by n
decreasing_by
  have h := threshold_bounds bias k
  exact Nat.lt_of_le_of_lt (Nat.div_le_self _ _) (by omega)

/-- How far a label is encoded: what is written, the delta so far, the bias, and the number of characters handled. -/
structure Writing where
  text : List Char
  delta : Nat := 0
  bias : Nat := 72
  count : Nat

def Writing.pass (first : Nat) (w : Writing) (code : Nat) (c : Char) : Writing :=
  if c.toNat < code then { w with delta := w.delta + 1 }
  else if c.toNat == code then
    ⟨w.text ++ deltaDigits w.bias 36 w.delta, 0, adapt w.delta (w.count + 1) (w.count == first), w.count + 1⟩
  else w

/-- Writes the characters with the code points of a list, the first of which is not below `low`. -/
def encodeCodes (first : Nat) (label : List Char) : Writing → (low : Nat) → List Nat → List Char
  | w, _, [] => w.text
  | w, low, code :: codes =>
    let w := { w with delta := w.delta + (code - low) * (w.count + 1) }
    let w := label.foldl (fun w c => w.pass first code c) w
    encodeCodes first label { w with delta := w.delta + 1 } (code + 1) codes

def encode (label : List Char) : List Char :=
  let plain := label.filter fun c => c.toNat < 128
  let codes := ((label.filter fun c => 128 ≤ c.toNat).map Char.toNat).mergeSort.eraseDups
  encodeCodes plain.length label
    { text := if plain.isEmpty then [] else plain ++ ['-'], count := plain.length } 128 codes

end Encoded
end Domain
end Hypermedia
