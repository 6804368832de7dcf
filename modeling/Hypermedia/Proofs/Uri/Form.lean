import Hypermedia.Proofs.Text.Split
import Hypermedia.Proofs.Uri.Percent
import Hypermedia.Uri.Form
/-!
# Queries read as forms

A query is read as a form: a list of names and values.  It is cut at the ampersands, each pair at its first equals sign;
plus signs stand for blanks and escapes for bytes, and bytes that are no UTF-8 are replaced.  What is read of a query
does not depend on how its characters are encoded (`pairs_encode`), and a pair that is appended to it is read behind its
own pairs, with all characters of the name and the value (`read_append`).
-/
namespace Hypermedia

namespace Percent

/-! ## Texts of bytes -/

/-- Whether the first byte leads three or four bytes of which the second one may be the second. -/
def leads (b c : UInt8) : Bool :=
  if b == 0xe0 then 0xa0 ≤ c && c ≤ 0xbf
  else if b == 0xed then 0x80 ≤ c && c ≤ 0x9f
  else if b == 0xf0 then 0x90 ≤ c && c ≤ 0xbf
  else if b == 0xf4 then 0x80 ≤ c && c ≤ 0x8f
  else 0xe1 ≤ b && b ≤ 0xf3 && 0x80 ≤ c && c ≤ 0xbf

/-- How many of the bytes that start with no character are replaced as one: as many as some character could start
with. -/
def brokenLength : List UInt8 → Nat
  | b :: c :: bs =>
    if leads b c then
      match bs with
      | d :: _ => if 0xf0 ≤ b && 0x80 ≤ d && d ≤ 0xbf then 3 else 2
      | [] => 2
    else 1
  | _ => 1

/-- The characters of bytes of which the first ones were read already. -/
def charsBehind : Nat → List UInt8 → List Char
  | _, [] => []
  | n + 1, _ :: bs => charsBehind n bs
  | 0, b :: bs =>
    match (b :: bs).toByteArray.utf8DecodeChar? 0 with
    | some c => c :: charsBehind (c.utf8Size - 1) bs
    | none => '\uFFFD' :: charsBehind (brokenLength (b :: bs) - 1) bs

/-- **The characters of bytes**, with a replacement for what is no UTF-8. -/
def lossy (bs : List UInt8) : List Char := charsBehind 0 bs

theorem charsBehind_append (bs : List UInt8) : ∀ read : List UInt8,
    charsBehind read.length (read ++ bs) = charsBehind 0 bs
  | [] => rfl
  | _ :: read => charsBehind_append bs read

theorem lossy_char (c : Char) (bs : List UInt8) : lossy (String.utf8EncodeChar c ++ bs) = c :: lossy bs := by
  have hlength := String.length_utf8EncodeChar c
  have hdecode : (String.utf8EncodeChar c ++ bs).toByteArray.utf8DecodeChar? 0 = some c := by
    rw [List.toByteArray_append]
    exact ByteArray.utf8DecodeChar?_utf8EncodeChar_append
  rcases hbytes : String.utf8EncodeChar c with _ | ⟨b, read⟩
  · exact absurd hbytes String.utf8EncodeChar_ne_nil
  rw [hbytes] at hlength hdecode
  have hread : c.utf8Size - 1 = read.length := by rw [← hlength]; rfl
  rw [List.cons_append] at hdecode
  rw [lossy, List.cons_append, charsBehind, hdecode]
  exact congrArg (c :: ·) (hread ▸ charsBehind_append bs read)

/-- **The bytes of a text are read as the text.** -/
theorem lossy_chars : ∀ cs : List Char, lossy (cs.flatMap String.utf8EncodeChar) = cs
  | [] => rfl
  | c :: cs => by rw [List.flatMap_cons, lossy_char, lossy_chars cs]

/-- Bytes between characters: a start without its end, one that was cut, and one that starts nothing. -/
example : lossy [0xe2, 0x82, 0x61, 0xf0, 0x9f, 0x98, 0xff, 0xc3, 0xa9] = "\uFFFDa\uFFFD\uFFFDé".toList := by
  decide +kernel

end Percent

namespace Form

/-! ## Reading -/

/-- A plus sign stands for a blank. -/
def blank (c : Char) : Char := if c == '+' then ' ' else c

/-- The text that a name or a value of a form stands for. -/
def text (cs : List Char) : String := String.ofList (Percent.lossy (Percent.decode (cs.map blank)))

/-- A name and a value; a pair without an equals sign has the empty value. -/
def readPair (cs : List Char) : String × String :=
  let r := Text.splitFirst '=' cs
  (text r.1, text (r.2.getD []))

/-- The pairs of a form. -/
def pairs (cs : List Char) : List (String × String) :=
  ((Text.splitAll (· == '&') cs).filter (!·.isEmpty)).map readPair

/-- The pairs of a query. -/
def read (query : Option String) : List (String × String) := pairs (query.getD "").toList

/-! ## Texts that were written -/

theorem map_blank_signs {cs : List Char} (h : ∀ c ∈ cs, c ∈ Percent.signs) : cs.map blank = cs := by
  have hsigns : ∀ c ∈ Percent.signs, blank c = c := List.all_iff_forall_prop.1 (by decide)
  exact (List.map_congr_left fun c hc => hsigns c (h c hc)).trans (List.map_id cs)

theorem ne_of_isPlain {c d : Char} (h : isPlain c = true) (hd : isPlain d = false) : c ≠ d := fun he => by
  rw [he, hd] at h
  cases h

theorem decode_encodeChar (c : Char) (cs : List Char) :
    Percent.decode ((encodeChar c).map blank ++ cs) = String.utf8EncodeChar c ++ Percent.decode cs := by
  unfold encodeChar
  split
  · rename_i hplain
    have hblank : blank c = c := if_neg (by simpa using ne_of_isPlain hplain (by decide : isPlain '+' = false))
    rw [List.map_singleton, hblank]
    exact Percent.decode_cons_of_ne (ne_of_isPlain hplain (by decide)) cs
  · split
    · rename_i hspace
      rw [eq_of_beq hspace]
      exact Percent.decode_cons_of_ne (by decide) cs
    · rw [map_blank_signs fun _ => Percent.mem_signs_of_mem_bytes, Percent.decode_bytes]

/-- **What was written of a text is read as the text.** -/
theorem text_encode (s : String) : text (encode s) = s := by
  have hdecode : ∀ cs : List Char,
      Percent.decode ((cs.flatMap encodeChar).map blank) = cs.flatMap String.utf8EncodeChar := by
    intro cs
    induction cs with
    | nil => rfl
    | cons c cs ih => rw [List.flatMap_cons, List.map_append, decode_encodeChar, ih, List.flatMap_cons]
  rw [text, encode, hdecode, Percent.lossy_chars, String.ofList_toList]

/-- No separator is written for a text. -/
theorem not_mem_encode {d : Char} (hplain : isPlain d = false) (hplus : d ≠ '+') (hsign : d ∉ Percent.signs)
    (s : String) : d ∉ encode s := fun hm => by
  obtain ⟨c, -, hd⟩ := List.mem_flatMap.1 hm
  unfold encodeChar at hd
  split at hd
  · rename_i hc
    exact ne_of_isPlain hc hplain (List.mem_singleton.1 hd).symm
  · split at hd
    · exact hplus (List.mem_singleton.1 hd)
    · exact hsign (Percent.mem_signs_of_mem_bytes hd)

theorem not_mem_pair (name value : String) : '&' ∉ pair name value := fun hm => by
  have hencode := not_mem_encode (d := '&') (by decide) (by decide) (by decide)
  rcases List.mem_append.1 hm with hm | hm
  · exact hencode name hm
  · exact (List.mem_cons.1 hm).elim (by decide) (hencode value)

theorem readPair_pair (name value : String) : readPair (pair name value) = (name, value) := by
  have hname : '=' ∉ encode name := not_mem_encode (by decide) (by decide) (by decide) name
  rw [readPair, pair, Text.splitFirst_append (encode value) hname, Option.getD_some, text_encode, text_encode]

theorem pairs_pair (name value : String) : pairs (pair name value) = [(name, value)] := by
  have hnone : ∀ c ∈ pair name value, (c == '&') = false := fun c hc =>
    beq_eq_false_iff_ne.2 fun he => not_mem_pair name value (he ▸ hc)
  have hne : (pair name value).isEmpty = false := by simp [pair]
  have hfilter : [pair name value].filter (!·.isEmpty) = [pair name value] := List.filter_cons_of_pos (by simp [hne])
  rw [pairs, Text.splitAll_of_none hnone, hfilter, List.map_singleton, readPair_pair]

theorem pairs_behind (cs ds : List Char) : pairs (cs ++ '&' :: ds) = pairs cs ++ pairs ds := by
  rw [pairs, Text.splitAll_behind (p := (· == '&')) (by decide), List.filter_append, List.map_append]
  rfl

/-- **A pair that is appended to a query is read behind the pairs of the query**, whatever these are. -/
theorem read_append (query : Option String) (name value : String) :
    read (some (append query name value)) = read query ++ [(name, value)] := by
  rcases query with _ | q
  · rw [append, read, Option.getD_some, String.toList_ofList, pairs_pair]
    rfl
  · rw [append]
    split
    · rename_i hempty
      rw [String.isEmpty_iff.1 hempty, read, Option.getD_some, String.toList_ofList, pairs_pair]
      rfl
    · rw [read, Option.getD_some, String.toList_ofList, pairs_behind, pairs_pair]
      rfl

/-! ## Queries that were encoded -/

theorem blank_of_ne {c : Char} (h : c ≠ '+') : blank c = c := if_neg (by simpa using h)

section

variable {set : Char → Bool}

/-- **Whether a blank is written as a plus sign or escaped**, the same bytes are read. -/
theorem decode_map_blank (hsigns : Percent.SparesSigns set) (hdigits : Percent.SparesDigits set)
    (hspace : set ' ' = true) (hplus : set '+' = false) (cs : List Char) :
    Percent.decode ((Percent.encode set cs).map blank) = Percent.decode (cs.map blank) := by
  have hspaceSigns : Percent.SparesSigns (· == ' ') := by decide
  have hspaceDigits : Percent.SparesDigits (· == ' ') := Percent.sparesDigits_of_ascii (by decide)
  -- both sides become the same text when the blanks are escaped
  have hchar : ∀ c,
      Percent.encode (· == ' ') ((Percent.escaped set c).map blank) = Percent.escaped set (blank c) := by
    intro c
    by_cases hc : c = '+'
    · rw [hc, Percent.escaped_of_free hplus (by decide)]
      exact (Percent.escaped_of_set hspace).symm
    · rw [blank_of_ne hc]
      have hkept : (Percent.escaped set c).map blank = Percent.escaped set c := by
        refine (List.map_congr_left fun d hd => blank_of_ne ?_).trans (List.map_id _)
        rcases Percent.mem_escaped hd with hsign | ⟨rfl, -⟩
        · exact fun he => absurd (he ▸ hsign) (by decide)
        · exact hc
      rw [hkept]
      refine Percent.encode_of_encoded fun d hd => ?_
      rcases Percent.mem_escaped hd with hsign | ⟨rfl, hfree, hascii⟩
      · exact ⟨hspaceSigns d hsign, Percent.toNat_lt_of_mem_signs hsign⟩
      · refine ⟨beq_eq_false_iff_ne.2 fun he => ?_, hascii⟩
        rw [he, hspace] at hfree
        cases hfree
  have hall : Percent.encode (· == ' ') ((Percent.encode set cs).map blank) = Percent.encode set (cs.map blank) := by
    induction cs with
    | nil => rfl
    | cons c cs ih =>
      rw [Percent.encode_eq_flatMap set, List.flatMap_cons, List.map_append, Percent.encode_eq_flatMap (· == ' '),
        List.flatMap_append, ← Percent.encode_eq_flatMap, ← Percent.encode_eq_flatMap, ← Percent.encode_eq_flatMap,
        hchar, ih]
      rfl
  rw [← Percent.decode_encode hspaceSigns hspaceDigits, hall, Percent.decode_encode hsigns hdigits]

end

section

variable (special : Bool)

theorem text_encode_query (cs : List Char) : text (Percent.encode (Percent.querySet special) cs) = text cs := by
  have hdigits : Percent.SparesDigits (Percent.querySet special) :=
    Percent.sparesDigits_of_ascii (by cases special <;> decide)
  have hspace : Percent.querySet special ' ' = true := by cases special <;> rfl
  have hplus : Percent.querySet special '+' = false := by cases special <;> rfl
  rw [text, decode_map_blank (Percent.sparesSigns_querySet special) hdigits hspace hplus]
  rfl

/-- No character is turned into a separator. -/
theorem not_mem_escaped {c d : Char} (hsign : d ∉ Percent.signs) (hne : c ≠ d) :
    d ∉ Percent.escaped (Percent.querySet special) c := fun hd =>
  (Percent.mem_escaped hd).elim hsign fun ⟨he, _⟩ => hne he.symm

theorem readPair_encode (cs : List Char) :
    readPair (Percent.encode (Percent.querySet special) cs) = readPair cs := by
  have hkept : Percent.escaped (Percent.querySet special) '=' = ['='] :=
    Percent.escaped_of_free (by cases special <;> rfl) (by decide)
  rw [readPair, Percent.encode_eq_flatMap,
    Text.splitFirst_flatMap hkept (fun c hc => not_mem_escaped special (by decide) hc) cs, readPair]
  rcases Text.splitFirst '=' cs with ⟨name, _ | value⟩
  · exact Prod.ext (text_encode_query special name) rfl
  · exact Prod.ext (text_encode_query special name) (text_encode_query special value)

/-- **What is read of a query does not depend on its encoding.** -/
theorem pairs_encode (cs : List Char) : pairs (Percent.encode (Percent.querySet special) cs) = pairs cs := by
  have hkept : Percent.escaped (Percent.querySet special) '&' = ['&'] :=
    Percent.escaped_of_free (by cases special <;> rfl) (by decide)
  have hsplit : Text.splitAll (· == '&') (Percent.encode (Percent.querySet special) cs) =
      (Text.splitAll (· == '&') cs).map (Percent.encode (Percent.querySet special)) :=
    Text.splitAll_flatMap (fun c hc => eq_of_beq hc ▸ hkept)
      (fun c hc d hd => beq_eq_false_iff_ne.2 fun he =>
        not_mem_escaped special (by decide) (beq_eq_false_iff_ne.1 hc) (he ▸ hd)) cs
  have hempty : (fun s : List Char => !s.isEmpty) ∘ Percent.encode (Percent.querySet special) = (!·.isEmpty) := by
    funext s
    rcases s with _ | ⟨c, s⟩
    · rfl
    · simpa using Percent.encode_ne_nil _ (List.cons_ne_nil c s)
  rw [pairs, hsplit, List.filter_map, hempty, List.map_map]
  exact List.map_congr_left fun s _ => readPair_encode special s

end

/-- A form with an empty pair, a pair without a value, a second equals sign, and escapes in both. -/
example : pairs "a=1&&b&c+d=%e2%82%ac=+%2B%".toList = [("a", "1"), ("b", ""), ("c d", "€= +%")] := by decide +kernel

end Form
end Hypermedia
