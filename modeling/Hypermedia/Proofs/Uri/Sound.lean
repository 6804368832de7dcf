import Hypermedia.Proofs.Uri.Authority
import Hypermedia.Proofs.Uri.Path
/-!
# Addresses that were read

An address that was read has parts that fit together (`Uri.Sound`): the scheme is written small, credentials, host,
path, query and fragment are encoded as their places demand, and the path has the form that goes with the scheme and
with having an authority or not (`Uri.Shape`).  Whatever text is read, the address is sound (`sound_of_parse?`).
-/
namespace Hypermedia
namespace Uri

open Percent (Encoded)
open Hypermedia.Path (AllSound Segment)

/-- **A scheme that was read**: small letters, digits and three signs, behind a letter. -/
structure IsScheme (scheme : String) : Prop where
  first : scheme.toList.head?.any Char.isAlpha = true
  chars : ∀ c ∈ scheme.toList, isSchemeChar c = true ∧ c.toLower = c

/-- An address with an authority and a path of segments that were read. -/
structure Hosted (u : Uri) (a : Authority) (segments : List Segment) : Prop where
  authority : u.authority = some a
  sound : a.Sound u.scheme
  dotted : u.dotted = false
  path : u.path = String.ofList (Path.chars segments)
  segments : AllSound u.isSpecial segments

/-- **The form of an address that was read.**  On the web there is a host and a path; a file may have a host, but no
more before its path, which does not start with empty segments; other addresses have an authority, or a path behind a
slash, or an opaque path, which ends in no blank that would be lost at the end of a text. -/
inductive Shape (u : Uri) : Prop
  | web {a : Authority} {segments : List Segment} : u.Hosted a segments → u.isSpecial = true → u.scheme ≠ "file" →
      a.host.isSome = true → segments ≠ [] → Shape u
  | file {a : Authority} {segments : List Segment} : u.Hosted a segments → u.scheme = "file" → segments ≠ [] →
      Path.dropEmpty segments = segments → a = { host := a.host } → a.host ≠ some (.name "localhost") → Shape u
  | hosted {a : Authority} {segments : List Segment} : u.Hosted a segments → u.isSpecial = false → Shape u
  | rooted {segments : List Segment} : u.authority = none → u.isSpecial = false → segments ≠ [] →
      AllSound false segments → u.path = String.ofList (Path.chars segments) →
      u.dotted = (Text.afterStart? ['/', '/'] u.path.toList).isSome → Shape u
  | bare : u.authority = none → u.isSpecial = false → u.dotted = false → Encoded Percent.control u.path.toList →
      (∀ c ∈ u.path.toList, endsPath c = false) → u.path.toList.head? ≠ some '/' →
      (u.query = none → u.fragment = none → u.path.toList.getLast? ≠ some ' ') → Shape u

/-- **An address that was read.** -/
structure Sound (u : Uri) : Prop where
  scheme : IsScheme u.scheme
  shape : u.Shape
  query : ∀ q, u.query = some q → Encoded (Percent.querySet u.isSpecial) q.toList
  fragment : ∀ f, u.fragment = some f → Encoded Percent.fragmentSet f.toList

variable {u v : Uri} {a : Authority} {segments : List Segment} {scheme : String}

/-! ## The parts of an address that is read -/

theorem toNat_lt_of_isSchemeChar {c : Char} (h : isSchemeChar c = true) : c.toNat < 0x80 := by
  simp only [isSchemeChar, Char.isAlphanum, Bool.or_eq_true, beq_iff_eq] at h
  rcases h with ((hplain | rfl) | rfl) | rfl
  · rcases hplain with hletter | hdigit
    · exact Text.toNat_lt_of_isAlpha hletter
    · exact Text.toNat_lt_of_isDigit hdigit
  all_goals decide

theorem isScheme_of_scheme? {cs rest : List Char} (h : scheme? cs = some (scheme, rest)) : IsScheme scheme := by
  rcases cs with _ | ⟨c, cs⟩
  · cases h
  rw [scheme?] at h
  split at h
  · rename_i hc
    split at h
    · cases h
      obtain ⟨hfirst, hchar⟩ := Text.of_ascii
        (P := fun c => c.isAlpha = true → c.toLower.isAlpha = true ∧ isSchemeChar c = true) (by decide +kernel)
        (Text.toNat_lt_of_isAlpha hc) hc
      refine ⟨?_, fun d hd => ?_⟩
      · rw [String.toList_ofList, List.takeWhile_cons, if_pos hchar]
        simpa using hfirst
      · rw [String.toList_ofList] at hd
        obtain ⟨e, he, rfl⟩ := List.mem_map.1 hd
        have hmem : isSchemeChar e = true := List.all_eq_true.1 List.all_takeWhile e he
        exact Text.of_ascii
          (P := fun c => isSchemeChar c = true → isSchemeChar c.toLower = true ∧ c.toLower.toLower = c.toLower)
          (by decide +kernel) (toNat_lt_of_isSchemeChar hmem) hmem
    · cases h
  · cases h

theorem withTail_eq (v : Uri) (cs : List Char) :
    withTail v cs = { v with query := (withTail v cs).query, fragment := (withTail v cs).fragment } := by
  unfold withTail
  split <;> rfl

theorem encoded_withTail (v : Uri) (cs : List Char) :
    (∀ q, (withTail v cs).query = some q → Encoded (Percent.querySet v.isSpecial) q.toList) ∧
      ∀ f, (withTail v cs).fragment = some f → Encoded Percent.fragmentSet f.toList := by
  have hquery := Percent.encoded_encode (Percent.sparesSigns_querySet v.isSpecial)
  have hfragment := Percent.encoded_encode Percent.sparesSigns_fragmentSet
  unfold withTail
  split
  · rename_i qs
    refine ⟨fun q hq => ?_, fun f hf => ?_⟩
    · cases hq
      rw [String.toList_ofList]
      exact hquery _
    · obtain ⟨fs, -, hf⟩ := Option.bind_eq_some_iff.1 hf
      cases hf
      rw [String.toList_ofList]
      exact hfragment _
  · refine ⟨fun q hq => (by cases hq), fun f hf => ?_⟩
    cases hf
    rw [String.toList_ofList]
    exact hfragment _
  · exact ⟨fun q hq => (by cases hq), fun f hf => (by cases hf)⟩

/-- The query and the fragment do not count for the form of an address, unless its path is opaque. -/
theorem sound_withTail (hscheme : IsScheme v.scheme) (cs : List Char)
    (hshape : ∀ query fragment, Shape { v with query, fragment }) : Sound (withTail v cs) := by
  obtain ⟨hquery, hfragment⟩ := encoded_withTail v cs
  rw [withTail_eq]
  exact ⟨hscheme, hshape _ _, hquery, hfragment⟩

theorem dropEmpty_ne_nil : ∀ {segments : List Segment}, segments ≠ [] → Path.dropEmpty segments ≠ []
  | [], h => absurd rfl h
  | [s], _ => by cases s <;> simp [Path.dropEmpty]
  | [] :: t :: ss, _ => by
    rw [Path.dropEmpty]
    exact dropEmpty_ne_nil (List.cons_ne_nil t ss)
  | (_ :: _) :: _ :: _, _ => by simp [Path.dropEmpty]

theorem dropEmpty_dropEmpty : ∀ segments : List Segment, Path.dropEmpty (Path.dropEmpty segments) =
    Path.dropEmpty segments
  | [] => rfl
  | [s] => by cases s <;> simp [Path.dropEmpty]
  | [] :: t :: ss => by
    rw [Path.dropEmpty]
    exact dropEmpty_dropEmpty (t :: ss)
  | (_ :: _) :: _ :: _ => by simp [Path.dropEmpty]

theorem mem_of_mem_dropEmpty {s : Segment} : ∀ {segments : List Segment}, s ∈ Path.dropEmpty segments → s ∈ segments
  | [], h => h
  | [t], h => by cases t <;> simpa [Path.dropEmpty] using h
  | [] :: t :: ss, h => by
    rw [Path.dropEmpty] at h
    exact List.mem_cons_of_mem _ (mem_of_mem_dropEmpty h)
  | (_ :: _) :: _ :: _, h => by simpa [Path.dropEmpty] using h

/-- **An address that is put together from an authority and segments is sound.** -/
theorem sound_withSegments (hscheme : IsScheme v.scheme) (hauthority : v.authority = some a) (ha : a.Sound v.scheme)
    (hhost : v.isSpecial = true → v.scheme ≠ "file" → a.host.isSome = true)
    (hfile : v.scheme = "file" → a = { host := a.host } ∧ a.host ≠ some (.name "localhost"))
    (hsegments : AllSound v.isSpecial segments) (hne : segments ≠ []) (cs : List Char) :
    Sound (withSegments v segments cs) := by
  unfold withSegments
  refine sound_withTail (v := { v with
    path := Path.ofSegments (v.scheme == "file") segments
    dotted := v.authority.isNone && _ }) hscheme cs fun query fragment => ?_
  by_cases hf : v.scheme = "file"
  · obtain ⟨hbare, hlocal⟩ := hfile hf
    have hpath : Path.ofSegments (v.scheme == "file") segments =
      String.ofList (Path.chars (Path.dropEmpty segments)) := by
      simp [Path.ofSegments, hf]
    exact @Shape.file _ a (Path.dropEmpty segments)
      ⟨hauthority, ha, by simp [hauthority], hpath, fun s hs => hsegments s (mem_of_mem_dropEmpty hs)⟩ hf
      (dropEmpty_ne_nil hne) (dropEmpty_dropEmpty segments) hbare hlocal
  · have hpath : Path.ofSegments (v.scheme == "file") segments = String.ofList (Path.chars segments) := by
      simp [Path.ofSegments, hf]
    rcases hs : v.isSpecial with _ | _
    · exact @Shape.hosted _ a segments ⟨hauthority, ha, by simp [hauthority], hpath, hsegments⟩ hs
    · exact @Shape.web _ a segments ⟨hauthority, ha, by simp [hauthority], hpath, hsegments⟩ hs hf (hhost hs hf) hne

theorem sound_withPathTail {base : List Segment} (hscheme : IsScheme v.scheme) (hauthority : v.authority = some a)
    (ha : a.Sound v.scheme) (hhost : v.isSpecial = true → v.scheme ≠ "file" → a.host.isSome = true)
    (hfile : v.scheme = "file" → a = { host := a.host } ∧ a.host ≠ some (.name "localhost"))
    (hbase : AllSound v.isSpecial base) (cs : List Char) (mend : Bool) : Sound (withPathTail v base cs mend) :=
  sound_withSegments hscheme hauthority ha hhost hfile (Path.allSound_readFrom hbase mend _)
    (Path.readFrom_ne_nil mend _ base _) _

/-! ## Addresses with an authority -/

theorem sound_ofAuthority {cs : List Char} (hscheme : IsScheme scheme) (hfile : scheme ≠ "file")
    (h : ofAuthority scheme cs = .ok u) : Sound u := by
  unfold ofAuthority at h
  simp only [bind, Except.bind, pure, Except.pure, throw, throwThe, MonadExceptOf.throw] at h
  split at h
  · cases h
  rcases hread : authority? scheme (cs.takeWhile (!endsAuthority (isSpecialScheme scheme) ·)) with e | ⟨a, left⟩
  · rw [hread] at h; cases h
  obtain ⟨ha, hhost⟩ := Authority.sound_of_authority? hread
  have hpath : ∀ ds, Sound (withPathTail { scheme, authority := some a } [] ds) := fun ds =>
    sound_withPathTail (v := { scheme, authority := some a }) hscheme rfl ha (fun hs _ => hhost hs)
      (fun hf => absurd hf hfile) Path.allSound_nil ds false
  -- only an address that is not special may do without a path
  have hbare : isSpecialScheme scheme = false →
    ∀ query fragment, Shape { scheme, authority := some a, query, fragment } :=
    fun hs query fragment => @Shape.hosted _ a [] ⟨rfl, ha, rfl, rfl, Path.allSound_nil⟩ hs
  simp only [hread] at h
  split at h
  · split at h
    · cases h; exact hpath _
    · split at h
      · cases h; exact hpath _
      · rename_i hends
        cases h
        have hs : isSpecialScheme scheme = false := by
          rcases hs : isSpecialScheme scheme with _ | _
          · rfl
          · rw [hs] at hends; exact absurd rfl hends
        exact sound_withTail (v := { scheme, authority := some a }) hscheme _ (hbare hs)
  · cases h
    split
    · exact hpath _
    · rename_i hs
      exact ⟨hscheme, hbare (by simpa using hs) none none, nofun, nofun⟩

/-! ## Files -/

theorem isScheme_file : IsScheme "file" := by
  exact ⟨by decide, List.all_iff_forall_prop.1 (by decide)⟩

theorem sound_localFile (mend : Bool) (cs : List Char) : Sound (withPathTail localFile [] cs mend) :=
  sound_withPathTail isScheme_file rfl Authority.sound_empty (fun _ hf => absurd rfl hf)
    (fun _ => ⟨rfl, nofun⟩) Path.allSound_nil cs mend

/-- A file on a host; a drive in front of its path is on the machine itself. -/
theorem sound_fileAt {host : Host} (hhost : host.Sound true) (hlocal : host ≠ .name "localhost")
    (hsegments : AllSound true segments) (hne : segments ≠ []) (cs : List Char) :
    Sound (withSegments (if segments.head?.any Path.isDrive then localFile
      else { localFile with authority := some { host := some host } }) segments cs) := by
  split
  · exact sound_withSegments (v := localFile) isScheme_file rfl Authority.sound_empty (fun _ hf => absurd rfl hf)
      (fun _ => ⟨rfl, nofun⟩) hsegments hne cs
  · exact sound_withSegments (v := { localFile with authority := some { host := some host } }) isScheme_file rfl
      (Authority.sound_host hhost) (fun _ hf => absurd rfl hf) (fun _ => ⟨rfl, fun he => hlocal (Option.some.inj he)⟩)
      hsegments hne cs

theorem sound_ofFileHost {cs : List Char} (h : ofFileHost cs = .ok u) : Sound u := by
  unfold ofFileHost at h
  simp only [bind, Except.bind, pure, Except.pure] at h
  split at h
  · cases h; exact sound_localFile _ _
  split at h
  · cases h; exact sound_localFile _ _
  rcases hread : Host.special? (cs.takeWhile (!endsAuthority true ·)) with e | host
  · rw [hread] at h; cases h
  simp only [hread] at h
  split at h
  · cases h; exact sound_localFile _ _
  rename_i hlocal
  cases h
  exact sound_fileAt (Host.sound_of_special? hread) hlocal (Path.allSound_readFrom Path.allSound_nil true _)
    (Path.readFrom_ne_nil true true [] _) _

theorem sound_ofFile {cs : List Char} (h : ofFile none cs = .ok u) : Sound u := by
  unfold ofFile at h
  split at h
  · cases h; exact sound_localFile _ _
  · split at h
    · cases h; exact sound_localFile _ _
    · split at h
      · exact sound_ofFileHost h
      · cases h
        unfold ofFileRoot
        simp only [Option.bind_none, Option.filter_none]
        split
        · exact sound_localFile _ _
        · rename_i hd; cases hd
        · exact sound_localFile _ _

/-! ## Addresses without an authority -/

theorem sound_rooted {scheme : String} (hscheme : IsScheme scheme) (hs : isSpecialScheme scheme = false)
    (cs : List Char) : Sound (withPathTail { scheme } [] cs) := by
  have hfile : (scheme == "file") = false := by
    rw [beq_eq_false_iff_ne]
    rintro rfl
    cases hs
  have hne := Path.readFrom_ne_nil false (isSpecialScheme scheme) [] (cs.takeWhile (!endsPath ·))
  have hsound : AllSound (isSpecialScheme scheme)
      (Path.readFrom false (isSpecialScheme scheme) [] (cs.takeWhile (!endsPath ·))) :=
    Path.allSound_readFrom Path.allSound_nil false _
  unfold withPathTail withSegments isSpecial
  generalize Path.readFrom false (isSpecialScheme scheme) [] (cs.takeWhile (!endsPath ·)) = segments at *
  have hpath : Path.ofSegments (scheme == "file") segments = String.ofList (Path.chars segments) := by
    rw [hfile]
    rfl
  simp only [hpath, Option.isNone_none, Bool.true_and]
  rw [hs] at hsound
  exact sound_withTail (v := ⟨scheme, none, _, _, none, none⟩) hscheme _ fun query fragment =>
    .rooted rfl hs hne hsound rfl rfl

theorem getLast?_filter {q : Char → Bool} {cs : List Char} (h : ∀ c ∈ cs.getLast?, q c = true) :
    (cs.filter q).getLast? = cs.getLast? := by
  rcases List.eq_nil_or_concat cs with rfl | ⟨ds, d, rfl⟩
  · rfl
  · have hd : q d = true := h d (by simp)
    rw [List.concat_eq_append] at *
    simp [List.filter_append, hd]

/-- The text to be read ends in no blank. -/
theorem getLast?_trimmed (s : String) : ∀ c ∈ (trimmed s).getLast?, 0x20 < c.toNat := by
  have hlast : ∀ c ∈ (Text.stripBoth (fun c => c.toNat ≤ 0x20) s.toList).getLast?, 0x20 < c.toNat := by
    intro c hc
    have hfree := (Text.stripBoth_eq_iff.1 rfl).last c hc
    simpa using hfree
  have hkept : ∀ c : Char, 0x20 < c.toNat → (!isIgnored c) = true := by
    intro c hc
    simp only [isIgnored, Bool.not_eq_true', Bool.or_eq_false_iff, beq_eq_false_iff_ne]
    refine ⟨⟨?_, ?_⟩, ?_⟩ <;> rintro rfl <;> exact absurd hc (by decide)
  unfold trimmed
  rw [getLast?_filter fun c hc => hkept c (hlast c hc)]
  exact hlast

theorem endsPath_of_mem_signs {c : Char} (h : c ∈ Percent.signs) : endsPath c = false := by
  have hall : ∀ d ∈ Percent.signs, endsPath d = false := List.all_iff_forall_prop.1 (by decide)
  exact hall c h

/-- Without a query and a fragment nothing ends the path. -/
theorem eq_nil_of_withTail {cs : List Char} (hhead : cs.head?.all endsPath = true)
    (hquery : (withTail v cs).query = none) (hfragment : (withTail v cs).fragment = none) : cs = [] := by
  rcases cs with _ | ⟨c, cs⟩
  · rfl
  have hc : endsPath c = true := by simpa using hhead
  simp only [endsPath, Bool.or_eq_true, beq_iff_eq] at hc
  rcases hc with rfl | rfl
  · cases hquery
  · cases hfragment

theorem getLast?_encode_ne {cs : List Char} (h : ∀ c ∈ cs.getLast?, 0x20 < c.toNat) :
    (Percent.encode Percent.control cs).getLast? ≠ some ' ' := by
  rcases List.eq_nil_or_concat cs with rfl | ⟨ds, d, rfl⟩
  · simp
  rw [List.concat_eq_append] at h ⊢
  have hd : 0x20 < d.toNat := h d (by simp)
  have happend : Percent.encode Percent.control (ds ++ [d]) =
      Percent.encode Percent.control ds ++ Percent.encode Percent.control [d] := List.flatMap_append
  rw [happend, List.getLast?_append]
  intro hlast
  rcases Option.or_eq_some_iff.1 hlast with hlast | ⟨hnone, -⟩
  · rcases Percent.mem_encode (List.mem_of_getLast? hlast) with hsign | ⟨hmem, -⟩
    · exact absurd hsign (by decide)
    · rw [← List.mem_singleton.1 hmem] at hd
      exact absurd hd (by decide)
  · exact Percent.encode_ne_nil _ (List.cons_ne_nil d []) (List.getLast?_eq_none_iff.1 hnone)

/-- **An opaque address that is read is sound.** -/
theorem sound_bare {cs : List Char} (hscheme : IsScheme scheme) (hs : isSpecialScheme scheme = false)
    (hslash : cs.head? ≠ some '/') (hlast : ∀ c ∈ cs.getLast?, 0x20 < c.toNat) :
    Sound (withTail { scheme, path := String.ofList (Percent.encode Percent.control (cs.takeWhile (!endsPath ·))) }
      (cs.dropWhile (!endsPath ·))) := by
  obtain ⟨hquery, hfragment⟩ := encoded_withTail
    { scheme, path := String.ofList (Percent.encode Percent.control (cs.takeWhile (!endsPath ·))) }
    (cs.dropWhile (!endsPath ·))
  rw [withTail_eq]
  refine ⟨hscheme, .bare rfl hs rfl ?_ ?_ ?_ ?_, hquery, hfragment⟩
  · rw [String.toList_ofList]
    exact Percent.encoded_encode Percent.sparesSigns_control _
  · intro c hc
    rw [String.toList_ofList] at hc
    rcases Percent.mem_encode hc with hsign | ⟨hmem, -⟩
    · exact endsPath_of_mem_signs hsign
    · simpa using List.all_eq_true.1 List.all_takeWhile c hmem
  · rw [String.toList_ofList]
    rcases cs with _ | ⟨c, cs⟩
    · simp
    · rw [List.takeWhile_cons]
      split
      · rcases Percent.encode_eq_cons Percent.control c (cs.takeWhile (!endsPath ·)) with ⟨-, hcons⟩ | ⟨-, ds, hcons⟩
        · rw [hcons]
          exact hslash
        · rw [hcons]
          simp
      · simp
  · intro hq hf
    have hnil := eq_nil_of_withTail (by simpa using Text.head?_dropWhile (!endsPath ·) cs) hq hf
    have htake := List.takeWhile_append_dropWhile (p := (!endsPath ·)) (l := cs)
    rw [hnil, List.append_nil] at htake
    rw [String.toList_ofList, htake]
    exact getLast?_encode_ne hlast

/-- What follows a scheme ends as the text does. -/
theorem getLast?_of_scheme? {cs rest : List Char} (h : scheme? cs = some (scheme, rest)) :
    ∀ c ∈ rest.getLast?, cs.getLast? = some c := by
  intro c hc
  rcases cs with _ | ⟨d, cs⟩
  · cases h
  rw [scheme?] at h
  split at h
  · split at h
    · rename_i hdrop
      cases h
      have htake : (d :: cs).takeWhile isSchemeChar ++ (d :: cs).dropWhile isSchemeChar = d :: cs :=
        List.takeWhile_append_dropWhile
      rw [← htake, hdrop, List.getLast?_append]
      rcases rest with _ | ⟨e, rest⟩
      · cases hc
      · rw [List.getLast?_cons_cons, Option.mem_def.1 hc]
        rfl
    · cases h
  · cases h

/-- **Whatever text is read, the address is sound.** -/
theorem sound_of_parse? {s : String} (h : parse? s = .ok u) : Sound u := by
  unfold parse? parseFrom? at h
  simp only at h
  rcases hread : scheme? (trimmed s) with _ | ⟨scheme, rest⟩
  · rw [hread] at h; cases h
  simp only [hread] at h
  have hscheme := isScheme_of_scheme? hread
  unfold ofScheme at h
  split at h
  · rename_i hfile
    obtain rfl := eq_of_beq hfile
    exact sound_ofFile h
  · rename_i hfile
    split at h
    · exact sound_ofAuthority hscheme (by simpa using hfile) h
    · rename_i hs
      have hs : isSpecialScheme scheme = false := by simpa using hs
      split at h
      · exact sound_ofAuthority hscheme (by simpa using hfile) h
      · cases h
        exact sound_rooted hscheme hs _
      · rename_i _ hslash
        cases h
        refine sound_bare hscheme hs ?_ fun c hc => getLast?_trimmed s c (getLast?_of_scheme? hread c hc)
        intro hhead
        rcases rest with _ | ⟨c, rest⟩
        · cases hhead
        · cases hhead
          exact hslash _ rfl

end Uri
end Hypermedia
