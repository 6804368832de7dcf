import Hypermedia.Proofs.Uri.Text
/-!
# Reading the text of an address

The text of an address that was read is read as the same address (`parse?_text`), with two exceptions: a domain has to
be its own ASCII form, and the path of a file on a host must not start with a drive (`Uri.Restorable`).
-/
namespace Hypermedia
namespace Uri

open Percent (Encoded)
open Hypermedia.Path (AllSound Segment)

variable {u v : Uri} {a : Authority} {segments : List Segment} {scheme : String}

/-! ## Paths and authorities -/

/-- **The segments of a path are read from their text.** -/
theorem withPathTail_chars {s : Segment} {mend : Bool} (hsegments : AllSound v.isSpecial (s :: segments))
    (hmend : (mend && Path.isDrive s) = false) (u : Uri) :
    withPathTail v [] (s ++ Path.chars segments ++ u.tailChars) mend = withSegments v (s :: segments) u.tailChars := by
  have hends : ∀ c ∈ s ++ Path.chars segments, (!endsPath c) = true := fun c hc =>
    endsPath_of_mem_chars hsegments c (List.mem_cons_of_mem _ hc)
  have hhead : u.tailChars.head?.all (fun c => !!endsPath c) = true := by simpa using u.head?_tailChars
  unfold withPathTail
  rw [Text.takeWhile_append hends hhead, Text.dropWhile_append hends hhead, Path.readFrom_chars hsegments hmend]

/-- **An address with an authority is put together from its parts.** -/
theorem Hosted.withSegments_eq (hosted : u.Hosted a segments) (h : u.Sound)
    (hfile : u.scheme = "file" → Path.dropEmpty segments = segments) :
    withSegments { scheme := u.scheme, authority := some a } segments u.tailChars = u := by
  have hpath : Path.ofSegments (u.scheme == "file") segments = u.path := by
    rw [hosted.path, Path.ofSegments]
    split
    · rename_i hf
      rw [hfile (eq_of_beq hf)]
    · rfl
  unfold withSegments
  refine (withTail_tailChars (u := u) (v := { scheme := u.scheme, authority := some a, dotted := _, path := _ }) rfl
    h.query h.fragment).trans ?_
  rw [hpath]
  simp only [Option.isNone_some, Bool.false_and]
  rw [← hosted.authority, ← hosted.dotted]

/-- An address with an authority and an empty path is put together from its other parts. -/
theorem Hosted.withTail_eq (hosted : u.Hosted a []) (h : u.Sound) :
    withTail { scheme := u.scheme, authority := some a } u.tailChars = u := by
  rw [withTail_tailChars (by rfl) h.query h.fragment, ← hosted.authority]
  have hempty : u.path = "" := hosted.path
  have hdotted := hosted.dotted
  cases u
  simp only at hempty hdotted
  rw [hempty, hdotted]

/-! ## Reading addresses again -/

/-- **An address that its text restores**: a domain is its own ASCII form, and the path of a file on a host does not
start with a drive. -/
structure Restorable (u : Uri) : Prop where
  name : u.isSpecial = true → ∀ a text, u.authority = some a → a.host = some (.name text) →
    Domain.ascii? text.toList = some text.toList
  drive : u.scheme = "file" → ∀ a, u.authority = some a → a.host.isSome = true →
    ∀ s ∈ (Path.segments? u.path.toList).bind List.head?, Path.isDrive s = false

/-- The text of an address whose host is written as domains are restores it, unless it is that of a file. -/
theorem restorable_of_isWritten {text : String} (hfile : u.scheme ≠ "file") (hauthority : u.authority = some a)
    (hhost : a.host = some (.name text)) (h : Domain.IsWritten text.toList) : u.Restorable where
  name _ b host hb hname := by
    rw [hauthority] at hb
    cases hb
    rw [hhost] at hname
    cases hname
    exact Domain.ascii?_of_isWritten h
  drive hf := absurd hf hfile

/-- The slashes in front of an authority end where it starts. -/
theorem dropWhile_slashes (h : a.Sound scheme) (hhost : a.host.isSome = true) (rest : List Char) :
    ('/' :: '/' :: a.chars ++ rest).dropWhile (Path.isSeparator true) = a.chars ++ rest := by
  have hslash : Path.isSeparator true '/' = true := rfl
  obtain ⟨c, cs, hc⟩ := List.exists_cons_of_ne_nil (h.chars_ne_nil hhost)
  have hsep : Path.isSeparator true c = false := by
    have hends := h.not_endsAuthority true c (hc ▸ List.mem_cons_self)
    rcases hs : Path.isSeparator true c with _ | _
    · rfl
    · simp only [Path.isSeparator, Bool.true_and, Bool.or_eq_true, beq_iff_eq] at hs
      rcases hs with rfl | rfl <;> cases hends
  rw [hc, List.cons_append, List.cons_append, List.cons_append, List.dropWhile_cons, if_pos hslash,
    List.dropWhile_cons, if_pos hslash, List.dropWhile_cons, if_neg (by simp [hsep])]

/-- What follows an authority ends it. -/
theorem head?_path_tail (hosted : u.Hosted a segments) (special : Bool) :
    (u.path.toList ++ u.tailChars).head?.all (fun c => !!endsAuthority special c) = true := by
  rw [hosted.path, String.toList_ofList]
  rcases segments with _ | ⟨s, ss⟩
  · have htail := u.head?_tailChars
    rcases ht : u.tailChars with _ | ⟨c, cs⟩
    · rfl
    · rw [ht] at htail
      have hc : endsPath c = true := by simpa using htail
      simp only [endsPath, Bool.or_eq_true, beq_iff_eq] at hc
      rcases hc with rfl | rfl <;> cases special <;> rfl
  · cases special <;> rfl

/-- **An address with an authority is read from its text.** -/
theorem Hosted.ofAuthority_eq (hosted : u.Hosted a segments) (h : u.Sound) (hfile : u.scheme ≠ "file")
    (hhost : u.isSpecial = true → a.host.isSome = true ∧ segments ≠ []) (hrestorable : u.Restorable) :
    ofAuthority u.scheme (a.chars ++ (u.path.toList ++ u.tailChars)) = .ok u := by
  have hends := hosted.sound.not_endsAuthority (isSpecialScheme u.scheme)
  have hhead := head?_path_tail hosted (isSpecialScheme u.scheme)
  have hread : authority? u.scheme a.chars = .ok (a, []) := Authority.authority?_chars hosted.sound
    (fun hs => (hhost hs).1) fun text hs hname => hrestorable.name hs a text hosted.authority hname
  unfold ofAuthority
  simp only [Text.takeWhile_append hends hhead, Text.dropWhile_append hends hhead, hread, bind, Except.bind, pure,
    Except.pure, List.nil_append]
  rw [if_neg (by simp [hosted.sound.chars_ne_at])]
  have hpath : u.path.toList = Path.chars segments := by rw [hosted.path, String.toList_ofList]
  rcases segments with _ | ⟨s, ss⟩
  · have hs : isSpecialScheme u.scheme = false := by
      rcases hs : isSpecialScheme u.scheme with _ | _
      · rfl
      · exact absurd rfl (hhost hs).2
    have hwhole := hosted.withTail_eq h
    rw [hpath, show Path.chars [] ++ u.tailChars = u.tailChars from rfl]
    have htail := u.head?_tailChars
    rcases ht : u.tailChars with _ | ⟨c, cs⟩
    · rw [ht] at hwhole
      simp only [hs, Bool.false_eq_true, if_false]
      exact congrArg _ hwhole
    · rw [ht] at htail hwhole
      have hc : endsPath c = true := by simpa using htail
      have hsep : Path.isSeparator false c = false := by
        simp only [endsPath, Bool.or_eq_true, beq_iff_eq] at hc
        rcases hc with rfl | rfl <;> rfl
      simp only [hsep, hs, hc, Bool.false_eq_true, if_false, Bool.not_true, Bool.or_self]
      exact congrArg _ hwhole
  · rw [hpath, show Path.chars (s :: ss) ++ u.tailChars = '/' :: (s ++ Path.chars ss ++ u.tailChars) from rfl]
    have hsep : ∀ special, Path.isSeparator special '/' = true := fun special => by cases special <;> rfl
    simp only [hsep, if_true]
    rw [withPathTail_chars (v := { scheme := u.scheme, authority := some a }) hosted.segments rfl]
    exact congrArg _ (hosted.withSegments_eq h fun hf => absurd hf hfile)

/-- No host is a drive. -/
theorem isDrive_chars {host : Host} (h : host.Sound true) : Path.isDrive host.chars = false := by
  have hno : (∀ c ∈ host.chars, c ≠ ':' ∧ c ≠ '|') → Path.isDrive host.chars = false := by
    intro hchars
    unfold Path.isDrive
    split
    · rename_i c d hcs
      obtain ⟨hcolon, hbar⟩ := hchars d (by simp [hcs])
      simp [hcolon, hbar]
    · rfl
  cases h with
  | domain _ hplain _ =>
    refine hno fun c hc => ⟨?_, ?_⟩ <;> rintro rfl <;> exact absurd (hplain _ hc).2 (by decide)
  | ipv4 _ =>
    refine hno fun c hc => ?_
    rcases Host.mem_ipv4Chars hc with rfl | hdigit
    · decide
    · exact ⟨Host.isDigit_ne hdigit (by decide), Host.isDigit_ne hdigit (by decide)⟩
  | @ipv6 _ ps _ _ =>
    unfold Path.isDrive
    split
    · rename_i c d hcs
      obtain rfl : '[' = c := (List.cons.inj hcs).1
      rfl
    · rfl

/-- **A file is read from its text.** -/
theorem Hosted.ofFileHost_eq (hosted : u.Hosted a segments) (h : u.Sound) (hfile : u.scheme = "file")
    (hne : segments ≠ []) (hdrop : Path.dropEmpty segments = segments) (hbare : a = { host := a.host })
    (hlocal : a.host ≠ some (.name "localhost")) (hrestorable : u.Restorable) :
    ofFileHost (a.chars ++ (u.path.toList ++ u.tailChars)) = .ok u := by
  have hends := hosted.sound.not_endsAuthority true
  have hhead := head?_path_tail hosted true
  have hspecial : isSpecialScheme u.scheme = true := by rw [hfile]; rfl
  have hwhole := hosted.withSegments_eq h fun _ => hdrop
  have hpath : u.path.toList = Path.chars segments := by rw [hosted.path, String.toList_ofList]
  have hsegments : AllSound true segments := by
    have := hosted.segments
    rwa [isSpecial, hspecial] at this
  obtain ⟨s, ss, rfl⟩ := List.exists_cons_of_ne_nil hne
  have hfirst : u.path.toList ++ u.tailChars = '/' :: (s ++ Path.chars ss ++ u.tailChars) := by rw [hpath]; rfl
  unfold ofFileHost
  simp only [Text.takeWhile_append hends hhead, Text.dropWhile_append hends hhead, bind, Except.bind, pure, Except.pure]
  rw [hfirst, Authority.chars_of_bare hbare]
  unfold Authority.hostChars
  have hsep : Path.isSeparator true '/' = true := rfl
  rcases hh : a.host with _ | host
  · have hnodrive : Path.isDrive (((none : Option Host).map Host.chars).getD []) = false := rfl
    have hempty : (((none : Option Host).map Host.chars).getD []).isEmpty = true := rfl
    simp only [hnodrive, hempty, hsep, Bool.false_eq_true, if_false, if_true]
    rw [withPathTail_chars (v := localFile) hsegments rfl]
    rw [hfile, hbare, hh] at hwhole
    exact congrArg _ hwhole
  · have hsound : host.Sound true := by
      have := hosted.sound.host host hh
      rwa [hspecial] at this
    have hempty : host.chars.isEmpty = false := by simpa using hsound.chars_ne_nil
    have hread : Host.special? host.chars = .ok host :=
      Host.special?_chars hsound fun text ht => hrestorable.name hspecial a text hosted.authority (ht ▸ hh)
    have hnotlocal : host ≠ .name "localhost" := fun he => hlocal (he ▸ hh)
    have hdrive : Path.isDrive s = false := by
      refine hrestorable.drive hfile a hosted.authority (by rw [hh]; rfl) s ?_
      rw [hpath, Path.segments?_chars hsegments hne]
      rfl
    have hends : ∀ c ∈ s ++ Path.chars ss, (!endsPath c) = true := fun c hc =>
      endsPath_of_mem_chars hsegments c (List.mem_cons_of_mem _ hc)
    have htail : u.tailChars.head?.all (fun c => !!endsPath c) = true := by simpa using u.head?_tailChars
    have hsegmentsRead : Path.readFrom true true [] (s ++ Path.chars ss) = s :: ss :=
      Path.readFrom_chars hsegments (by simpa using hdrive)
    simp only [Option.map_some, Option.getD_some, isDrive_chars hsound, hempty, hread, hnotlocal, hsep,
      Bool.false_eq_true, if_false, if_true, Text.takeWhile_append hends htail, Text.dropWhile_append hends htail,
      hsegmentsRead, List.head?_cons, Option.any_some, hdrive]
    rw [hfile, hbare, hh] at hwhole
    exact congrArg _ hwhole

/-- A dot in front of a path is not kept. -/
theorem readFrom_dot (mend special : Bool) (cs : List Char) :
    Path.readFrom mend special [] ('.' :: '/' :: cs) = Path.readFrom mend special [] cs := by
  have hsplit : Text.splitAll (Path.isSeparator special) ('.' :: '/' :: cs) =
      ['.'] :: Text.splitAll (Path.isSeparator special) cs := by
    have hslash : Path.isSeparator special '/' = true := by cases special <;> rfl
    have hdot : ∀ c ∈ ['.'], Path.isSeparator special c = false := by cases special <;> simp [Path.isSeparator]
    exact Text.splitAll_append hslash cs hdot
  unfold Path.readFrom
  rw [hsplit]
  rcases hs : Text.splitAll (Path.isSeparator special) cs with _ | ⟨s, ss⟩
  · exact absurd hs (Text.splitAll_ne_nil _ cs)
  · rfl

theorem withPathTail_dot (v : Uri) (cs : List Char) (mend : Bool) :
    withPathTail v [] ('.' :: '/' :: cs) mend = withPathTail v [] cs mend := by
  have htake : ('.' :: '/' :: cs).takeWhile (!endsPath ·) = '.' :: '/' :: cs.takeWhile (!endsPath ·) := rfl
  have hdrop : ('.' :: '/' :: cs).dropWhile (!endsPath ·) = cs.dropWhile (!endsPath ·) := rfl
  unfold withPathTail
  rw [htake, hdrop, readFrom_dot]

/-- Without a dot in front, a path of its own does not start with two slashes. -/
theorem ne_slash_of_dotted {s : Segment} (hpath : u.path.toList = Path.chars (s :: segments))
    (hdotted : u.dotted = false)
    (hstart : u.dotted = (Text.afterStart? ['/', '/'] u.path.toList).isSome) (cs : List Char) :
    s ++ Path.chars segments ++ u.tailChars ≠ '/' :: cs := by
  have hchars : Path.chars (s :: segments) = '/' :: (s ++ Path.chars segments) := rfl
  rw [hdotted, hpath, hchars] at hstart
  intro hcs
  rcases hrest : s ++ Path.chars segments with _ | ⟨c, rest⟩
  · rw [hrest, List.nil_append] at hcs
    have htail := u.head?_tailChars
    rw [hcs] at htail
    cases htail
  · rw [hrest, List.cons_append] at hcs
    rw [hrest, (List.cons.inj hcs).1] at hstart
    cases hstart

/-- **A path behind a slash is read from its text**, also with a dot in front. -/
theorem rooted_eq (h : u.Sound) (hnone : u.authority = none) (hs : u.isSpecial = false) (hne : segments ≠ [])
    (hsegments : AllSound false segments) (hpath : u.path = String.ofList (Path.chars segments))
    (hdotted : u.dotted = (Text.afterStart? ['/', '/'] u.path.toList).isSome) :
    ofScheme none u.scheme (u.authorityChars ++ (u.path.toList ++ u.tailChars)) = .ok u := by
  have hs : isSpecialScheme u.scheme = false := hs
  have hnofile : (u.scheme == "file") = false := by
    rw [beq_eq_false_iff_ne]
    intro hf
    rw [hf] at hs
    cases hs
  obtain ⟨s, ss, rfl⟩ := List.exists_cons_of_ne_nil hne
  have hsegmentsText : u.path.toList = Path.chars (s :: ss) := by rw [hpath, String.toList_ofList]
  have hchars : u.path.toList = '/' :: (s ++ Path.chars ss) := hsegmentsText
  have hwhole : withSegments { scheme := u.scheme } (s :: ss) u.tailChars = u := by
    unfold withSegments
    refine (withTail_tailChars (u := u) (v := { scheme := u.scheme, dotted := _, path := _ }) rfl h.query
      h.fragment).trans ?_
    simp only [hnofile, Path.ofSegments, Bool.false_eq_true, if_false, Option.isNone_none, Bool.true_and]
    rw [← hpath, ← hdotted, ← hnone]
  have hsegments' : AllSound ({ scheme := u.scheme } : Uri).isSpecial (s :: ss) := by
    rw [isSpecial, hs]
    exact hsegments
  unfold ofScheme
  simp only [hnofile, hs, Bool.false_eq_true, if_false]
  have hread : withPathTail { scheme := u.scheme } [] (s ++ Path.chars ss ++ u.tailChars) = u :=
    (withPathTail_chars (v := { scheme := u.scheme }) hsegments' rfl u).trans hwhole
  rcases hd : u.dotted with _ | _
  · have hrest : u.authorityChars ++ (u.path.toList ++ u.tailChars) = '/' :: (s ++ Path.chars ss ++ u.tailChars) := by
      rw [authorityChars, hnone, hd, hchars]
      rfl
    rw [hrest]
    split
    · rename_i hcs
      exact absurd (List.cons.inj hcs).2 (ne_slash_of_dotted hsegmentsText hd hdotted _)
    · rename_i hcs
      rw [← (List.cons.inj hcs).2, hread]
    · rename_i hother
      exact absurd rfl (hother _)
  · have hrest : u.authorityChars ++ (u.path.toList ++ u.tailChars) =
        '/' :: '.' :: '/' :: (s ++ Path.chars ss ++ u.tailChars) := by
      rw [authorityChars, hnone, hd, hchars]
      rfl
    rw [hrest]
    exact congrArg _ ((withPathTail_dot _ _ _).trans hread)

/-- **An opaque address is read from its text.** -/
theorem bare_eq (h : u.Sound) (hnone : u.authority = none) (hs : u.isSpecial = false) (hdotted : u.dotted = false)
    (hencoded : Encoded Percent.control u.path.toList) (hends : ∀ c ∈ u.path.toList, endsPath c = false)
    (hslash : u.path.toList.head? ≠ some '/') :
    ofScheme none u.scheme (u.authorityChars ++ (u.path.toList ++ u.tailChars)) = .ok u := by
  have hs : isSpecialScheme u.scheme = false := hs
  have hnofile : (u.scheme == "file") = false := by
    rw [beq_eq_false_iff_ne]
    intro hf
    rw [hf] at hs
    cases hs
  have hrest : u.authorityChars ++ (u.path.toList ++ u.tailChars) = u.path.toList ++ u.tailChars := by
    rw [authorityChars, hnone, hdotted]
    rfl
  have hfirst : ∀ cs, u.path.toList ++ u.tailChars ≠ '/' :: cs := by
    intro cs hcs
    rcases hX : u.path.toList with _ | ⟨c, X⟩
    · rw [hX, List.nil_append] at hcs
      have htail := u.head?_tailChars
      rw [hcs] at htail
      cases htail
    · rw [hX, List.cons_append] at hcs
      rw [hX, (List.cons.inj hcs).1] at hslash
      exact hslash rfl
  have hends : ∀ c ∈ u.path.toList, (!endsPath c) = true := fun c hc => by rw [hends c hc]; rfl
  have htail : u.tailChars.head?.all (fun c => !!endsPath c) = true := by simpa using u.head?_tailChars
  unfold ofScheme
  simp only [hnofile, hs, Bool.false_eq_true, if_false]
  rw [hrest]
  split
  · rename_i hcs
    exact absurd hcs (hfirst _)
  · rename_i hcs
    exact absurd hcs (hfirst _)
  · rw [Text.takeWhile_append hends htail, Text.dropWhile_append hends htail, Percent.encode_of_encoded hencoded,
      String.ofList_toList, withTail_tailChars (by rfl) h.query h.fragment, ← hnone, ← hdotted]

/-- **The text of an address is read as the address.** -/
theorem parse?_text (h : u.Sound) (hrestorable : u.Restorable) : parse? u.text = .ok u := by
  have hread : parse? u.text = ofScheme none u.scheme (u.authorityChars ++ (u.path.toList ++ u.tailChars)) := by
    unfold parse? parseFrom?
    simp only [h.trimmed_text, chars_eq, scheme?_chars h.scheme]
  rw [hread]
  cases h.shape with
  | @web a segments hosted hs hfile hhost hne =>
    have hchars : u.authorityChars = '/' :: '/' :: a.chars := by rw [authorityChars, hosted.authority]
    have hnofile : (u.scheme == "file") = false := beq_eq_false_iff_ne.2 hfile
    have hdrop : (u.authorityChars ++ (u.path.toList ++ u.tailChars)).dropWhile (Path.isSeparator true) =
        a.chars ++ (u.path.toList ++ u.tailChars) := by
      rw [hchars]
      exact dropWhile_slashes hosted.sound hhost _
    unfold ofScheme
    rw [hnofile, show isSpecialScheme u.scheme = true from hs]
    simp only [Bool.false_eq_true, if_false, if_true, hdrop]
    exact hosted.ofAuthority_eq h hfile (fun _ => ⟨hhost, hne⟩) hrestorable
  | @file a segments hosted hfile hne hdrop hbare hlocal =>
    have hchars : u.authorityChars = '/' :: '/' :: a.chars := by rw [authorityChars, hosted.authority]
    unfold ofScheme
    rw [hchars, hfile]
    exact hosted.ofFileHost_eq h hfile hne hdrop hbare hlocal hrestorable
  | @hosted a segments hosted hs =>
    have hchars : u.authorityChars = '/' :: '/' :: a.chars := by rw [authorityChars, hosted.authority]
    have hfile : u.scheme ≠ "file" := by
      intro hf
      unfold isSpecial at hs
      rw [hf] at hs
      cases hs
    have hnofile : (u.scheme == "file") = false := beq_eq_false_iff_ne.2 hfile
    unfold ofScheme
    rw [hnofile, show isSpecialScheme u.scheme = false from hs, hchars]
    exact hosted.ofAuthority_eq h hfile (fun hs' => by rw [hs] at hs'; cases hs') hrestorable
  | rooted hnone hs hne hsegments hpath hdotted => exact rooted_eq h hnone hs hne hsegments hpath hdotted
  | bare hnone hs hdotted hencoded hends hslash _ => exact bare_eq h hnone hs hdotted hencoded hends hslash

end Uri
end Hypermedia
