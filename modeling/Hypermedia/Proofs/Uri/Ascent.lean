import Hypermedia.Proofs.Uri.Append
import Mathlib.Logic.Function.Iterate
/-!
# Texts that lead up

A text that is appended to a path may hold double dots.  Each takes back the segment before it: first those of the text,
and once none of these is left, those of the path (`Path.pushAll_append`).  So a text keeps the path that it is appended
to as long as it does not lead up, or there is nothing to take back (`Stays`, `path_append_iff`); and the scheme and the
authority are kept in any case (`append_eq`).
-/
namespace Hypermedia

namespace Path

/-- How often a double dot is read where no segment is left to take back. -/
def ascents : List Segment → List Segment → Nat
  | _, [] => 0
  | read, s :: ss => ascents (push false read s false) ss + if isDoubleDot s && read.isEmpty then 1 else 0

theorem pop_cons_append (s : Segment) (ss base : List Segment) : pop (s :: ss ++ base) = pop (s :: ss) ++ base := by
  by_cases h : isFixed s = true <;> simp [pop, h]

theorem ascents_cons (read : List Segment) (s : Segment) (ss : List Segment) :
    ascents read (s :: ss) =
      ascents (push false read s false) ss + if isDoubleDot s && read.isEmpty then 1 else 0 := rfl

/-- **One segment read behind others**: a double dot takes back one of the others when nothing else is left. -/
theorem push_append (read base : List Segment) (s : Segment) (final : Bool) :
    push false (read ++ base) s final =
      push false read s final ++ pop^[if isDoubleDot s && read.isEmpty then 1 else 0] base := by
  unfold push
  rcases isDoubleDot s with _ | _
  · rcases isSingleDot s with _ | _
    · simp
    · cases final <;> simp
  · rcases read with _ | ⟨t, ts⟩
    · cases final <;> simp [pop]
    · cases final <;> simp [← pop_cons_append]

/-- **Segments read behind others**: these are read as if there was nothing before them, and of the others as many are
taken back as there are ascents. -/
theorem pushAll_append : ∀ ss read base : List Segment,
    pushAll false (read ++ base) ss = pushAll false read ss ++ pop^[ascents read ss] base
  | [], _, _ => rfl
  | [s], read, base => by
    have hascents : ascents read [s] = if isDoubleDot s && read.isEmpty then 1 else 0 := Nat.zero_add _
    rw [hascents]
    exact push_append read base s true
  | s :: t :: ss, read, base => by
    rw [pushAll_cons_cons, pushAll_cons_cons, push_append, pushAll_append, ascents_cons read,
      Function.iterate_add_apply]

theorem ascents_of_forall : ∀ {ss read : List Segment}, (∀ s ∈ ss, isDoubleDot s = false) → ascents read ss = 0
  | [], _, _ => rfl
  | s :: ss, read, h => by
    rw [ascents_cons, ascents_of_forall fun t ht => h t (List.mem_cons_of_mem s ht), h s List.mem_cons_self]
    rfl

/-- Segments that were read are read again in front of others. -/
theorem pushAll_sound_append {special : Bool} :
    ∀ {segments ss read : List Segment}, AllSound special segments → ss ≠ [] →
    pushAll false read (segments ++ ss) = pushAll false (segments.reverse ++ read) ss
  | [], _, _, _, _ => rfl
  | s :: segments, ss, read, h, hne => by
    obtain ⟨t, ts, hcons⟩ := List.exists_cons_of_ne_nil (List.append_ne_nil_of_right_ne_nil segments hne)
    rw [List.cons_append, hcons, pushAll_cons_cons, push_of_sound (h s List.mem_cons_self) rfl, ← hcons,
      pushAll_sound_append (fun r hr => h r (List.mem_cons_of_mem s hr)) hne, List.reverse_cons, List.append_assoc]
    rfl

/-- A path with more behind it is cut into its segments and those of what is behind it. -/
theorem splitAll_chars_append {p : Char → Bool} (hp : p '/' = true) : ∀ {segments : List Segment} (cs : List Char),
    (∀ s ∈ segments, ∀ c ∈ s, p c = false) →
    ∃ rest, chars segments ++ '/' :: cs = '/' :: rest ∧ Text.splitAll p rest = segments ++ Text.splitAll p cs
  | [], cs, _ => ⟨cs, rfl, rfl⟩
  | s :: segments, cs, h => by
    obtain ⟨rest, hrest, hsplit⟩ := splitAll_chars_append hp cs fun t ht => h t (List.mem_cons_of_mem s ht)
    refine ⟨s ++ '/' :: rest, ?_, ?_⟩
    · rw [← hrest, chars, List.flatMap_cons, List.append_assoc]
      rfl
    · rw [Text.splitAll_append hp rest (h s List.mem_cons_self), hsplit]
      rfl

/-! ## What is taken back -/

theorem pop_suffix : ∀ read : List Segment, pop read <:+ read
  | [] => List.suffix_rfl
  | s :: ss => by
    by_cases h : isFixed s = true
    · have hkept : pop (s :: ss) = s :: ss := if_pos h
      exact ⟨[], hkept⟩
    · rw [pop, if_neg h]
      exact List.suffix_cons s ss

theorem iterate_pop_suffix (read : List Segment) : ∀ n : Nat, pop^[n] read <:+ read
  | 0 => List.suffix_rfl
  | n + 1 => (iterate_pop_suffix (pop read) n).trans (pop_suffix read)

/-- Nothing is taken back just if there is nothing, or what comes first is fixed. -/
theorem pop_eq_iff : ∀ {read : List Segment}, pop read = read ↔ ∀ s ∈ read.head?, isFixed s = true
  | [] => by simp [pop]
  | s :: ss => by simp [pop]

theorem iterate_pop_eq_iff {read : List Segment} {n : Nat} : pop^[n] read = read ↔ n = 0 ∨ pop read = read := by
  constructor
  · intro h
    rcases n with _ | n
    · exact .inl rfl
    · -- what is taken back first never comes again
      refine .inr ((pop_suffix read).eq_of_length_le ?_)
      have hle := (iterate_pop_suffix (pop read) n).length_le
      rwa [← Function.iterate_succ_apply, h] at hle
  · rintro (rfl | h)
    · rfl
    · exact Function.iterate_fixed h n

/-- A path that is not empty, and a slash for one that is. -/
def orRoot (cs : List Char) : List Char := if cs.isEmpty then ['/'] else cs

theorem orRoot_of_ne_nil {cs : List Char} (h : cs ≠ []) : orRoot cs = cs := if_neg (by simpa using h)

/-- A path has one list of segments. -/
theorem chars_inj {special : Bool} : ∀ {segments segments' : List Segment}, AllSound special segments →
    AllSound special segments' → chars segments = chars segments' → segments = segments'
  | [], [], _, _, _ => rfl
  | [], _ :: _, _, _, h => by cases h
  | _ :: _, [], _, _, h => by cases h
  | s :: ss, t :: ts, hs, ht, h => by
    have hread := segments?_chars hs (List.cons_ne_nil s ss)
    rw [h, segments?_chars ht (List.cons_ne_nil t ts)] at hread
    exact (Option.some.inj hread).symm

theorem chars_ne_nil {segments : List Segment} (h : segments ≠ []) : chars segments ≠ [] := by
  obtain ⟨s, ss, rfl⟩ := List.exists_cons_of_ne_nil h
  exact List.cons_ne_nil _ _

end Path

namespace Uri

open Hypermedia.Path (AllSound Segment)

variable {u : Uri} {a : Authority}

/-- The path of an address without the slashes at its end. -/
def front (u : Uri) : List Char := Text.stripRight (· == '/') u.path.toList

/-! ## What a text adds -/

/-- What of a text is appended to a path: what stands in front of the question mark, without the slashes at its
start. -/
def pathPart (path : String) : List Char := (Text.splitFirst '?' path.toList).1.dropWhile (· == '/')

/-- What of a text becomes the query. -/
def queryPart? (path : String) : Option (List Char) := (Text.splitFirst '?' path.toList).2

/-- The segments that a text is cut into when it is appended to a path. -/
def cut (path : String) : List Segment :=
  Text.splitAll (Path.isSeparator true) (significant (String.ofList (pathPart path)))

/-- The segments that a text adds to a path that it is appended to. -/
def added (path : String) : List Segment :=
  if (pathPart path).isEmpty then [] else (Path.pushAll false [] (cut path)).reverse

/-- How many segments a text takes back from a path that it is appended to. -/
def ascents (path : String) : Nat := Path.ascents [] (cut path)

theorem significant_append (cs ds : List Char) :
    significant (String.ofList (cs ++ ds)) = significant (String.ofList cs) ++ significant (String.ofList ds) := by
  simp [significant]

/-- **Setting a path behind another one**: the other one is kept up to the segments that are taken back. -/
theorem setPath_behind (hauthority : u.authority = some a) (web : u.IsWeb) {segments : List Segment}
    (hsound : AllSound true segments) (cs : List Char) :
    let ss := Text.splitAll (Path.isSeparator true) (significant (String.ofList cs))
    u.setPath (String.ofList (Path.chars segments ++ '/' :: cs)) = { u with
      path := String.ofList (Path.chars
        ((Path.pop^[Path.ascents [] ss] segments.reverse).reverse ++ (Path.pushAll false [] ss).reverse)) } := by
  intro ss
  obtain ⟨rest, hrest, hsplit⟩ := Path.splitAll_chars_append (p := Path.isSeparator true) rfl
    (significant (String.ofList cs)) fun s hs => (hsound s hs).whole
  have hslash : significant (String.ofList ['/']) = ['/'] := rfl
  have hsignificant : significant (String.ofList (Path.chars segments ++ '/' :: cs)) = '/' :: rest := by
    rw [← hrest, ← List.singleton_append, significant_append, significant_append,
      significant_of_visible (isVisible_of_mem_chars hsound), hslash]
    rfl
  have hread := Path.pushAll_append ss [] segments.reverse
  rw [setPath_slash hauthority web hsignificant, Path.readFrom, hsplit,
    Path.pushAll_sound_append hsound (Text.splitAll_ne_nil _ _), List.append_nil]
  rw [List.nil_append] at hread
  rw [hread, List.reverse_append]

/-- Appending a text sets a path and then a query. -/
theorem append_parts (u : Uri) (path : String) :
    let joined := u.setPath (String.ofList
      (if (pathPart path).isEmpty then Path.orRoot u.front else u.front ++ '/' :: pathPart path))
    u.append path = match queryPart? path with
      | some query => joined.setQuery (String.ofList query)
      | none => joined := by
  unfold append queryPart? pathPart front Path.orRoot
  generalize Text.splitFirst '?' path.toList = r
  obtain ⟨cs, _ | query⟩ := r
  · rfl
  · rfl

/-- **What appending a text makes of an address**: a path that goes on where as many segments were taken back as the
text leads up, and the query of the text if it has one. -/
theorem append_eq (h : u.Sound) (web : u.IsWeb) (path : String) :
    ∃ segments : List Segment, AllSound true segments ∧ u.front = Path.chars segments ∧
      u.append path = { u with
        path := String.ofList (Path.orRoot
          (Path.chars ((Path.pop^[ascents path] segments.reverse).reverse ++ added path)))
        query := ((queryPart? path).map fun q =>
          String.ofList (Percent.encode (Percent.querySet true) (significant (String.ofList q)))).or u.query } := by
  obtain ⟨a, segments, hauthority, hsound, hfront⟩ := h.stripped web
  refine ⟨segments, hsound, hfront, ?_⟩
  have hset : u.setPath (String.ofList
      (if (pathPart path).isEmpty then Path.orRoot u.front else u.front ++ '/' :: pathPart path)) = { u with
        path := String.ofList
          (Path.orRoot (Path.chars ((Path.pop^[ascents path] segments.reverse).reverse ++ added path))) } := by
    rw [show u.front = Path.chars segments from hfront]
    rcases hempty : (pathPart path).isEmpty with _ | _
    · have hadded : added path = (Path.pushAll false [] (cut path)).reverse := by rw [added, hempty]; rfl
      have hne : added path ≠ [] := by
        rw [hadded, Ne, List.reverse_eq_nil_iff]
        exact Path.pushAll_ne_nil (Text.splitAll_ne_nil _ _)
      have hbehind := setPath_behind hauthority web hsound (pathPart path)
      rw [Path.orRoot_of_ne_nil (Path.chars_ne_nil (List.append_ne_nil_of_right_ne_nil _ hne)), hadded]
      exact hbehind
    · have hcut : cut path = [[]] := by rw [cut, List.isEmpty_iff.1 hempty]; rfl
      have hadded : added path = [] := by rw [added, hempty]; rfl
      have hascents : ascents path = 0 := by rw [ascents, hcut]; rfl
      rw [hadded, hascents, Function.iterate_zero, id, List.reverse_reverse, List.append_nil, if_pos rfl]
      rcases segments with _ | ⟨s, ss⟩
      · exact setPath_chars hauthority web (fun t ht => List.mem_singleton.1 ht ▸ Path.sound_nil)
          (List.cons_ne_nil [] [])
      · exact setPath_chars hauthority web hsound (List.cons_ne_nil s ss)
  have hparts := append_parts u path
  rw [hset] at hparts
  rw [hparts]
  rcases queryPart? path with _ | query
  · rfl
  · have hquery : ∀ joined : String, ({ u with path := joined } : Uri).setQuery (String.ofList query) = { u with
        path := joined
        query := some (String.ofList (Percent.encode (Percent.querySet true) (significant (String.ofList query))))
          } := by
      intro joined
      have hspecial : ({ u with path := joined } : Uri).isSpecial = true := web.isSpecial
      rw [setQuery, hspecial]
    exact hquery _

/-! ## Staying below -/

/-- **A text that stays below an address**: it does not lead up, or its path has no last segment that can be taken
back. -/
def Stays (u : Uri) (path : String) : Prop :=
  ascents path = 0 ∨ ∀ s ∈ (Path.segments? u.front).bind List.getLast?, Path.isFixed s = true

instance (u : Uri) (path : String) : Decidable (u.Stays path) :=
  inferInstanceAs (Decidable (_ ∨ _))

theorem ascents_of_added {path : String} (h : added path = []) : ascents path = 0 := by
  rcases hempty : (pathPart path).isEmpty with _ | _
  · rw [added, hempty] at h
    exact absurd (List.reverse_eq_nil_iff.1 h) (Path.pushAll_ne_nil (Text.splitAll_ne_nil _ _))
  · rw [ascents, cut, List.isEmpty_iff.1 hempty]
    rfl

/-- **Appending a text keeps a path just if the text stays below it**: what the text adds then stands behind the
path. -/
theorem path_append_iff (h : u.Sound) (web : u.IsWeb) (path : String) :
    (u.append path).path.toList = Path.orRoot (u.front ++ Path.chars (added path)) ↔ u.Stays path := by
  obtain ⟨segments, hsound, hfront, happend⟩ := append_eq h web path
  have hlast : (Path.segments? (Path.chars segments)).bind List.getLast? = segments.getLast? := by
    rcases segments with _ | ⟨s, ss⟩
    · rfl
    · rw [Path.segments?_chars hsound (List.cons_ne_nil s ss)]
      rfl
  have hstays : u.Stays path ↔ Path.pop^[ascents path] segments.reverse = segments.reverse := by
    rw [Stays, hfront, hlast, Path.iterate_pop_eq_iff, Path.pop_eq_iff, List.head?_reverse]
  rw [hstays, happend, String.toList_ofList, hfront, ← Path.chars_append]
  constructor
  · intro heq
    by_cases hadded : added path = []
    · rw [ascents_of_added hadded]
      rfl
    · rw [Path.orRoot_of_ne_nil (Path.chars_ne_nil (List.append_ne_nil_of_right_ne_nil _ hadded)),
        Path.orRoot_of_ne_nil (Path.chars_ne_nil (List.append_ne_nil_of_right_ne_nil _ hadded)), Path.chars_append,
        Path.chars_append] at heq
      have hkept : AllSound true (Path.pop^[ascents path] segments.reverse).reverse := fun s hs =>
        hsound s (List.mem_reverse.1 ((Path.iterate_pop_suffix _ _).subset (List.mem_reverse.1 hs)))
      exact List.reverse_eq_iff.1 (Path.chars_inj hkept hsound (List.append_cancel_right heq))
  · intro hkept
    rw [hkept, List.reverse_reverse]

/-- What stays below an address is its path, or goes on behind a slash. -/
theorem path_append_of_stays (h : u.Sound) (web : u.IsWeb) {path : String} (stays : u.Stays path) :
    u.front ≠ [] ∧ (u.append path).path.toList = u.front ∨
      ∃ more, (u.append path).path.toList = u.front ++ '/' :: more := by
  rw [(path_append_iff h web path).2 stays]
  rcases added path with _ | ⟨s, ss⟩
  · rw [Path.chars, List.flatMap_nil, List.append_nil]
    rcases hfront : u.front with _ | ⟨c, cs⟩
    · exact .inr ⟨[], rfl⟩
    · exact .inl ⟨List.cons_ne_nil c cs, Path.orRoot_of_ne_nil (List.cons_ne_nil c cs)⟩
  · rw [Path.orRoot_of_ne_nil (List.append_ne_nil_of_right_ne_nil _ (Path.chars_ne_nil (List.cons_ne_nil s ss)))]
    exact .inr ⟨s ++ Path.chars ss, rfl⟩

/-- Scheme and authority are kept whatever is appended. -/
theorem authority_append (h : u.Sound) (web : u.IsWeb) (path : String) :
    (u.append path).scheme = u.scheme ∧ (u.append path).authority = u.authority := by
  obtain ⟨segments, -, -, happend⟩ := append_eq h web path
  rw [happend]
  exact ⟨rfl, rfl⟩

/-- **Relative hrefs and their base.**  A text that is no address is resolved unless it starts like one.  What it is
resolved to has the scheme, the credentials, the host and the port of the base.  Its path is that of the base with what
the text adds behind it just if the text stays below the base; it is then the path of the base without the slashes at
its end, or goes on behind a slash. -/
theorem relative_below {base : Uri} (sound : base.Sound) (web : base.IsWeb) {href : String}
    (relative : ∀ v, parse? href ≠ .ok v) :
    ((∃ u, base.resolve href = .ok u) ↔ parse? href = .error .relativeWithoutBase) ∧
    ∀ u, base.resolve href = .ok u →
      u.scheme = base.scheme ∧ u.authority = base.authority ∧
      (u.path.toList = Path.orRoot (base.front ++ Path.chars (added href)) ↔ base.Stays href) ∧
      (base.Stays href → base.front ≠ [] ∧ u.path.toList = base.front ∨
        ∃ more, u.path.toList = base.front ++ '/' :: more) := by
  have hresolve : ∀ u, base.resolve href = .ok u ↔
      parse? href = .error .relativeWithoutBase ∧ u = base.append href := by
    intro u
    unfold resolve
    rcases hparse : parse? href with e | v
    · cases e <;> simp [eq_comm]
    · exact absurd hparse (relative v)
  refine ⟨⟨fun ⟨u, hu⟩ => ((hresolve u).1 hu).1, fun hparse => ⟨_, (hresolve _).2 ⟨hparse, rfl⟩⟩⟩, fun u hu => ?_⟩
  obtain ⟨-, rfl⟩ := (hresolve u).1 hu
  obtain ⟨hscheme, hauthority⟩ := authority_append sound web href
  exact ⟨hscheme, hauthority, path_append_iff sound web href, path_append_of_stays sound web⟩

/-- A service with a port and a path. -/
def served : Uri where
  scheme := "http"
  authority := some { username := "bart", host := some (.name "host"), port := some 8080 }
  path := "/api//"

/-- A text with dots, escaped ones too, a backslash and a tab that stays below the service. -/
theorem kept_below :
    let href := "\t/girls/.%2e\\boys/./42"
    let u : Uri := { served with path := "/api//boys/42" }
    parse? "http://bart@host:8080/api//" = .ok served ∧ parse? href = .error .relativeWithoutBase ∧
    served.resolve href = .ok u ∧ served.Stays href ∧ ∃ more, u.path.toList = served.front ++ '/' :: more := by
  intro href u
  have hparse : parse? "http://bart@host:8080/api//" = .ok served := by decide +kernel
  have hrelative : parse? href = .error .relativeWithoutBase := by decide +kernel
  have hresolve : served.resolve href = .ok u :=
    (resolve_of_relative served hrelative).trans (congrArg _ (by decide +kernel))
  have hstays : served.Stays href := by decide +kernel
  have hnone : ∀ v, parse? href ≠ .ok v := fun v hv => by
    rw [hrelative] at hv
    cases hv
  obtain ⟨-, hbelow⟩ := relative_below (sound_of_parse? hparse) (.inl rfl) hnone
  obtain ⟨-, -, -, hkept⟩ := hbelow u hresolve
  refine ⟨hparse, hrelative, hresolve, hstays, ?_⟩
  rcases hkept hstays with ⟨-, hpath⟩ | hmore
  · exact absurd hpath (by decide +kernel)
  · exact hmore

/-- **A relative href that leads out of the service**: its double dot takes back the path of the base. -/
theorem led_out :
    let base : Uri := { served with path := "/api" }
    let u : Uri := { served with path := "/girls/42" }
    parse? "http://bart@host:8080/api" = .ok base ∧ parse? "../girls/42" = .error .relativeWithoutBase ∧
    base.resolve "../girls/42" = .ok u ∧
    ¬ (base.front ≠ [] ∧ u.path.toList = base.front ∨ ∃ more, u.path.toList = base.front ++ '/' :: more) := by
  intro base u
  have hrelative : parse? "../girls/42" = .error .relativeWithoutBase := by decide +kernel
  have hresolve : base.resolve "../girls/42" = .ok u :=
    (resolve_of_relative base hrelative).trans (congrArg _ (by decide +kernel))
  refine ⟨by decide +kernel, hrelative, hresolve, ?_⟩
  have hpath : ¬ base.front <+: u.path.toList := by decide +kernel
  rintro (⟨-, hfront⟩ | ⟨more, hmore⟩)
  · exact hpath ⟨[], by rw [hfront, List.append_nil]⟩
  · exact hpath ⟨'/' :: more, hmore.symm⟩

end Uri
end Hypermedia
