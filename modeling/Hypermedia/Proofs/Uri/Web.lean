import Hypermedia.Proofs.Uri.Append
import Hypermedia.Proofs.Uri.Reread
/-!
# Reading addresses on the web again

Reading the text of an address on the web comes down to reading the text of its host, also relative to another address
(`parseFrom?_text_web`).  So two addresses on the web with the same scheme and authority are both read back from their
texts, or none of them is (`read_alike`).
-/
namespace Hypermedia

namespace Authority

open Uri (isSpecialScheme)

variable {scheme : String} {a : Authority} {host : Host}

/-- **Reading the text of an authority on the web is reading that of its host.** -/
theorem authority?_web (h : a.Sound scheme) (special : isSpecialScheme scheme = true) (hhost : a.host = some host) :
    Uri.authority? scheme a.chars = (Host.special? host.chars).map fun read => ({ a with host := some read }, []) := by
  obtain ⟨hport, hleft⟩ := port?_portChars h
  have hchars : a.hostChars = host.chars := by simp [hostChars, hhost]
  have hempty : host.chars.isEmpty = false := by simpa using (h.host host hhost).chars_ne_nil
  rw [authority?_eq (splitCredentials_chars h) (splitHost_hostChars h), signedIn_signInChars h, hport, hleft, hchars,
    hempty, special]
  rcases Host.special? host.chars with e | read
  · rfl
  · simp [bind, Except.bind, Except.map]

end Authority

namespace Uri

open Hypermedia.Path (AllSound Segment)

variable {u v : Uri} {a : Authority} {host : Host}

theorem IsWeb.ofScheme_eq (web : u.IsWeb) (base : Option Uri) (cs : List Char)
    (slashes : base.isSome = true → 2 ≤ (cs.takeWhile (Path.isSeparator true)).length) :
    ofScheme base u.scheme cs = ofAuthority u.scheme (cs.dropWhile (Path.isSeparator true)) := by
  have hfile : (u.scheme == "file") = false := beq_eq_false_iff_ne.2 web.ne_file
  have hspecial : isSpecialScheme u.scheme = true := web.isSpecial
  unfold ofScheme
  rw [hfile, hspecial]
  rcases base with _ | b
  · rfl
  · have hmany : ¬ (cs.takeWhile (Path.isSeparator true)).length < 2 := Nat.not_lt.2 (slashes rfl)
    simp [hmany]

variable {segments : List Segment}

theorem Hosted.withHost (hosted : u.Hosted a segments) (web : u.IsWeb) {read : Host} (hread : read.Sound true) :
    ({ u with authority := some { a with host := some read } } : Uri).Hosted { a with host := some read } segments := by
  have hscheme : isSpecialScheme u.scheme = true := web.isSpecial
  refine ⟨rfl, { hosted.sound with host := fun host hhost => ?_, bare := fun hnone => ?_ }, hosted.dotted, hosted.path,
    hosted.segments⟩
  · cases hhost
    rwa [hscheme]
  · cases hnone

/-- An address on the web with another host is an address on the web. -/
theorem Hosted.sound_withHost (hosted : u.Hosted a segments) (h : u.Sound) (web : u.IsWeb) (hne : segments ≠ [])
    {read : Host} (hread : read.Sound true) :
    ({ u with authority := some { a with host := some read } } : Uri).Sound :=
  ⟨h.scheme, .web (hosted.withHost web hread) web.isSpecial web.ne_file rfl hne, h.query, h.fragment⟩

/-- **Reading an address on the web behind its scheme is reading its host.** -/
theorem ofAuthority_web (h : u.Sound) (web : u.IsWeb) (hauthority : u.authority = some a) (hhost : a.host = some host) :
    ofAuthority u.scheme (a.chars ++ (u.path.toList ++ u.tailChars)) =
      (Host.special? host.chars).map fun read => { u with authority := some { a with host := some read } } := by
  obtain ⟨b, segments, hosted, -, hne⟩ := h.hosted web
  obtain rfl : b = a := Option.some.inj (hosted.authority.symm.trans hauthority)
  have hscheme : isSpecialScheme u.scheme = true := web.isSpecial
  have hends := hosted.sound.not_endsAuthority (isSpecialScheme u.scheme)
  have hhead := head?_path_tail hosted (isSpecialScheme u.scheme)
  have hpath : u.path.toList = Path.chars segments := by rw [hosted.path, String.toList_ofList]
  obtain ⟨s, ss, rfl⟩ := List.exists_cons_of_ne_nil hne
  unfold ofAuthority
  simp only [Text.takeWhile_append hends hhead, Text.dropWhile_append hends hhead, bind, Except.bind, pure, Except.pure,
    Authority.authority?_web hosted.sound hscheme hhost]
  rw [if_neg (by simp [hosted.sound.chars_ne_at])]
  rcases hspecial : Host.special? host.chars with e | read
  · rfl
  have hread := Host.sound_of_special? hspecial
  have hwhole := (hosted.withHost web hread).withSegments_eq (hosted.sound_withHost h web hne hread) fun hf =>
    absurd hf web.ne_file
  have hfirst : u.path.toList ++ u.tailChars = '/' :: (s ++ Path.chars ss ++ u.tailChars) := by rw [hpath]; rfl
  have hsep : Path.isSeparator (isSpecialScheme u.scheme) '/' = true := by rw [hscheme]; rfl
  simp only [Except.map, List.nil_append, hfirst, hsep, if_true]
  rw [withPathTail_chars (v := { scheme := u.scheme, authority := some { b with host := some read } })
    hosted.segments rfl]
  exact congrArg _ hwhole

/-- **Reading the text of an address on the web is reading that of its host**, relative to another address or not. -/
theorem parseFrom?_text_web (h : u.Sound) (web : u.IsWeb) (hauthority : u.authority = some a)
    (hhost : a.host = some host) (base : Option Uri) :
    parseFrom? base u.text =
      (Host.special? host.chars).map fun read => { u with authority := some { a with host := some read } } := by
  obtain ⟨b, segments, hosted, -, -⟩ := h.hosted web
  obtain rfl : b = a := Option.some.inj (hosted.authority.symm.trans hauthority)
  have hchars : u.authorityChars = '/' :: '/' :: b.chars := by rw [authorityChars, hauthority]
  have hdrop : (u.authorityChars ++ (u.path.toList ++ u.tailChars)).dropWhile (Path.isSeparator true) =
      b.chars ++ (u.path.toList ++ u.tailChars) := by
    rw [hchars]
    exact dropWhile_slashes hosted.sound (by rw [hhost]; rfl) _
  have hslashes : 2 ≤ ((u.authorityChars ++ (u.path.toList ++ u.tailChars)).takeWhile
    (Path.isSeparator true)).length := by
    rw [hchars]
    exact Nat.le_add_left 2 _
  unfold parseFrom?
  simp only [h.trimmed_text, chars_eq, scheme?_chars h.scheme]
  rw [web.ofScheme_eq base _ fun _ => hslashes, hdrop, ofAuthority_web h web hauthority hhost]

/-- Whatever host is read from the text of an address on the web, the path is read as it is. -/
theorem path_of_parseFrom?_text (h : u.Sound) (web : u.IsWeb) {base : Option Uri}
    (hread : parseFrom? base u.text = .ok v) : v.path = u.path := by
  obtain ⟨a, segments, hosted, hhost, -⟩ := h.hosted web
  obtain ⟨host, hhost⟩ := Option.isSome_iff_exists.1 hhost
  rw [parseFrom?_text_web h web hosted.authority hhost] at hread
  rcases hs : Host.special? host.chars with e | read <;> rw [hs] at hread <;> cases hread
  rfl

/-- An address on the web is read from its text just when its host is. -/
theorem parseFrom?_text_iff (h : u.Sound) (web : u.IsWeb) (hauthority : u.authority = some a)
    (hhost : a.host = some host) (base : Option Uri) :
    parseFrom? base u.text = .ok u ↔ Host.special? host.chars = .ok host := by
  rw [parseFrom?_text_web h web hauthority hhost]
  rcases Host.special? host.chars with e | read
  · exact ⟨nofun, nofun⟩
  · rw [Except.map, Except.ok.injEq, Except.ok.injEq]
    constructor
    · intro heq
      have hread : some { a with host := some read } = some a := (congrArg authority heq).trans hauthority
      have hhosts : some read = a.host := congrArg Authority.host (Option.some.inj hread)
      exact Option.some.inj (hhosts.trans hhost)
    · rintro rfl
      rw [← hhost, ← hauthority]

/-- **Addresses on the web with one scheme and authority are read from their texts alike**, also relative to others. -/
theorem read_alike (h : u.Sound) (web : u.IsWeb) (hv : v.Sound) (scheme : v.scheme = u.scheme)
    (authority : v.authority = u.authority) (base : Option Uri) :
    parseFrom? base v.text = .ok v ↔ parse? u.text = .ok u := by
  obtain ⟨a, segments, hosted, hhost, -⟩ := h.hosted web
  obtain ⟨host, hhost⟩ := Option.isSome_iff_exists.1 hhost
  have webv : v.IsWeb := by
    unfold IsWeb
    rwa [scheme]
  rw [parse?, parseFrom?_text_iff h web hosted.authority hhost,
    parseFrom?_text_iff hv webv (authority.trans hosted.authority) hhost]

end Uri
end Hypermedia
