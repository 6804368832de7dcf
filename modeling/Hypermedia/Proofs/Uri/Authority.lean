import Hypermedia.Proofs.Uri.Host.Text
import Hypermedia.Uri.Parse
/-!
# Authorities that were read

An authority that was read has encoded credentials, a sound host and a port that is not the one of the scheme
(`Authority.Sound`).  From its text the same authority is read again (`authority?_chars`), and no two authorities have
the same text (`eq_of_chars_eq`).
-/
namespace Hypermedia
namespace Authority

open Percent (Encoded)

/-- **An authority that was read** for a scheme.  Without a host there is nothing else. -/
structure Sound (scheme : String) (a : Authority) : Prop where
  username : Encoded Percent.credentialSet a.username.toList
  password : ∀ p, a.password = some p → p.toList ≠ [] ∧ Encoded Percent.credentialSet p.toList
  host : ∀ h, a.host = some h → h.Sound (Uri.isSpecialScheme scheme)
  port : ∀ n, a.port = some n → n ≤ 65535 ∧ Uri.defaultPort? scheme ≠ some n
  bare : a.host = none → a = {}

variable {scheme : String} {a a' : Authority}

theorem sound_empty : Sound scheme {} where
  username _ hc := by cases hc
  password _ h := by cases h
  host _ h := by cases h
  port _ h := by cases h
  bare _ := rfl

theorem sound_host {h : Host} (hsound : h.Sound (Uri.isSpecialScheme scheme)) : Sound scheme { host := some h } where
  username _ hc := by cases hc
  password _ h := by cases h
  host _ h := Option.some.inj h ▸ hsound
  port _ h := by cases h
  bare h := by cases h

/-! ## Characters -/

/-- A character that may stand in credentials, also between name and password. -/
theorem isHostChar_of_credential {c : Char} (hset : Percent.credentialSet c = false) (hascii : c.toNat < 0x80) :
    Host.IsHostChar c ∧ c ≠ ':' :=
  Text.of_ascii (P := fun c => Percent.credentialSet c = false → Host.IsHostChar c ∧ c ≠ ':') (by decide +kernel) hascii
    hset

/-- The name and the password with a colon between them. -/
def signInChars (a : Authority) : List Char :=
  match a.password with
  | some p => a.username.toList ++ ':' :: p.toList
  | none => a.username.toList

def hostChars (a : Authority) : List Char := (a.host.map Host.chars).getD []

theorem chars_eq (a : Authority) : a.chars = a.credentialChars ++ (a.hostChars ++ a.portChars) :=
  List.append_assoc _ _ _

/-- An authority that is nothing but a host is written as the host. -/
theorem chars_of_bare (h : a = { host := a.host }) : a.chars = a.hostChars := by
  rw [chars_eq, h]
  simp [credentialChars, portChars, hostChars]

theorem credentialChars_cases (a : Authority) :
    (a.credentialChars = [] ∧ a.username = "" ∧ a.password = none) ∨ a.credentialChars = a.signInChars ++ ['@'] := by
  unfold credentialChars signInChars
  rcases a.password with _ | p
  · by_cases hname : a.username.isEmpty
    · exact .inl ⟨if_pos hname, by simpa using hname, rfl⟩
    · exact .inr (if_neg hname)
  · exact .inr (by simp)

theorem Sound.isHostChar_signIn (h : a.Sound scheme) : ∀ c ∈ a.signInChars, Host.IsHostChar c := by
  intro c hc
  have husername : ∀ c ∈ a.username.toList, Host.IsHostChar c := fun c hc =>
    (isHostChar_of_credential (h.username c hc).1 (h.username c hc).2).1
  unfold signInChars at hc
  rcases hp : a.password with _ | p
  · rw [hp] at hc
    exact husername c hc
  · rw [hp] at hc
    rcases List.mem_append.1 hc with hc | hc
    · exact husername c hc
    · rcases List.mem_cons.1 hc with rfl | hc
      · unfold Host.IsHostChar
        decide
      · have hencoded := (h.password p hp).2 c hc
        exact (isHostChar_of_credential hencoded.1 hencoded.2).1

theorem isDigit_of_mem_portChars {c : Char} (h : c ∈ a.portChars) : c = ':' ∨ c.isDigit = true := by
  unfold portChars at h
  split at h
  · rcases List.mem_cons.1 h with rfl | h
    · exact .inl rfl
    · exact .inr (Nat.isDigit_of_mem_toDigits (by decide) (by decide) h)
  · cases h

theorem Sound.isHostChar_hostPort (h : a.Sound scheme) : ∀ c ∈ a.hostChars ++ a.portChars, Host.IsHostChar c := by
  intro c hc
  rcases List.mem_append.1 hc with hc | hc
  · unfold hostChars at hc
    rcases hh : a.host with _ | host
    · rw [hh] at hc; cases hc
    · rw [hh] at hc
      exact (h.host host hh).isHostChar c hc
  · rcases isDigit_of_mem_portChars hc with rfl | hdigit
    · unfold Host.IsHostChar
      decide
    · exact (Host.isBare_of_isDigit hdigit).1

/-- **The text of an authority** has none of the marks behind an authority. -/
theorem Sound.mem_chars (h : a.Sound scheme) : ∀ c ∈ a.chars, c = '@' ∨ Host.IsHostChar c := by
  intro c hc
  rw [chars_eq] at hc
  rcases List.mem_append.1 hc with hc | hc
  · rcases a.credentialChars_cases with ⟨hnil, -⟩ | hsign
    · rw [hnil] at hc; cases hc
    · rw [hsign] at hc
      rcases List.mem_append.1 hc with hc | hc
      · exact .inr (h.isHostChar_signIn c hc)
      · exact .inl (List.mem_singleton.1 hc)
  · exact .inr (h.isHostChar_hostPort c hc)

theorem Sound.not_endsAuthority (h : a.Sound scheme) (special : Bool) :
    ∀ c ∈ a.chars, (!Uri.endsAuthority special c) = true := by
  intro c hc
  rcases h.mem_chars c hc with rfl | hchar
  · cases special <;> rfl
  · rcases he : Uri.endsAuthority special c with _ | _
    · rfl
    · simp only [Uri.endsAuthority, Bool.or_eq_true, Bool.and_eq_true, beq_iff_eq] at he
      rcases he with ((rfl | rfl) | rfl) | ⟨-, rfl⟩ <;> exact absurd hchar.2.2 (by decide)

theorem Sound.chars_ne_at (h : a.Sound scheme) : a.chars ≠ ['@'] := by
  intro heq
  rw [chars_eq] at heq
  rcases a.credentialChars_cases with ⟨hnil, -⟩ | hsign
  · rw [hnil, List.nil_append] at heq
    have := h.isHostChar_hostPort '@' (heq ▸ List.mem_singleton_self '@')
    exact absurd this.2.2 (by decide)
  · rw [hsign, List.append_assoc] at heq
    have hlen := congrArg List.length heq
    simp only [List.length_append, List.length_singleton] at hlen
    have hhost : a.hostChars = [] := List.eq_nil_of_length_eq_zero (by omega)
    unfold hostChars at hhost
    rcases hh : a.host with _ | host
    · have := h.bare hh
      rw [this] at hsign
      cases hsign
    · rw [hh] at hhost
      exact (h.host host hh).chars_ne_nil hhost

theorem Sound.chars_ne_nil (h : a.Sound scheme) (hhost : a.host.isSome = true) : a.chars ≠ [] := by
  intro hnil
  rw [chars_eq] at hnil
  have hchars := (List.append_eq_nil_iff.1 (List.append_eq_nil_iff.1 hnil).2).1
  unfold hostChars at hchars
  rcases hh : a.host with _ | host
  · rw [hh] at hhost; cases hhost
  · rw [hh] at hchars
    exact (h.host host hh).chars_ne_nil hchars

/-! ## Reading the parts again -/

theorem not_mem_of_isHostChar {cs : List Char} (h : ∀ c ∈ cs, Host.IsHostChar c) : '@' ∉ cs := fun hc =>
  absurd (h '@' hc).2.2 (by decide)

/-- **Credentials are split from the host again.** -/
theorem splitCredentials_chars (h : a.Sound scheme) : Uri.splitCredentials a.chars =
    (if a.credentialChars.isEmpty then none else some a.signInChars, a.hostChars ++ a.portChars) := by
  have hhost := not_mem_of_isHostChar h.isHostChar_hostPort
  rw [chars_eq]
  unfold Uri.splitCredentials
  rcases a.credentialChars_cases with ⟨hnil, -⟩ | hsign
  · rw [hnil, List.nil_append, if_neg (by simpa using hhost)]
    rfl
  · have hreverse : (a.signInChars ++ ['@'] ++ (a.hostChars ++ a.portChars)).reverse =
        (a.hostChars ++ a.portChars).reverse ++ '@' :: a.signInChars.reverse := by simp
    have hbefore : ∀ c ∈ (a.hostChars ++ a.portChars).reverse, (c != '@') = true := fun c hc => by
      have hmem := List.mem_reverse.1 hc
      simpa using fun he : c = '@' => hhost (he ▸ hmem)
    rw [hsign, hreverse, Text.takeWhile_append hbefore (by simp), Text.dropWhile_append hbefore (by simp),
      if_pos (by simp)]
    simp

/-- **Credentials are read from their text.** -/
theorem credentials_signInChars (h : a.Sound scheme) :
    Uri.credentials a.signInChars = { username := a.username, password := a.password } := by
  have hcolon : ':' ∉ a.username.toList := fun hc =>
    (isHostChar_of_credential (h.username ':' hc).1 (h.username ':' hc).2).2 rfl
  have husername := Percent.encode_of_encoded h.username
  unfold Uri.credentials signInChars
  rcases hp : a.password with _ | p
  · simp only [Text.splitFirst_of_not_mem hcolon, husername, String.ofList_toList]
  · obtain ⟨hne, hencoded⟩ := h.password p hp
    simp only [Text.splitFirst_append p.toList hcolon, husername, String.ofList_toList]
    rcases hcs : p.toList with _ | ⟨c, cs⟩
    · exact absurd hcs hne
    · simp only [← hcs, Percent.encode_of_encoded hencoded, String.ofList_toList]

theorem splitHost_append {inBrackets : Bool} {xs ys : List Char} (hopen : ∀ c ∈ xs, c ∉ "[]".toList)
    (hcolon : inBrackets = false → ':' ∉ xs) :
    Uri.splitHost inBrackets (xs ++ ys) = (xs ++ (Uri.splitHost inBrackets ys).1, (Uri.splitHost inBrackets ys).2) := by
  induction xs with
  | nil => rfl
  | cons x xs ih =>
    have ih := ih (fun c hc => hopen c (List.mem_cons_of_mem x hc))
      fun hb hc => hcolon hb (List.mem_cons_of_mem x hc)
    have hx := hopen x List.mem_cons_self
    have hsep : (x == ':' && !inBrackets) = false := by
      rcases inBrackets with _ | _
      · simpa using fun he : x = ':' => hcolon rfl (he ▸ List.mem_cons_self)
      · simp
    have hleft : x ≠ '[' := by rintro rfl; exact hx (by decide)
    have hright : x ≠ ']' := by rintro rfl; exact hx (by decide)
    rw [List.cons_append, Uri.splitHost, if_neg (by simp [hsep])]
    simp only [beq_eq_false_iff_ne.2 hleft, beq_eq_false_iff_ne.2 hright, Bool.false_eq_true, if_false, ih]
    rfl

theorem splitHost_portChars (a : Authority) : Uri.splitHost false a.portChars = ([], a.portChars) := by
  unfold portChars
  split
  · rfl
  · rfl

/-- **The host is split from the port again.** -/
theorem splitHost_hostChars (h : a.Sound scheme) :
    Uri.splitHost false (a.hostChars ++ a.portChars) = (a.hostChars, a.portChars) := by
  unfold hostChars
  rcases hh : a.host with _ | host
  · exact splitHost_portChars a
  · rcases (h.host host hh).bare_or_bracketed with hbare | ⟨ps, rfl⟩
    · have hall : ∀ c, c ∉ ":[]".toList → c ∉ "[]".toList ∧ c ≠ ':' := fun c hc => by
        simp at hc ⊢
        exact ⟨hc.2, hc.1⟩
      rw [Option.map_some, Option.getD_some, splitHost_append (fun c hc => (hall c (hbare c hc).2).1)
        fun _ hc => (hall ':' (hbare ':' hc).2).2 rfl, splitHost_portChars, List.append_nil]
    · have hpieces : ∀ c ∈ Host.ipv6Chars ps, c ∉ "[]".toList := by
        have hall : ∀ c ∈ ":0123456789abcdef".toList, c ∉ "[]".toList := List.all_iff_forall_prop.1 (by decide)
        exact fun c hc => hall c (Host.mem_ipv6Chars hc)
      have hinner : Uri.splitHost true (Host.ipv6Chars ps ++ ']' :: a.portChars) =
          (Host.ipv6Chars ps ++ (Uri.splitHost true (']' :: a.portChars)).1,
            (Uri.splitHost true (']' :: a.portChars)).2) := splitHost_append hpieces nofun
      have hclose : Uri.splitHost true (']' :: a.portChars) = ([']'], a.portChars) := by
        rw [Uri.splitHost]
        simp [splitHost_portChars]
      rw [Option.map_some, Option.getD_some, Host.chars, List.cons_append, List.cons_append, List.append_assoc,
        List.singleton_append, Uri.splitHost]
      simp only [show ('[' == ':' && !false) = false from rfl, Bool.false_eq_true, if_false, beq_self_eq_true, if_true,
        hinner, hclose]

theorem port?_portChars (h : a.Sound scheme) : Uri.port? scheme (a.portChars.drop 1) = .ok a.port ∧
    (a.portChars.drop 1).dropWhile Char.isDigit = [] := by
  unfold portChars
  rcases hp : a.port with _ | n
  · exact ⟨by simp [Uri.port?], rfl⟩
  · obtain ⟨hle, hdefault⟩ := h.port n hp
    have hdigits : ∀ c ∈ Nat.toDigits 10 n, c.isDigit = true := fun c hc =>
      Nat.isDigit_of_mem_toDigits (by decide) (by decide) hc
    have htake : (Nat.toDigits 10 n ++ []).takeWhile Char.isDigit = Nat.toDigits 10 n :=
      Text.takeWhile_append hdigits rfl
    have hdrop : (Nat.toDigits 10 n ++ []).dropWhile Char.isDigit = [] := Text.dropWhile_append hdigits rfl
    rw [List.append_nil] at htake hdrop
    have hvalue : (Nat.toDigits 10 n).foldl (fun n d => 10 * n + (d.toNat - 48)) 0 = n := Nat.ofDigitChars_ten_toDigits
    have hempty : (Nat.toDigits 10 n).isEmpty = false := by simp
    refine ⟨?_, by simpa using hdrop⟩
    unfold Uri.port?
    simp only [List.drop_succ_cons, List.drop_zero, htake, hdrop, hvalue]
    rw [if_neg (by simpa using hle), hempty, beq_eq_false_iff_ne.2 hdefault]
    rfl

/-- The credentials in front of an at sign, if there is one. -/
def signedIn : Option (List Char) → Authority
  | some c => Uri.credentials c
  | none => {}

/-- The credentials of an authority are read from its text. -/
theorem signedIn_signInChars (h : a.Sound scheme) :
    signedIn (if a.credentialChars.isEmpty then none else some a.signInChars) =
      { username := a.username, password := a.password } := by
  rcases a.credentialChars_cases with ⟨hnil, hu, hp⟩ | hsign
  · rw [if_pos (by simp [hnil]), hu, hp]
    rfl
  · rw [if_neg (by simp [hsign])]
    exact credentials_signInChars h

/-- The steps of reading an authority from its parts. -/
theorem authority?_eq {cs rest host port : List Char} {sign : Option (List Char)}
    (hsplit : Uri.splitCredentials cs = (sign, rest)) (hsplit' : Uri.splitHost false rest = (host, port)) :
    Uri.authority? scheme cs =
      if Uri.isSpecialScheme scheme && host.isEmpty then .error .emptyHost
      else (if Uri.isSpecialScheme scheme then (Host.special? host).map some else Host.plain? host) >>= fun h =>
        if h.isNone && !port.isEmpty then .error .emptyHost
        else Uri.port? scheme (port.drop 1) >>= fun n =>
          if h.isNone && !(signedIn sign).credentialChars.isEmpty then .error .emptyHost
          else .ok ({ signedIn sign with host := h, port := n }, (port.drop 1).dropWhile Char.isDigit) := by
  unfold Uri.authority?
  simp only [hsplit, hsplit']
  cases sign <;> cases Uri.isSpecialScheme scheme <;> rfl

/-- **An authority is read from its text.**  A special address has a host, whose name has to be its own ASCII form. -/
theorem authority?_chars (h : a.Sound scheme) (hhost : Uri.isSpecialScheme scheme = true → a.host.isSome)
    (hname : ∀ text, Uri.isSpecialScheme scheme = true → a.host = some (.name text) →
      Domain.ascii? text.toList = some text.toList) :
    Uri.authority? scheme a.chars = .ok (a, []) := by
  obtain ⟨hport, hleft⟩ := port?_portChars h
  rw [authority?_eq (splitCredentials_chars h) (splitHost_hostChars h), signedIn_signInChars h, hport, hleft]
  rcases hh : a.host with _ | host
  · obtain rfl := h.bare hh
    have hspecial : Uri.isSpecialScheme scheme = false := by simpa using hhost
    simp [hspecial, hostChars, portChars, Host.plain?, bind, Except.bind, credentialChars]
  · have hsound := h.host host hh
    have hchars : a.hostChars = host.chars := by simp [hostChars, hh]
    have hread : (if Uri.isSpecialScheme scheme then (Host.special? host.chars).map some else Host.plain? host.chars) =
        .ok (some host) := by
      rcases hs : Uri.isSpecialScheme scheme with _ | _
      · exact Host.plain?_chars (hs ▸ hsound)
      · rw [if_pos rfl, Host.special?_chars (hs ▸ hsound) fun text ht => hname text hs (ht ▸ hh)]
        rfl
    have hempty : host.chars.isEmpty = false := by simpa using hsound.chars_ne_nil
    rw [hchars, hempty, hread]
    simp [bind, Except.bind]
    rw [← hh]

/-- The credentials that are read are encoded. -/
theorem sound_signedIn (sign : Option (List Char)) : (signedIn sign).host = none ∧ (signedIn sign).port = none ∧
    Encoded Percent.credentialSet (signedIn sign).username.toList ∧
      ∀ p, (signedIn sign).password = some p → p.toList ≠ [] ∧ Encoded Percent.credentialSet p.toList := by
  have hencoded := Percent.encoded_encode Percent.sparesSigns_credentialSet
  rcases sign with _ | cs
  · refine ⟨rfl, rfl, ?_, fun p hp => by cases hp⟩
    intro c hc
    cases hc
  · refine ⟨rfl, rfl, ?_, fun p hp => ?_⟩
    · rw [signedIn, Uri.credentials, String.toList_ofList]
      exact hencoded _
    · rw [signedIn, Uri.credentials] at hp
      simp only at hp
      split at hp
      · cases hp
      · cases hp
      · rename_i c hne _
        cases hp
        rw [String.toList_ofList]
        exact ⟨Percent.encode_ne_nil _ fun hnil => hne hnil, hencoded _⟩

theorem port?_ok {cs : List Char} {n : Nat} (h : Uri.port? scheme cs = .ok (some n)) :
    n ≤ 65535 ∧ Uri.defaultPort? scheme ≠ some n := by
  unfold Uri.port? at h
  simp only at h
  split at h
  · cases h
  · rename_i hfits
    have hor := Except.ok.inj h
    split at hor
    · cases hor
    · rename_i hother
      cases hor
      simp only [Bool.or_eq_true, decide_eq_true_eq, not_or, Nat.not_lt] at hfits hother
      exact ⟨hfits.1, by simpa using hother.2⟩

/-- The host that is read for a special address, or for one of another kind. -/
theorem sound_of_host {special : Bool} {cs : List Char} {host? : Option Host}
    (hread : (if special then (Host.special? cs).map some else Host.plain? cs) = .ok host?) :
    (∀ host, host? = some host → host.Sound special) ∧ (special = true → host?.isSome) := by
  cases special with
  | false => exact ⟨fun host hh => Host.sound_of_plain? (hh ▸ hread), fun hs => by cases hs⟩
  | true =>
    rw [if_pos rfl] at hread
    rcases hr : Host.special? cs with e | host'
    · rw [hr] at hread
      cases hread
    · rw [hr] at hread
      cases hread
      refine ⟨fun host hh => ?_, fun _ => rfl⟩
      cases hh
      exact Host.sound_of_special? hr

/-- **An authority that is read is sound**, and in a special address it has a host. -/
theorem sound_of_authority? {cs left : List Char} (hread : Uri.authority? scheme cs = .ok (a, left)) :
    a.Sound scheme ∧ (Uri.isSpecialScheme scheme = true → a.host.isSome) := by
  rcases hsplit : Uri.splitCredentials cs with ⟨sign, rest⟩
  rcases hsplit' : Uri.splitHost false rest with ⟨host, port⟩
  obtain ⟨-, -, husername, hpassword⟩ := sound_signedIn sign
  rw [authority?_eq hsplit hsplit'] at hread
  split at hread
  · cases hread
  rcases hhost : (if Uri.isSpecialScheme scheme then (Host.special? host).map some else Host.plain? host) with e | h
  · rw [hhost] at hread; cases hread
  simp only [hhost, bind, Except.bind] at hread
  split at hread
  · cases hread
  rename_i hport
  rcases hn : Uri.port? scheme (port.drop 1) with e | n
  · rw [hn] at hread; cases hread
  simp only [hn] at hread
  split at hread
  · cases hread
  rename_i hsign
  cases hread
  obtain ⟨hsound, hsome⟩ := sound_of_host hhost
  refine ⟨⟨husername, hpassword, hsound, fun m hm => port?_ok (by rw [hn]; exact congrArg _ hm), fun hh => ?_⟩, hsome⟩
  simp only at hh
  subst hh
  have hport : port = [] := by simpa using hport
  have hnone : n = none := by
    rw [hport] at hn
    simpa [Uri.port?] using hn.symm
  have hsign : (signedIn sign).credentialChars = [] := by simpa using hsign
  rcases (signedIn sign).credentialChars_cases with ⟨-, hu, hp⟩ | hsome
  · simp only [hu, hp, hnone]
  · rw [hsome] at hsign
    simp at hsign

/-- **No two authorities have the same text.** -/
theorem eq_of_chars_eq (h : a.Sound scheme) (h' : a'.Sound scheme) (heq : a.chars = a'.chars) : a = a' := by
  have hsplit := splitCredentials_chars h
  rw [heq, splitCredentials_chars h', Prod.mk.injEq] at hsplit
  obtain ⟨hsign, hrest⟩ := hsplit
  have hsplit' := splitHost_hostChars h
  rw [← hrest, splitHost_hostChars h', Prod.mk.injEq] at hsplit'
  obtain ⟨hhost, hport⟩ := hsplit'
  have hcredentials := signedIn_signInChars h
  rw [← hsign, signedIn_signInChars h', Authority.mk.injEq] at hcredentials
  obtain ⟨husername, hpassword, -, -⟩ := hcredentials
  have hports : a.port = a'.port := by
    have hread := (port?_portChars h).1
    rw [← hport, (port?_portChars h').1] at hread
    exact (Except.ok.inj hread).symm
  have hhosts : a.host = a'.host := by
    unfold hostChars at hhost
    rcases hh : a.host with _ | host
    · rcases hh' : a'.host with _ | host'
      · rfl
      · rw [hh, hh'] at hhost
        exact absurd hhost (h'.host host' hh').chars_ne_nil
    · rcases hh' : a'.host with _ | host'
      · rw [hh, hh'] at hhost
        exact absurd hhost.symm (h.host host hh).chars_ne_nil
      · rw [hh, hh'] at hhost
        exact congrArg some (Host.eq_of_chars_eq (h.host host hh) (h'.host host' hh') hhost.symm)
  cases a
  cases a'
  simp only at husername hpassword hhosts hports
  rw [husername, hpassword, hhosts, hports]

end Authority
end Hypermedia
