import Hypermedia.Uri.Host.Read
import Hypermedia.Uri.Path
/-!
# Reading addresses

An address is read from its text, alone or relative to a base.  Tabs and line breaks are ignored everywhere, blanks and
control characters at both ends.  A backslash counts as a slash in special addresses.
-/
namespace Hypermedia
namespace Uri

def isIgnored (c : Char) : Bool := c == '\t' || c == '\n' || c == '\r'

def significant (s : String) : List Char := s.toList.filter (!isIgnored ·)

def trimmed (s : String) : List Char :=
  (Text.stripBoth (fun c => c.toNat ≤ 0x20) s.toList).filter (!isIgnored ·)

def isSchemeChar (c : Char) : Bool := c.isAlphanum || c == '+' || c == '-' || c == '.'

def scheme? (cs : List Char) : Option (String × List Char) :=
  match cs with
  | [] => none
  | c :: _ =>
    if c.isAlpha then
      match cs.dropWhile isSchemeChar with
      | ':' :: rest => some (String.ofList ((cs.takeWhile isSchemeChar).map Char.toLower), rest)
      | _ => none
    else none

def endsAuthority (special : Bool) (c : Char) : Bool :=
  c == '/' || c == '?' || c == '#' || (special && c == '\\')

def withTail (u : Uri) (cs : List Char) : Uri :=
  let fragment := fun fs => some (String.ofList (Percent.encode Percent.fragmentSet fs))
  match cs with
  | '?' :: qs =>
    let r := Text.splitFirst '#' qs
    { u with
      query := some (String.ofList (Percent.encode (Percent.querySet u.isSpecial) r.1))
      fragment := r.2.bind fragment }
  | '#' :: fs => { u with query := none, fragment := fragment fs }
  | _ => { u with query := none, fragment := none }

def endsPath (c : Char) : Bool := c == '?' || c == '#'

/-- The address with the hierarchical path of the given segments, and with the query and the fragment that `tail` holds.
Where no authority stands before two slashes, a dot does. -/
def withSegments (u : Uri) (segments : List Path.Segment) (tail : List Char) : Uri :=
  let path := Path.ofSegments (u.scheme == "file") segments
  let dotted := u.authority.isNone && (Text.afterStart? ['/', '/'] path.toList).isSome
  withTail { u with path, dotted } tail

/-- The address with the hierarchical path, the query and the fragment that `cs` holds behind a slash; `base` holds the
segments before it, the last one first. -/
def withPathTail (u : Uri) (base : List Path.Segment) (cs : List Char) (mend : Bool := false) : Uri :=
  withSegments u (Path.readFrom mend u.isSpecial base (cs.takeWhile (!endsPath ·))) (cs.dropWhile (!endsPath ·))

def credentials (cs : List Char) : Authority :=
  let r := Text.splitFirst ':' cs
  { username := String.ofList (Percent.encode Percent.credentialSet r.1)
    password := match r.2 with
      | none => none
      | some [] => none
      | some p => some (String.ofList (Percent.encode Percent.credentialSet p)) }

/-- Splits an authority behind its last at sign: the credentials, absent without a sign, and the host and port. -/
def splitCredentials (cs : List Char) : Option (List Char) × List Char :=
  if cs.contains '@' then
    (some ((cs.reverse.dropWhile (· != '@')).drop 1).reverse, (cs.reverse.takeWhile (· != '@')).reverse)
  else (none, cs)

/-- Splits a host from the colon behind it; a colon in brackets belongs to the host. -/
def splitHost (inBrackets : Bool) : List Char → List Char × List Char
  | [] => ([], [])
  | c :: cs =>
    if c == ':' && !inBrackets then ([], c :: cs)
    else
      let r := splitHost (if c == '[' then true else if c == ']' then false else inBrackets) cs
      (c :: r.1, r.2)

/-- The port behind a host: absent without digits, and when it is the one of the scheme. -/
def port? (scheme : String) (cs : List Char) : Except UriError (Option Nat) :=
  let ds := cs.takeWhile Char.isDigit
  let n := ds.foldl (fun n d => 10 * n + (d.toNat - 48)) 0
  if 65535 < n || (cs.dropWhile Char.isDigit).head?.any (· != '\\') then .error .invalidPort
  else .ok (if ds.isEmpty || defaultPort? scheme == some n then none else some n)

/-- The authority that a text spells, for a scheme other than `file`, and what a backslash behind the port leaves. -/
def authority? (scheme : String) (cs : List Char) : Except UriError (Authority × List Char) := do
  let special := isSpecialScheme scheme
  let r := splitCredentials cs
  let a := match r.1 with
    | some c => credentials c
    | none => {}
  let h := splitHost false r.2
  if special && h.1.isEmpty then throw .emptyHost
  let host ← if special then (Host.special? h.1).map some else Host.plain? h.1
  if host.isNone && !h.2.isEmpty then throw .emptyHost
  let port ← port? scheme (h.2.drop 1)
  if host.isNone && !a.credentialChars.isEmpty then throw .emptyHost
  return ({ a with host, port }, (h.2.drop 1).dropWhile Char.isDigit)

def ofAuthority (scheme : String) (cs : List Char) : Except UriError Uri := do
  let special := isSpecialScheme scheme
  let before := cs.takeWhile (!endsAuthority special ·)
  let after := cs.dropWhile (!endsAuthority special ·)
  if before == ['@'] && !after.isEmpty then throw .emptyHost
  let (a, left) ← authority? scheme before
  let u : Uri := { scheme, authority := some a }
  match left ++ after with
  | c :: rest =>
    if Path.isSeparator special c then return withPathTail u [] rest
    else if special || !endsPath c then return withPathTail u [] (c :: rest)
    else return withTail u (c :: rest)
  | [] => return if special then withPathTail u [] [] else u

/-- The address of a file on the machine itself, before its path is known. -/
def localFile : Uri := { scheme := "file", authority := some {} }

/-- The address of a file whose host starts at `cs`.  A drive needs no host; behind one its bar is mended. -/
def ofFileHost (cs : List Char) : Except UriError Uri := do
  let hostChars := cs.takeWhile (!endsAuthority true ·)
  let rest := cs.dropWhile (!endsAuthority true ·)
  let tail := match rest with
    | c :: r => if Path.isSeparator true c then r else rest
    | [] => []
  if Path.isDrive hostChars then return withPathTail localFile [] cs true
  if hostChars.isEmpty then return withPathTail localFile [] tail
  let host ← Host.special? hostChars
  if host = .name "localhost" then return withPathTail localFile [] tail
  let segments := Path.readFrom true true [] (tail.takeWhile (!endsPath ·))
  let named := { localFile with authority := some { host := some host } }
  let u := if segments.head?.any Path.isDrive then localFile else named
  return withSegments u segments (tail.dropWhile (!endsPath ·))

/-- The segments of a path without the last one, the last of the rest first.  In the path of a file a drive stays. -/
def folder (u : Uri) : List Path.Segment :=
  match (Path.segments? u.path.toList).map List.reverse with
  | some (s :: ss) => if u.scheme == "file" && Path.isMendedDrive s then s :: ss else ss
  | _ => []

/-- The address of a file that `cs` names from the root, on the drive or else on the host of another file. -/
def ofFileRoot (base : Option Uri) (cs : List Char) : Uri :=
  let drive := (base.bind fun b => Path.segments? b.path.toList).bind List.head? |>.filter Path.isMendedDrive
  match Path.startsWithDrive cs, drive with
  | true, _ => withPathTail localFile [] cs
  | false, some d => withPathTail localFile [d] cs
  | false, none => withPathTail { localFile with authority := some ((base.bind (·.authority)).getD {}) } [] cs

/-- The address of a file that `cs` names without a slash in front, relative to another file if there is one. -/
def ofFileName (base : Option Uri) (cs : List Char) : Uri :=
  match base, cs with
  | none, _ => withPathTail localFile [] cs true
  | some b, [] => { b with fragment := none }
  | some b, '?' :: _ => withTail b cs
  | some b, '#' :: _ => { withTail b cs with query := b.query }
  | some b, _ => if Path.startsWithDrive cs then withPathTail localFile [] cs true else withPathTail b b.folder cs true

/-- The address of a file that `cs` names, relative to the address of another file if there is one. -/
def ofFile (base : Option Uri) (cs : List Char) : Except UriError Uri :=
  match cs with
  | [] => .ok (ofFileName base [])
  | c :: rest =>
    if !Path.isSeparator true c then .ok (ofFileName base cs)
    else if rest.head?.any (Path.isSeparator true) then ofFileHost (rest.drop 1)
    else .ok (ofFileRoot base rest)

/-- The address that a text without a scheme names relative to a base that is neither opaque nor a file. -/
def ofRelative (b : Uri) (cs : List Char) : Except UriError Uri :=
  match cs with
  | [] => .ok { b with fragment := none }
  | '?' :: _ => .ok (withTail b cs)
  | '#' :: _ => .ok { withTail b cs with query := b.query }
  | c :: rest =>
    if Path.isSeparator true c then
      if rest.head?.any (Path.isSeparator true) then
        match cs with
        | '/' :: '/' :: after => ofAuthority b.scheme after
        | _ => ofAuthority b.scheme (cs.dropWhile (Path.isSeparator true))
      else .ok (withPathTail b [] rest)
    else .ok (withPathTail b b.folder cs)

def ofScheme (base : Option Uri) (scheme : String) (cs : List Char) : Except UriError Uri :=
  if scheme == "file" then ofFile (base.filter (·.scheme == "file")) cs
  else if isSpecialScheme scheme then
    let authority := ofAuthority scheme (cs.dropWhile (Path.isSeparator true))
    match base with
    | some b =>
      if (cs.takeWhile (Path.isSeparator true)).length < 2 && b.scheme == scheme then ofRelative b cs else authority
    | none => authority
  else
    match cs with
    | '/' :: '/' :: rest => ofAuthority scheme rest
    | '/' :: rest => .ok (withPathTail { scheme } [] rest)
    | _ =>
      .ok (withTail
        { scheme, path := String.ofList (Percent.encode Percent.control (cs.takeWhile (!endsPath ·))) }
        (cs.dropWhile (!endsPath ·)))

/-- The address that a text spells, relative to a base if there is one. -/
def parseFrom? (base : Option Uri) (s : String) : Except UriError Uri :=
  let cs := trimmed s
  match scheme? cs with
  | some (scheme, rest) => ofScheme base scheme rest
  | none =>
    match base with
    | none => .error .relativeWithoutBase
    | some b =>
      if cs.head? == some '#' then .ok { withTail b cs with query := b.query }
      else if b.isOpaque then .error .relativeWithOpaqueBase
      else if b.scheme == "file" then ofFile (some b) cs
      else ofRelative b cs

def parse? (s : String) : Except UriError Uri := parseFrom? none s

def join? (u : Uri) (s : String) : Except UriError Uri := parseFrom? (some u) s

end Uri
end Hypermedia
