import Hypermedia.Failure
import Hypermedia.LogFilter.Pattern.Check
import Hypermedia.Settings.Basic
/-!
# Log filters

What is logged is chosen by directives between commas.  A directive names a level, a target, or a target and the level
for it; a target may be narrowed to a span in brackets, and a span to a field in braces, which may have to match a
number or a pattern.  A name that is no level is a target.  Empty directives count for nothing.
-/
namespace Hypermedia
namespace LogFilter

def levels : List String := ["trace", "debug", "info", "warn", "error", "off"]

/-- Whether a text is a level: a name in any case, or a number up to five. -/
def isLevel (cs : List Char) : Bool :=
  levels.contains (String.ofList (cs.map Char.toLower)) ||
    let digits := if cs.head? == some '+' then cs.drop 1 else cs
    !digits.isEmpty && (Text.valueIn? 10 digits).any (· ≤ 5)

/-- Whether a directive may begin with a character: letters, numbers and a few signs. -/
def mayStart (c : Char) : Bool := "-:_[".toList.contains c || Text.isAlphanumeric c

/-- Whether a text is a decimal number without a sign: digits on at least one side of a point, and a power of ten. -/
def isDecimal (cs : List Char) : Bool :=
  let whole := cs.takeWhile Char.isDigit
  let rest := cs.drop whole.length
  let fraction := if rest.head? == some '.' then (rest.drop 1).takeWhile Char.isDigit else []
  let rest := if rest.head? == some '.' then rest.drop (fraction.length + 1) else rest
  !(whole ++ fraction).isEmpty &&
    match rest with
    | [] => true
    | e :: power =>
      let digits := if power.head?.any fun c => c == '+' || c == '-' then power.drop 1 else power
      (e == 'e' || e == 'E') && !digits.isEmpty && digits.all Char.isDigit

def isNumber (cs : List Char) : Bool :=
  let body := if cs.head?.any fun c => c == '+' || c == '-' then cs.drop 1 else cs
  ["inf", "infinity", "nan"].contains (String.ofList (body.map Char.toLower)) || isDecimal body

/-- Whether a text is a field: a name, and behind an equals sign the value that it has to match.  What follows a second
equals sign does not count. -/
def isField (cs : List Char) : Bool :=
  match Text.splitFirst '=' cs with
  | (_, none) => !cs.isEmpty
  | (_, some rest) => let value := (Text.splitFirst '=' rest).1; isNumber value || Pattern.isPattern value

/-- The characters of a text between two places that are counted in bytes. -/
def bytesBetween (start stop : Nat) : List Char → List Char
  | [] => []
  | c :: cs =>
    let rest := bytesBetween (start - c.utf8Size) (stop - c.utf8Size) cs
    if start == 0 && c.utf8Size ≤ stop then c :: rest else if start == 0 then [] else rest

def byteLength (cs : List Char) : Nat := cs.foldr (fun c n => c.utf8Size + n) 0

/-- Whether a text is the end of a directive behind its span: nothing, or an equals sign and a level, which may be
left out. -/
def isEnd (levelAllowed : Bool) : List Char → Bool
  | [] => true
  | '=' :: level => levelAllowed && (level.isEmpty || isLevel level)
  | _ => false

/-- Whether a text is the end of a directive behind the opening brace of its field. -/
def isFieldEnd (whole : List Char) (trimmed : List Char) (cs : List Char) : Bool :=
  match Text.splitFirst '\x7d' cs with
  | (field, some (']' :: rest)) =>
    let start := byteLength trimmed - byteLength cs
    !field.isEmpty && isField (bytesBetween start (start + byteLength field) whole) &&
      isEnd (trimmed.length == whole.length) rest
  | _ => false

/-- Whether a text is the end of a directive behind the opening bracket of its span. -/
def isSpanEnd (whole trimmed : List Char) (cs : List Char) : Bool :=
  match cs.dropWhile fun c => c != ']' && c != '\x7b' with
  | ']' :: rest => isEnd (trimmed.length == whole.length) rest
  | '\x7b' :: rest => isFieldEnd whole trimmed rest
  | _ => false

/-- Whether a text is a directive.  Blanks around it are ignored, but places count from the first character behind them
and are looked up in the text with them: a level behind an equals sign allows none, and a field moves ahead. -/
def isDirective (cs : List Char) : Bool :=
  let trimmed := Text.stripBoth Text.isBlank cs
  trimmed.head?.any mayStart &&
    match trimmed.dropWhile fun c => c != '=' && c != '[' with
    | [] => true
    | '[' :: rest => isSpanEnd cs trimmed rest
    | rest => isEnd (trimmed.length == cs.length) rest

def isFilter (text : String) : Bool :=
  ((Text.splitAll (· == ',') text.toList).filter (!·.isEmpty)).all isDirective

def check (logging : Settings.Logging) : Outcome Unit :=
  if isFilter logging.level then .ok () else .error (.configuration (.badLogLevel logging.level))

end LogFilter
end Hypermedia
