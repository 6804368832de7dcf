/-!
# Arguments

A command line has options, the name of a command, and the words of the command.  An option takes its value from the
same argument or from the next one, and is given once at most.  Behind two dashes nothing is an option any more.
-/
namespace Hypermedia
namespace CommandLine

inductive Command where
  | get (uri : String)
  | list (uri : String)
  | follow (uri : String) (relations : List String)
  | post (uri body : String)
  deriving DecidableEq

structure Options where
  config : Option String := none
  /-- The location of the service, in place of the one in the settings. -/
  url : Option String := none
  deriving DecidableEq

structure Arguments where
  options : Options
  command : Command
  deriving DecidableEq

inductive Usage where
  | help
  | wrong
  deriving DecidableEq

/-! ## Help -/

def helpText : String :=
  "\n".intercalate [
    "Browse a HAL+JSON REST service",
    "",
    "Usage: hal-cli [OPTIONS] <COMMAND>",
    "",
    "Commands:",
    "  get     Fetch one resource",
    "  list    Fetch every member of a collection",
    "  follow  Fetch a resource, then follow links by relation name",
    "  post    Create a resource and print its location",
    "  help    Print this message or the help of the given subcommand(s)",
    "",
    "Options:",
    "  -c, --config <CONFIG>  TOML configuration file",
    "  -u, --url <URL>        Service location; overrides `client.location`",
    "  -h, --help             Print help",
    ""]

/-! ## Commands -/

def commandNames : List String := ["get", "list", "follow", "post"]

/-- Whether an argument is meant as an option; a single dash is a word. -/
def isOption (argument : String) : Bool := argument.startsWith "-" && argument != "-"

def words : Nat → List String → Except Usage (List String)
  | _, [] => .ok []
  | room, a :: rest =>
    if a == "--" then if rest.length ≤ room then .ok rest else .error .wrong
    else if a == "--help" || a.startsWith "-h" then .error .help
    else if isOption a then .error .wrong
    else match room with
      | 0 => .error .wrong
      | n + 1 => (words n rest).map (a :: ·)

def Command.ofWords? : String → List String → Option Command
  | "get", [uri] => some (.get uri)
  | "list", [uri] => some (.list uri)
  | "follow", uri :: relation :: relations => some (.follow uri (relation :: relations))
  | "post", [uri, body] => some (.post uri body)
  | _, _ => none

/-- How many words a command with the given name takes when so many are there. -/
def roomFor (name : String) (there : Nat) : Nat :=
  if name == "follow" then there else if name == "post" then 2 else 1

def command (name : String) (arguments : List String) : Except Usage Command := do
  match Command.ofWords? name (← words (roomFor name arguments.length) arguments) with
  | some c => return c
  | none => throw .wrong

/-- What asking for help by name leads to: there is help on every command. -/
def helpOn : List String → Usage
  | [] => .help
  | [name] => if commandNames.contains name || name == "help" then .help else .wrong
  | _ => .wrong

/-! ## Options -/

inductive Key where
  | config
  | url
  deriving DecidableEq

def Key.ofName? : String → Option Key
  | "config" => some .config
  | "url" => some .url
  | _ => none

def Key.ofLetter? : Char → Option Key
  | 'c' => some .config
  | 'u' => some .url
  | _ => none

/-- Sets an option that was not set before; the path of a file is not empty. -/
def Options.set (o : Options) (key : Key) (value : String) : Except Usage Options :=
  match key with
  | .config => if o.config.isSome || value.isEmpty then .error .wrong else .ok { o with config := some value }
  | .url => if o.url.isSome then .error .wrong else .ok { o with url := some value }

inductive Piece where
  | option (key : Key) (value : Option String)
  | help
  | name (name : String)
  | wrong

def Piece.ofLong (cs : List Char) : Piece :=
  let name := String.ofList (cs.takeWhile (· != '='))
  let value := match cs.dropWhile (· != '=') with
    | [] => none
    | _ :: v => some (String.ofList v)
  match Key.ofName? name with
  | some key => .option key value
  | none => if name == "help" && value.isNone then .help else .wrong

/-- The meaning of an argument with a letter behind a dash; what follows the letter, without an equals sign, is the
value. -/
def Piece.ofShort : List Char → Piece
  | [] => .wrong
  | c :: cs =>
    match Key.ofLetter? c, cs with
    | some key, [] => .option key none
    | some key, '=' :: v => .option key (some (String.ofList v))
    | some key, v => .option key (some (String.ofList v))
    | none, _ => if c == 'h' then .help else .wrong

def Piece.ofArgument (argument : String) : Piece :=
  match argument.toList with
  | ['-'] => .name argument
  | '-' :: '-' :: cs => if cs.isEmpty then .wrong else .ofLong cs
  | '-' :: cs => .ofShort cs
  | _ => .name argument

def parseFrom : Options → List String → Except Usage Arguments
  | _, [] => .error .wrong
  | o, a :: rest =>
    match Piece.ofArgument a, rest with
    | .wrong, _ => .error .wrong
    | .help, _ => .error .help
    | .name "help", names => .error (helpOn names)
    | .name name, arguments =>
      if commandNames.contains name then (command name arguments).map (⟨o, ·⟩) else .error .wrong
    | .option key (some value), rest => (o.set key value).bind (parseFrom · rest)
    | .option _ none, [] => .error .wrong
    | .option key none, value :: rest =>
      if isOption value then .error .wrong else (o.set key value).bind (parseFrom · rest)

def parse (arguments : List String) : Except Usage Arguments := parseFrom {} arguments

end CommandLine
end Hypermedia
