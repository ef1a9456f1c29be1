/-
Command line arguments. The first names a command; after it come settings,
long or short, and the values of the command in their places. A setting
that takes a value has it after an equals sign or as the next argument,
and after "--" there are no settings any more.

A value is looked at when the next setting or value is reached, or at the
end, so that of two mistakes the one that counts is not always the first.
-/
import Marginalia.Kind

namespace Marginalia.Command

/-- How a scan is reported. -/
inductive Format where
  | text
  | json
deriving DecidableEq, Repr

/-- The name of a format. -/
def Format.name : Format → String
  | text => "text"
  | json => "json"

/-- The format with the given name. -/
def Format.ofName? (s : String) : Option Format :=
  [text, json].find? fun f => f.name = s

/-- What a scan is asked to do on the command line. -/
structure ScanRequest where
  page : String
  /-- The kinds to report; those of the settings if there are none. -/
  kinds : List Kind := []
  noExternal : Bool := false
  /-- Milliseconds to wait after the page has loaded. -/
  settleDelay : Option Nat := none
  format : Format := .text
  verbose : Bool := false
deriving DecidableEq, Repr

/-- What a command line asks for. -/
inductive Invocation where
  | scan (request : ScanRequest)
  | classify (kind : Kind) (text : String) (verbose : Bool)
  | init
  | serve
deriving DecidableEq, Repr

/-- Whether a command asks for more to be logged. -/
def Invocation.verbose : Invocation → Bool
  | scan request => request.verbose
  | classify _ _ verbose => verbose
  | init => false
  | serve => false

/-- Why there is no command in some arguments, help and version being
asked for included. -/
inductive ArgumentError where
  | help
  | version
  /-- The first argument is no command. -/
  | unknownCommand
  /-- There is no such setting, or no place for a value. -/
  | unknownArgument
  | missingArgument
  /-- A setting that may be given once is given again. -/
  | repeated
  /-- A setting that takes no value has one. -/
  | needlessValue
  /-- A value is missing, or is none of those that may be given. -/
  | invalidValue
  /-- A value is not a number. -/
  | notANumber
deriving DecidableEq, Repr

-- ========================================================== forms

/-- The sort of command. -/
inductive Form where
  | scan
  | classify
  | init
  | serve
deriving DecidableEq, Repr

/-- The sorts of command by name. -/
def Form.names : List (String × Form) :=
  [("scan", .scan), ("classify", .classify), ("init", .init), ("serve", .serve)]

/-- The name of the command that shows help. -/
def helpName : String :=
  "help"

/-- Settings. -/
inductive Setting where
  | kind
  | noExternal
  | settleDelay
  | format
  | verbose
  | help
deriving DecidableEq, Repr

/-- Whether a setting takes a value. -/
def Setting.takesValue : Setting → Bool
  | kind | settleDelay | format => true
  | noExternal | verbose | help => false

/-- The long names of the settings of a sort of command. -/
def Form.longNames : Form → List (String × Setting)
  | scan =>
    [("kind", .kind), ("no-external", .noExternal),
     ("settle-delay", .settleDelay), ("format", .format),
     ("verbose", .verbose), ("help", .help)]
  | classify => [("verbose", .verbose), ("help", .help)]
  | init => [("help", .help)]
  | serve => [("help", .help)]

/-- The short names of the settings of a sort of command. -/
def Form.shortNames : Form → List (Char × Setting)
  | scan => [('v', .verbose), ('h', .help)]
  | classify => [('v', .verbose), ('h', .help)]
  | init => [('h', .help)]
  | serve => [('h', .help)]

/-- Places of values. -/
inductive Place where
  | page
  | kind
  | text
deriving DecidableEq, Repr

/-- The places of the values of a sort of command, in order. -/
def Form.places : Form → List Place
  | scan => [.page]
  | classify => [.kind, .text]
  | init => []
  | serve => []

-- ======================================================== reading

/-- What has been given so far. -/
structure Given where
  kinds : List Kind := []
  noExternal : Bool := false
  settleDelay : Option Nat := none
  format : Option Format := none
  verbose : Bool := false
  page : Option String := none
  kind : Option Kind := none
  text : Option String := none
deriving DecidableEq, Repr

/-- Something whose value has not been looked at. -/
inductive Waiting where
  /-- A setting without its value. -/
  | setting (s : Setting)
  | settingValue (s : Setting) (value : String)
  | placeValue (p : Place) (value : String)
deriving DecidableEq, Repr

/-- The state of reading the arguments of a command. -/
structure Reader where
  given : Given := {}
  waiting : Option Waiting := none
  /-- The places that are left. -/
  places : List Place
  /-- Whether there are no settings any more. -/
  literal : Bool := false
deriving DecidableEq, Repr

/-- The outcome of reading arguments. -/
abbrev Parsed (α : Type) := Except ArgumentError α

/-- The greatest number that a setting takes. -/
def maxNumber : Nat :=
  Nat.pow 2 64 - 1

/-- The number that digits stand for, after a plus sign or none. -/
def parseNumber? (s : String) : Option Nat :=
  let digits :=
    match s.toList with
    | '+' :: r => r
    | r => r
  if digits.isEmpty || !digits.all Char.isDigit then none
  else
    let n := digits.foldl (fun n c => 10 * n + (c.toNat - '0'.toNat)) 0
    if n ≤ maxNumber then some n else none

/-- A value, or the error of having none. -/
def required {α : Type} (e : ArgumentError) : Option α → Parsed α
  | some a => .ok a
  | none => .error e

/-- Refuses what is given for a second time. -/
def once (already : Bool) : Parsed Unit :=
  if already then .error .repeated else .ok ()

namespace Given

/-- Takes up the value of a setting. -/
def acceptSetting (g : Given) (s : Setting) (value : String) : Parsed Given :=
  match s with
  | .kind => do
    let kind ← required .invalidValue (Kind.ofName? value)
    return { g with kinds := g.kinds ++ [kind] }
  | .settleDelay => do
    once g.settleDelay.isSome
    let n ← required .notANumber (parseNumber? value)
    return { g with settleDelay := some n }
  | .format => do
    once g.format.isSome
    let f ← required .invalidValue (Format.ofName? value)
    return { g with format := some f }
  | _ => .ok g

/-- Takes up a setting without a value. -/
def acceptFlag (g : Given) (s : Setting) : Parsed Given :=
  match s with
  | .noExternal => do
    once g.noExternal
    return { g with noExternal := true }
  | .verbose => do
    once g.verbose
    return { g with verbose := true }
  | .help => .error .help
  | _ => .ok g

/-- Takes up the value for a place. -/
def acceptPlace (g : Given) (p : Place) (value : String) : Parsed Given :=
  match p with
  | .page => .ok { g with page := some value }
  | .kind => do
    let kind ← required .invalidValue (Kind.ofName? value)
    return { g with kind := some kind }
  | .text => .ok { g with text := some value }

/-- The command of a sort with what has been given. -/
def command (g : Given) : Form → Parsed Invocation
  | .scan => do
    let page ← required .missingArgument g.page
    return .scan
      { page
        kinds := g.kinds
        noExternal := g.noExternal
        settleDelay := g.settleDelay
        format := g.format.getD .text
        verbose := g.verbose }
  | .classify => do
    let kind ← required .missingArgument g.kind
    let text ← required .missingArgument g.text
    return .classify kind text g.verbose
  | .init => .ok .init
  | .serve => .ok .serve

end Given

namespace Reader

/-- Looks at the value that has been waiting. -/
def settle (r : Reader) : Parsed Reader :=
  match r.waiting with
  | none => .ok r
  | some (.setting _) => .error .invalidValue
  | some (.settingValue s value) => do
    let given ← r.given.acceptSetting s value
    return { r with given, waiting := none }
  | some (.placeValue p value) => do
    let given ← r.given.acceptPlace p value
    return { r with given, waiting := none }

/-- Reads an argument as the value for the next place. -/
def readValue (r : Reader) (value : String) : Parsed Reader :=
  match r.places with
  | [] => .error .unknownArgument
  | p :: places => do
    let r ← r.settle
    return { r with waiting := some (.placeValue p value), places }

/-- Raises a setting that takes no value. -/
def raise (r : Reader) (s : Setting) : Parsed Reader := do
  let r ← r.settle
  let given ← r.given.acceptFlag s
  return { r with given }

/-- Reads a long setting with the value after its equals sign, if there is
one. -/
def readLong (r : Reader) (form : Form) (name : String) (value : Option String) :
    Parsed Reader :=
  match form.longNames.lookup name with
  | none => .error .unknownArgument
  | some s =>
    if s.takesValue then do
      let r ← r.settle
      match value with
      | some value =>
        let given ← r.given.acceptSetting s value
        return { r with given }
      | none => return { r with waiting := some (.setting s) }
    else if value.isSome then .error .needlessValue
    else r.raise s

/-- Reads short settings. -/
def readShort (r : Reader) (form : Form) : List Char → Parsed Reader
  | [] => .ok r
  | c :: more =>
    match form.shortNames.lookup c with
    | none => .error .unknownArgument
    | some s => do
      let r ← r.raise s
      r.readShort form more

/-- Reads an argument that is not a setting. -/
def readPlain (r : Reader) (value : String) : Parsed Reader :=
  match r.waiting with
  | some (.setting s) => .ok { r with waiting := some (.settingValue s value) }
  | _ => r.readValue value

end Reader

/-- What an argument looks like. -/
inductive Shape where
  /-- It ends the settings. -/
  | divider
  | long (name : String) (value : Option String)
  | short (letters : List Char)
  | plain
deriving DecidableEq, Repr

/-- What an argument looks like. A dash alone is nothing special. -/
def Shape.of (arg : String) : Shape :=
  match arg.toList with
  | ['-', '-'] => divider
  | '-' :: '-' :: r =>
    let name := r.takeWhile (· != '=')
    match r.drop name.length with
    | [] => long (String.ofList name) none
    | _ :: value => long (String.ofList name) (some (String.ofList value))
  | ['-'] => plain
  | '-' :: r => short r
  | _ => plain

namespace Reader

/-- Reads one argument. -/
def read (r : Reader) (form : Form) (arg : String) : Parsed Reader :=
  if r.literal then r.readValue arg
  else
    match Shape.of arg with
    | .divider => .ok { r with literal := true }
    | .long name value => r.readLong form name value
    | .short letters => r.readShort form letters
    | .plain => r.readPlain arg

/-- Reads arguments in order. -/
def readAll (r : Reader) (form : Form) : List String → Parsed Reader
  | [] => .ok r
  | arg :: more => do
    let r ← r.read form arg
    r.readAll form more

end Reader

/-- The command of a sort with the given arguments. -/
def Form.parse (form : Form) (args : List String) : Parsed Invocation := do
  let r ← ({ places := form.places } : Reader).readAll form args
  let r ← r.settle
  r.given.command form

/-- Whether an argument names a command. -/
def isCommandName (arg : String) : Bool :=
  arg = helpName || (Form.names.lookup arg).isSome

/-- The outcome of asking for help about a command. Commands have no
commands of their own. -/
def parseHelp {α : Type} : List String → Parsed α
  | [] => .error .help
  | [name] => if isCommandName name then .error .help else .error .unknownCommand
  | _ :: _ :: _ => .error .unknownCommand

/-- The outcome of a first argument that is no command. -/
def parseOther {α : Type} (arg : String) : Parsed α :=
  match Shape.of arg with
  | .long name value =>
    if name = "help" || name = "version" then
      if value.isSome then .error .needlessValue
      else if name = "help" then .error .help
      else .error .version
    else .error .unknownArgument
  | .short ('h' :: _) => .error .help
  | .short ('V' :: _) => .error .version
  | .short _ => .error .unknownArgument
  | _ => .error .unknownCommand

/-- The command in some arguments; `none` if there are no arguments. -/
def parse : List String → Parsed (Option Invocation)
  | [] => .ok none
  | ["--"] => .ok none
  | "--" :: arg :: _ =>
    if isCommandName arg then .error .unknownArgument else .error .unknownCommand
  | arg :: more =>
    if arg = helpName then parseHelp more
    else
      match Form.names.lookup arg with
      | some form => some <$> form.parse more
      | none => parseOther arg

end Marginalia.Command
