/-
Running commands. A command sees the file tree and a current directory in
it; what it leads to is an exit status, what is printed, and the tree as
it is then.
-/
import Marginalia.Command.Arguments
import Marginalia.Config.Lookup
import Marginalia.Local
import Marginalia.Report.Verdict
import Marginalia.Session

namespace Marginalia.Command

/-- How a command ends. -/
inductive ExitStatus where
  /-- Nothing was found. -/
  | clean
  /-- Comments were found, or the comment is code. -/
  | found
  /-- The command could not do its work. -/
  | failed
  /-- The program was stopped while it printed. -/
  | crashed
deriving DecidableEq, Repr

/-- The number of an exit status. -/
def ExitStatus.code : ExitStatus → Nat
  | clean => 0
  | found => 1
  | failed => 2
  | crashed => 101

/-- Where a command runs. -/
structure Environment where
  tree : FileTree
  /-- The place of the current directory. -/
  current : List String
  network : Local.Network
  /-- Whether what is printed has colours. -/
  colour : Bool

/-- Why a command fails with an error. -/
inductive RunError where
  | config (error : Config.LoadError)
  | options (violation : Config.Violation)
  | page (error : Local.PageError)
  | client (error : Local.ClientError)
  | visit (failure : Session.Failure)
  /-- The file at a path cannot be written. -/
  | unwritable (path : String) (error : FileError)
  /-- The server is not a command that prints and ends. -/
  | notRunnable

/-- The wording of an error, from the outermost cause inwards. -/
def RunError.causes : RunError → List String
  | .config error => error.causes
  | .options violation => violation.causes
  | .page error => error.causes
  | .client error => error.causes
  | .visit failure => failure.causes
  | .unwritable path error => ["Failed to write " ++ path, error.message]
  | .notRunnable => ["Serve command should be handled before run()"]

/-- The wording of some causes on one line. -/
def chain (causes : List String) : String :=
  ": ".intercalate causes

/-- What a command leads to. -/
structure Outcome where
  status : ExitStatus
  stdout : String := ""
  stderr : String := ""
  error : Option RunError := none
  tree : FileTree

/-- The text printed where no command is given. -/
def helpText : String :=
  "Find human-written comments left in a web page's HTML, CSS and JavaScript\n"
    ++ "\n"
    ++ "Usage: remarks [COMMAND]\n"
    ++ "\n"
    ++ "Commands:\n"
    ++ "  scan      List the comments left in a page's HTML, CSS and JS\n"
    ++ "  classify  Show whether a comment text would be kept or discarded\n"
    ++ "  init      Create a default .remarksrc.json in the current directory\n"
    ++ "  serve     Start MCP server for AI integration\n"
    ++ "  help      Print this message or the help of the given subcommand(s)\n"
    ++ "\n"
    ++ "Options:\n"
    ++ "  -h, --help     Print help\n"
    ++ "  -V, --version  Print version\n"

/-- The text printed for the version. -/
def versionText : String :=
  "remarks 0.1.0\n"

/-- What is logged where nothing else is set. -/
def logDirective (verbose : Bool) : String :=
  if verbose then "warn,remarks=debug" else "warn"

/-- The options of a scan: those of the settings, unless the command line
has others. -/
def ScanRequest.options (r : ScanRequest) (o : Options) : Options :=
  { o with
    kinds := if r.kinds.isEmpty then o.kinds else r.kinds
    fetchExternal := o.fetchExternal && !r.noExternal }

/-- The result of a scan. -/
def scanned (env : Environment) (r : ScanRequest) : Except RunError Report.ScanReport := do
  let loaded ← (Config.load env.tree env.current (FileTree.pathText env.current)).mapError
    .config
  let options ← loaded.config.options.mapError .options
  let url ← (Local.pageUrl env.tree env.current r.page).mapError .page
  let fetch ← (Local.client env.tree env.network loaded.config.userAgent).mapError .client
  let session ← (Session.visit url fetch (r.options options)).mapError .visit
  return ⟨r.page, session.badge, session.popup⟩

/-- Scans a page and reports on it. -/
def runScan (env : Environment) (r : ScanRequest) : Outcome :=
  match scanned env r with
  | .error e => { status := .failed, error := some e, tree := env.tree }
  | .ok report =>
    let status := if report.popup.isEmpty then .clean else .found
    match r.format with
    | .text =>
      { status := if report.isComplete then status else .crashed
        stdout := report.text env.colour
        tree := env.tree }
    | .json => { status, stdout := report.toJson.pretty ++ "\n", tree := env.tree }

/-- Judges a comment and reports on it. -/
def runClassify (env : Environment) (kind : Kind) (text : String) : Outcome :=
  let verdict := Marginalia.classify kind text
  { status := if verdict.isKeep then .clean else .found
    stdout := Report.verdictText env.colour kind verdict
    tree := env.tree }

/-- Writes a configuration file into the current directory, unless there
is something of that name. A link that leads nowhere is not taken for
something, and is written through. -/
def runInit (env : Environment) : Outcome :=
  let path := PathText.join (FileTree.pathText env.current) Config.fileName
  if env.tree.pathExists env.current path then
    { status := .failed
      stderr := "Error: " ++ Config.fileName ++ " already exists\n"
      tree := env.tree }
  else
    match env.tree.writeFile env.current path Config.standardText with
    | (tree, some e) => { status := .failed, error := some (.unwritable path e), tree }
    | (tree, none) =>
      let pieces :=
        [Report.inStyle .green Report.successMark, Report.text " ",
         Report.inStyle .green ("Created " ++ Config.fileName), Report.text "\n"]
      { status := .clean, stdout := String.ofList (Report.write env.colour pieces), tree }

/-- Runs a command, or prints what commands there are. -/
def run (env : Environment) : Option Invocation → Outcome
  | none => { status := .clean, stdout := helpText, tree := env.tree }
  | some (.scan r) => runScan env r
  | some (.classify kind text _) => runClassify env kind text
  | some .init => runInit env
  | some .serve => { status := .failed, error := some .notRunnable, tree := env.tree }

end Marginalia.Command
