/-
The configuration of the program: five settings with defaults, the rules
they have to keep, and the scan options they ask for.
-/
import Marginalia.Options

namespace Marginalia

/-- The settings. -/
structure Config where
  /-- Milliseconds to wait after a page has loaded. -/
  settleDelayMs : Nat
  fetchExternal : Bool
  kinds : List Kind
  /-- Glob patterns of linked resources to leave out. -/
  ignoreSources : List String
  userAgent : String
deriving DecidableEq, Repr

namespace Config

/-- The delay where none is set. -/
def standardDelay : Nat :=
  500

/-- The settings where none are given. -/
def standard : Config :=
  { settleDelayMs := standardDelay
    fetchExternal := true
    kinds := Kind.all
    ignoreSources := []
    userAgent := "remarks/0.1.0" }

/-- The name of the file that holds the settings. -/
def fileName : String :=
  ".remarksrc.json"

/-- Which rule a configuration breaks. -/
inductive Violation where
  | noKinds
  | badPattern (pattern : String) (error : Glob.Error)
deriving DecidableEq, Repr

/-- The wording of a violation, from the outermost cause inwards. -/
def Violation.causes : Violation → List String
  | .noKinds => ["'kinds' must list at least one of: html, css, js"]
  | .badPattern pattern error =>
    ["Invalid glob pattern in 'ignoreSources': \"" ++ pattern ++ "\"",
     error.message]

/-- The pattern with the given text. -/
def parsePattern (pattern : String) : Except Violation Glob :=
  match Glob.parse pattern with
  | .ok g => .ok g
  | .error e => .error (.badPattern pattern e)

/-- The patterns with the given texts, or what is wrong with the first
that is none. -/
def parsePatterns : List String → Except Violation (List Glob)
  | [] => .ok []
  | p :: more => do
    let g ← parsePattern p
    let gs ← parsePatterns more
    return g :: gs

/-- Whether every text is a pattern, or what is wrong with the first that
is none. -/
def checkPatterns : List String → Except Violation Unit
  | [] => .ok ()
  | p :: more => do
    discard (parsePattern p)
    checkPatterns more

/-- At least one kind is listed, and every pattern is one. -/
def validate (c : Config) : Except Violation Unit := do
  if c.kinds.isEmpty then throw .noKinds
  checkPatterns c.ignoreSources

/-- The options of a scan with these settings. -/
def options (c : Config) : Except Violation Options := do
  let ignore ← parsePatterns c.ignoreSources
  return ⟨c.kinds, c.fetchExternal, ignore⟩

end Config

end Marginalia
