/-
Finding the settings for a directory. The configuration file is looked for
in the directory and then in each one above it, as the path is written. A
directory with an entry ".git" is the last to be looked into, and where
nothing is found the standard settings count.
-/
import Marginalia.Config.Format
import Marginalia.FileTree.Walk
import Marginalia.FileTree.PathText

namespace Marginalia.Config

/-- The entry that ends the search. -/
def boundaryName : String :=
  ".git"

/-- The first configuration file in the given directories. -/
def findIn (exists? : String → Bool) : List String → Option String
  | [] => none
  | dir :: above =>
    let path := PathText.join dir fileName
    if exists? path then some path
    else if exists? (PathText.join dir boundaryName) then none
    else findIn exists? above

/-- The configuration file for a directory. -/
def find? (t : FileTree) (current : List String) (dir : String) : Option String :=
  findIn (t.pathExists current) (PathText.ancestors dir)

/-- Why the settings cannot be loaded. -/
inductive LoadError where
  | unreadable (error : FileError)
  | malformed (path : String) (error : Json.DecodeError)
  | invalid (violation : Violation)

/-- The wording of a load error, from the outermost cause inwards. -/
def LoadError.causes : LoadError → List String
  | .unreadable error => [error.message]
  | .malformed path error =>
    ["Failed to parse config file: " ++ Text.quoteString path, error.message]
  | .invalid violation => violation.causes

/-- Settings, and whether they come from a file. -/
structure Loaded where
  config : Config
  fromFile : Bool
deriving DecidableEq, Repr

/-- The settings in a file. -/
def loadFile (t : FileTree) (current : List String) (path : String) :
    Except LoadError Loaded := do
  let text ← (t.readText current path).mapError .unreadable
  let config ← (ofText text).mapError (.malformed path)
  config.validate.mapError .invalid
  return ⟨config, true⟩

/-- The settings for a directory. -/
def load (t : FileTree) (current : List String) (dir : String) :
    Except LoadError Loaded :=
  match find? t current dir with
  | some path => loadFile t current path
  | none => .ok ⟨standard, false⟩

end Marginalia.Config
