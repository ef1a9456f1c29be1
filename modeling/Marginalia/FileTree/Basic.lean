/-
A tree of directories, files and links as a value: what stands at a
place, and what may not be done there. A place is told by the names on
the way to it from the root. What a path leads to is found by walking
(FileTree/Walk.lean).
-/
import Marginalia.Text.Split

namespace Marginalia

/-- What a file holds. -/
inductive Content where
  | text (s : String)
  /-- Bytes that are not UTF-8. -/
  | bytes (b : List UInt8)
deriving DecidableEq, Repr

/-- The content that some bytes are. -/
def Content.ofBytes (b : List UInt8) : Content :=
  match String.fromUTF8? ⟨b.toArray⟩ with
  | some s => .text s
  | none => .bytes b

/-- The path in a link. No path has the character in it that ends one. -/
structure LinkPath where
  text : String
  no_nul : '\x00' ∉ text.toList
deriving DecidableEq, Repr

/-- What stands at a place in a tree. -/
inductive Entry where
  | directory
  | file (content : Content)
  /-- A path that is followed instead. -/
  | link (path : LinkPath)
deriving DecidableEq, Repr

/-- What can be done at a place. -/
inductive Right where
  /-- Looking a name up in a directory. -/
  | search
  | read
  /-- Writing a file, or making one in a directory. -/
  | write
deriving DecidableEq, Repr

/-- Why something may not be done. -/
inductive Refusal where
  | denied
  | readOnly
deriving DecidableEq, Repr

/-- Directories, files and links by their components from the root, the
latest entry for a place first. The root itself is always a directory. -/
structure FileTree where
  entries : List (List String × Entry)
  /-- What may not be done at a place. -/
  refusals : List ((List String × Right) × Refusal) := []
  /-- How many bytes can still be written, if there is an end to it. -/
  room : Option Nat := none
deriving DecidableEq, Repr

/-- Why a path does not lead to a text, or no text can be put there. -/
inductive FileError where
  | notFound
  | notADirectory
  | isADirectory
  | nameTooLong
  | tooManyLinks
  | refused (reason : Refusal)
  | noSpace
  | nulByte
  | notText
deriving DecidableEq, Repr

/-- The wording of a file error. -/
def FileError.message : FileError → String
  | .notFound => "No such file or directory (os error 2)"
  | .notADirectory => "Not a directory (os error 20)"
  | .isADirectory => "Is a directory (os error 21)"
  | .nameTooLong => "File name too long (os error 36)"
  | .tooManyLinks => "Too many levels of symbolic links (os error 40)"
  | .refused .denied => "Permission denied (os error 13)"
  | .refused .readOnly => "Read-only file system (os error 30)"
  | .noSpace => "No space left on device (os error 28)"
  | .nulByte => "file name contained an unexpected NUL byte"
  | .notText => "stream did not contain valid UTF-8"

namespace FileTree

/-- What stands at a place. -/
def entry? (t : FileTree) (place : List String) : Option Entry :=
  if place.isEmpty then some .directory else t.entries.lookup place

/-- Why something may not be done at a place, if it may not. -/
def refusal? (t : FileTree) (place : List String) (right : Right) : Option Refusal :=
  t.refusals.lookup (place, right)

/-- The tree with a file at a place. -/
def write (t : FileTree) (place : List String) (content : Content) : FileTree :=
  { t with entries := (place, .file content) :: t.entries }

/-- The tree with a directory at a place, unless something is there. -/
def addDirectory (t : FileTree) (place : List String) : FileTree :=
  if (t.entry? place).isSome then t
  else { t with entries := (place, .directory) :: t.entries }

/-- The longest name in a directory, in bytes. -/
def maxNameBytes : Nat :=
  255

/-- The longest path, in bytes. -/
def maxPathBytes : Nat :=
  4095

/-- The components of a path text. -/
def components (path : String) : List String :=
  (Text.splitOnChar '/' path.toList).map String.ofList

/-- Where a path begins. -/
def origin (current : List String) (path : String) : List String :=
  if Text.beginsWith ['/'] path.toList then [] else current

/-- The absolute path of a place. -/
def pathText (place : List String) : String :=
  if place.isEmpty then "/" else String.join (place.map ("/" ++ ·))

end FileTree

end Marginalia
