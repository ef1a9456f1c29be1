/-
The place that a path leads to, found name by name. Each name on the way
is asked for by the absolute path that it has there, so it is these paths
that may not be too long, however long the path itself is, and each of
them is walked from the root.
-/
import Marginalia.FileTree.Walk

namespace Marginalia.FileTree

/-- Whether what follows a name asks for a directory: nothing but slashes
and dots up to the end, or up to a step back. -/
def asksDirectory (more : List String) : Bool :=
  match more.dropWhile fun c => c = "" || c = "." with
  | [] => !more.isEmpty
  | c :: _ => c = ".."

/-- One step to a name, along its absolute path. -/
def stepFromRoot (t : FileTree) (place : List String) (c : String) : Except FileError Step :=
  if maxPathBytes < (pathText (place ++ [c])).utf8ByteSize then .error .nameTooLong
  else
    match t.walk false maxLinks [] place with
    | .error e => .error e
    | .ok (.missing _ _) => .error .notFound
    | .ok (.place dir) => t.step false dir c

/-- Whether a place is a directory by its absolute path with a slash behind
it. -/
def checkDirectory (t : FileTree) (place : List String) : Except FileError Unit :=
  if maxPathBytes ≤ (pathText place).utf8ByteSize then .error .nameTooLong
  else if t.entry? place = some .directory then .ok ()
  else .error .notADirectory

/-- What is asked on the way about a name, and about what has it unless it is
a link. -/
def ask (t : FileTree) (place : List String) (c : String) (directory : Bool) :
    Except FileError Step :=
  match t.stepFromRoot place c with
  | .ok (.to next) =>
    if directory then (t.checkDirectory next).map fun _ => .to next else .ok (.to next)
  | other => other

/-- Follows components from a place by absolute paths. Where one of them is
a link, `jump` follows what has to be followed instead. -/
def followNames (t : FileTree)
    (jump : List String → List String → Except FileError (List String))
    (place : List String) : List String → Except FileError (List String)
  | [] => .ok place
  | c :: more =>
    if c = "" ∨ c = "." then followNames t jump place more
    else if c = ".." then followNames t jump place.dropLast more
    else
      match t.ask place c (asksDirectory more) with
      | .error e => .error e
      | .ok .missing => .error .notFound
      | .ok (.link path) => jump (origin place path.text) (components path.text ++ more)
      | .ok (.to next) => followNames t jump next more

/-- Follows components by absolute paths through at most so many links. -/
def walkNames (t : FileTree) : Nat → List String → List String → Except FileError (List String)
  | 0 => t.followNames fun _ _ => .error .tooManyLinks
  | links + 1 => t.followNames (t.walkNames links)

/-- The place that a path leads to, by the absolute paths of the names on the
way. -/
def canonicalize (t : FileTree) (current : List String) (path : String) :
    Except FileError (List String) :=
  if path.toList.contains '\x00' then .error .nulByte
  else if path = "" then .error .notFound
  else t.walkNames maxLinks (origin current path) (components path)

end Marginalia.FileTree
