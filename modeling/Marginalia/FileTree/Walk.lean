/-
Following a path in a tree, component by component from the root or from
a current directory. Every component before another, an empty one
included, has to be a directory. A link is followed wherever its name
stands: its own path takes the place of the name, and what is left of the
path comes after it.

A path that is to be written to may end in a name that nothing has yet;
the file is then made there, which is where the last link leads and need
not be where the path itself ends.
-/
import Marginalia.FileTree.Basic

namespace Marginalia.FileTree

-- ============================================================ walking

/-- What keeps a component from being looked up in a place, if something
does. It takes no right to look up an empty one. -/
def obstacle? (t : FileTree) (place : List String) (c : String) : Option FileError :=
  match t.entry? place with
  | none => some .notFound
  | some .directory => if c = "" then none else (t.refusal? place .search).map .refused
  | some _ => some .notADirectory

/-- What one component leads to. -/
inductive Step where
  | to (place : List String)
  | link (path : LinkPath)
  /-- Nothing has the name. -/
  | missing
deriving DecidableEq, Repr

/-- What one comes to at a place. -/
def arrival (t : FileTree) (place : List String) : Step :=
  match t.entry? place with
  | none => .missing
  | some (.link path) => .link path
  | some _ => .to place

/-- One step from a place. No file can be made under a name that has a
slash behind it. -/
def step (t : FileTree) (slash : Bool) (place : List String) (c : String) :
    Except FileError Step :=
  match t.obstacle? place c with
  | some e => .error e
  | none =>
    if c = "" ∨ c = "." then .ok (.to place)
    else if c = ".." then .ok (.to place.dropLast)
    else if slash then .error .isADirectory
    else if maxNameBytes < c.utf8ByteSize then .error .nameTooLong
    else .ok (t.arrival (place ++ [c]))

/-- What following a path comes to. -/
inductive Target where
  | place (place : List String)
  /-- A name that nothing has in a directory. -/
  | missing (dir : List String) (name : String)
deriving DecidableEq, Repr

/-- Whether nothing but slashes stands behind a name. -/
def isSlashed (more : List String) : Bool :=
  !more.isEmpty && more.all (· = "")

/-- Follows components from a place. Where one of them is a link, `jump`
follows what has to be followed instead. -/
def follow (t : FileTree) (creating : Bool)
    (jump : List String → List String → Except FileError Target)
    (place : List String) : List String → Except FileError Target
  | [] => .ok (.place place)
  | c :: more =>
    match t.step (creating && isSlashed more) place c with
    | .error e => .error e
    | .ok (.to next) => follow t creating jump next more
    | .ok (.link path) => jump (origin place path.text) (components path.text ++ more)
    | .ok .missing => if more = [] then .ok (.missing place c) else .error .notFound

/-- Follows components from a place through at most so many links. -/
def walk (t : FileTree) (creating : Bool) :
    Nat → List String → List String → Except FileError Target
  | 0 => t.follow creating fun _ _ => .error .tooManyLinks
  | links + 1 => t.follow creating (t.walk creating links)

/-- The most links that are followed on one way. -/
def maxLinks : Nat :=
  40

/-- What a path leads to from a current directory. -/
def target (t : FileTree) (creating : Bool) (current : List String) (path : String) :
    Except FileError Target :=
  if path.toList.contains '\x00' then .error .nulByte
  else if path = "" then .error .notFound
  else if maxPathBytes < path.utf8ByteSize then .error .nameTooLong
  else t.walk creating maxLinks (origin current path) (components path)

/-- The place that a path leads to from a current directory. -/
def resolve (t : FileTree) (current : List String) (path : String) :
    Except FileError (List String) :=
  match t.target false current path with
  | .error e => .error e
  | .ok (.missing _ _) => .error .notFound
  | .ok (.place place) => .ok place

/-- Whether a path leads anywhere. -/
def pathExists (t : FileTree) (current : List String) (path : String) : Bool :=
  (t.resolve current path).toBool

-- ============================================================ reading

/-- The text of the file at a place. -/
def readPlace (t : FileTree) (place : List String) : Except FileError String :=
  match t.refusal? place .read, t.entry? place with
  | some reason, _ => .error (.refused reason)
  | none, some (.file (.text s)) => .ok s
  | none, some (.file (.bytes _)) => .error .notText
  | none, some .directory => .error .isADirectory
  | none, _ => .error .notFound

/-- The text of the file that a path leads to. -/
def readText (t : FileTree) (current : List String) (path : String) :
    Except FileError String := do
  t.readPlace (← t.resolve current path)

-- ============================================================ writing

/-- The tree with an empty file at a place where there was nothing. Whoever
makes a file may read and write it. -/
def create (t : FileTree) (place : List String) : FileTree :=
  { t with
    entries := (place, .file (.text "")) :: t.entries
    refusals := t.refusals.filter fun refusal => refusal.1.1 ≠ place }

/-- Writes a text into the file at a place as far as there is room, and
tells what is wrong if there is not enough. -/
def fill (t : FileTree) (place : List String) (s : String) : FileTree × Option FileError :=
  match t.room with
  | none => (t.write place (.text s), none)
  | some n =>
    if s.utf8ByteSize ≤ n then
      ({ t.write place (.text s) with room := some (n - s.utf8ByteSize) }, none)
    else
      let part := s.toUTF8.toList.take n
      ({ t.write place (.ofBytes part) with room := some 0 }, some .noSpace)

/-- Writes a text into the file that a path leads to, which is made if it is
not there. -/
def writeFile (t : FileTree) (current : List String) (path s : String) :
    FileTree × Option FileError :=
  match t.target true current path with
  | .error e => (t, some e)
  | .ok (.missing dir name) =>
    match t.refusal? dir .write with
    | some reason => (t, some (.refused reason))
    | none => (t.create (dir ++ [name])).fill (dir ++ [name]) s
  | .ok (.place place) =>
    if t.entry? place = some .directory then (t, some .isADirectory)
    else
      match t.refusal? place .write with
      | some reason => (t, some (.refused reason))
      | none => t.fill place s

end Marginalia.FileTree
