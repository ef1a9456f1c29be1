/-
Paths as text: joining a name to a path, and the path one component up.
Neither looks at a tree, so a component ".." is a component like any
other here. Slashes at the end and components "." do not count.
-/
import Marginalia.Text.Split

namespace Marginalia.PathText

/-- A path below another. A path from the root replaces it. -/
def join (dir name : String) : String :=
  if Text.beginsWith ['/'] name.toList || dir = "" then name
  else if (Text.dropTail? ['/'] dir.toList).isSome then dir ++ name
  else dir ++ "/" ++ name

/-- A path, back to front, without the slashes and the components "." at
its end; the first slash of the path stays. -/
def dropIdle : List Char → List Char
  | ['/'] => ['/']
  | '/' :: r => dropIdle r
  | ['.', '/'] => ['/']
  | '.' :: '/' :: r => dropIdle ('/' :: r)
  | r => r

/-- A path from the root without its last component; `none` for the root
itself. -/
def parent? (path : String) : Option String :=
  let tail := dropIdle path.toList.reverse
  if tail = ['/'] ∨ tail = [] then none
  else
    let above := dropIdle (tail.dropWhile (· != '/'))
    some (String.ofList above.reverse)

/-- A path and the paths above it, the nearest first. -/
def ancestorsFrom : Nat → String → List String
  | 0, path => [path]
  | fuel + 1, path =>
    match parent? path with
    | none => [path]
    | some above => path :: ancestorsFrom fuel above

/-- A path and the paths above it, the nearest first. Each is shorter
than the one before, so their number is bounded by the length. -/
def ancestors (path : String) : List String :=
  ancestorsFrom path.length path

end Marginalia.PathText
