/-
Comments between "/*" and "*/", the only kind a stylesheet has and one of
the two a script has. A comment begins at the first opener that is still
ahead and ends at the first closer after it; an opener without a closer
begins nothing, and neither does anything after it.
-/
import Marginalia.Text.Split

namespace Marginalia.Extract

/-- What opens a block comment. -/
def blockOpen : List Char :=
  ['/', '*']

/-- What closes a block comment. -/
def blockClose : List Char :=
  ['*', '/']

/-- The bodies of the block comments of a text, in order. -/
def blockBodies (s : List Char) : List (List Char) :=
  match _opened : Text.splitFirst blockOpen s with
  | none => []
  | some (_, after) =>
    match _closed : Text.splitFirst blockClose after with
    | none => []
    | some (body, rest) => body :: blockBodies rest
termination_by s.length
decreasing_by
  have ho := congrArg List.length (Text.eq_of_splitFirst _opened)
  have hc := congrArg List.length (Text.eq_of_splitFirst _closed)
  simp [blockOpen, blockClose] at ho hc
  omega

/-- A block comment with the given body. -/
def blockAround (body : List Char) : List Char :=
  blockOpen ++ body ++ blockClose

/-- The text of a block comment: its opener and its closer, where it has
them, and the white space at its ends are left out. -/
def stripBlock (raw : List Char) : List Char :=
  let opened := (Text.dropHead? blockOpen raw).getD raw
  let closed := (Text.dropTail? blockClose opened).getD opened
  Text.trim closed

end Marginalia.Extract
