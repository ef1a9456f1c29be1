/-
Badges: the number of comments on a page as its toolbar button shows it.
-/
import Marginalia.Json.Basic

namespace Marginalia

/-- The picture on the toolbar button. -/
inductive Icon where
  | commentsFound
  | noneFound
deriving DecidableEq, Repr

/-- Where the picture is stored. -/
def Icon.path : Icon → String
  | .commentsFound => "/assets/images/comments_found.png"
  | .noneFound => "/assets/images/no_comments_found.png"

/-- What the toolbar button of a tab shows. -/
structure Badge where
  text : String
  icon : Icon
deriving DecidableEq, Repr

namespace Badge

/-- The badge for a number of comments. -/
def ofCount (n : Nat) : Badge :=
  if 0 < n then ⟨toString n, .commentsFound⟩ else ⟨"", .noneFound⟩

/-- A badge as JSON. -/
def toJson (b : Badge) : Json :=
  .object [("text", .string b.text), ("icon", .string b.icon.path)]

end Badge

end Marginalia
