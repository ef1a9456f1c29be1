/-
The tree of a document, from its text.
-/
import Marginalia.Html.Builder.Rules
import Marginalia.Html.Token

namespace Marginalia.Html

namespace Builder

/-- Takes up the text of the element that has just been opened, where that
is not markup, and gives what follows it. -/
def takeText (b : Builder) (s : List Char) : Builder × List Char :=
  let (text, rest) := b.reading.take s
  (({ b with reading := .markup }).take (.text text), rest)

theorem length_takeText (b : Builder) (s : List Char) :
    (b.takeText s).2.length ≤ s.length :=
  b.reading.length_take s

/-- Takes up the tokens of a text, in order. -/
def takeAll (b : Builder) (s : List Char) : Builder :=
  match _next : Token.next? b.inForeign s with
  | none => b
  | some (token, rest) =>
    let b := b.take token
    if b.reading = .markup then b.takeAll rest
    else
      let next := b.takeText rest
      next.1.takeAll next.2
termination_by s.length
decreasing_by
  · exact Token.length_next? _next
  · exact Nat.lt_of_le_of_lt (length_takeText _ _) (Token.length_next? _next)

end Builder

/-- The tree of the document with the given text. -/
def Tree.ofText (s : List Char) : Tree :=
  ((({} : Builder).takeAll (normalise s)).take .endOfDocument).tree

end Marginalia.Html
