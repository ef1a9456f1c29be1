/-
Spans: what the syntax of a resource marks as a comment, before it is
cleaned and judged. A span keeps its delimiters; cleaning takes them and
the white space around the text away, and drops a span with nothing
left.
-/
import Marginalia.Comment.Basic
import Marginalia.Extract.Block
import Marginalia.Extract.Literal
import Marginalia.Pattern.Removal

namespace Marginalia

/-- A stretch of a resource that its syntax marks as a comment. -/
structure Span where
  kind : Kind
  raw : String
  origin : String
deriving DecidableEq, Repr

namespace Extract

/-- What opens a comment in a document. -/
def markupOpen : List Char :=
  "<!--".toList

/-- What closes a comment in a document. -/
def markupClose : List Char :=
  "-->".toList

/-- A closing marker at the end of a text, with the white space behind
it. -/
def trailingClose : Pattern :=
  .inOrder (markupClose.map .char ++ [.blanks, .textEnd])

/-- An opening marker at the start of a text, with the white space behind
it. -/
def leadingOpen : Pattern :=
  .inOrder (.textStart :: markupOpen.map .char ++ [.blanks])

/-- The text of a document comment: one closing marker at the end and one
opening marker at the start are left out, and so is everything from the
next opening marker on. -/
def stripMarkup (value : List Char) : List Char :=
  let ended := trailingClose.remove (Text.trim value)
  let begun := leadingOpen.remove ended
  match Text.splitFirst markupOpen begun with
  | some (head, _) => Text.trim head
  | none => Text.trim begun

/-- What opens a comment that runs to the end of its line. -/
def lineOpen : List Char :=
  ['/', '/']

/-- The text of a script comment of either sort. -/
def stripScript (raw : List Char) : List Char :=
  match Text.dropHead? lineOpen raw with
  | some body => Text.trim body
  | none => stripBlock raw

/-- The text of a span's raw characters. -/
def strip : Kind → List Char → List Char
  | .html => stripMarkup
  | .css => stripBlock
  | .js => stripScript

/-- The comments that run to the end of their line, with their marks: one
for each line that has the marks, from the first of them on. -/
def lineComments (s : List Char) : List (List Char) :=
  (Text.splitLines s).filterMap fun line =>
    (Text.splitFirst lineOpen line).map fun (_, body) => lineOpen ++ body

/-- The comments of a stylesheet, in order. -/
def cssComments (s : List Char) : List (List Char) :=
  (blockBodies s).map blockAround

/-- The comments of a script once its string literals are emptied: first
those that run to the end of a line, then the others. -/
def jsComments (s : List Char) : List (List Char) :=
  let elided := elideStrings s
  lineComments elided ++ cssComments elided

end Extract

namespace Span

/-- The comment in a span, unless nothing is left of its text. -/
def clean? (s : Span) : Option Comment :=
  match Extract.strip s.kind s.raw.toList with
  | [] => none
  | text => some ⟨s.kind, String.ofList text, s.origin⟩

/-- One span for each comment node that is not blank, in order. -/
def ofNodes (nodes : List String) (origin : String) : List Span :=
  ((nodes.map fun node => Text.trim node.toList).filter (!·.isEmpty)).map
    fun raw => ⟨.html, String.ofList raw, origin⟩

/-- The spans of one resource, in the order in which they are
reported. -/
def ofText (kind : Kind) (text : String) (origin : String) : List Span :=
  match kind with
  | .html => ofNodes [text] origin
  | .css =>
    (Extract.cssComments text.toList).map fun raw =>
      ⟨.css, String.ofList raw, origin⟩
  | .js =>
    (Extract.jsComments text.toList).map fun raw =>
      ⟨.js, String.ofList raw, origin⟩

end Span

end Marginalia
