/-
Tokens of an HTML document: tags, comments, text and document type
declarations. A text token is a run of characters that are all white space
or none of them, except where only the end tag of an element ends its
text. White space in HTML is five ASCII characters.
-/
import Marginalia.Html.Reference

namespace Marginalia.Html

/-- White space of HTML. -/
def isSpace (c : Char) : Bool :=
  c = ' ' || c = '\n' || c = '\t' || c = '\x0c' || c = '\r'

/-- A tag. -/
structure Tag where
  /-- In lower case. -/
  name : String
  /-- Names in lower case and values, each name once. -/
  attributes : List (String × String) := []
  /-- Whether it ends with a slash. -/
  selfClosing : Bool := false
deriving DecidableEq, Repr

/-- A token. -/
inductive Token where
  | doctype
  | startTag (tag : Tag)
  | endTag (name : String)
  | comment (text : List Char)
  | text (run : List Char)
  | endOfDocument
deriving DecidableEq, Repr

/-- A character as it stands in comments, names and values: the
replacement character for the null character. -/
def shown (c : Char) : Char :=
  if c = '\x00' then replacement else c

/-- A character put before the first of two texts. -/
def consFirst (c : Char) (p : List Char × List Char) : List Char × List Char :=
  (c :: p.1, p.2)

/-- The characters of a document with one sort of line end, and without
the byte order mark it may begin with. -/
def normalise (s : List Char) : List Char :=
  let rec unify : List Char → List Char
    | '\r' :: '\n' :: r => '\n' :: unify r
    | '\r' :: r => '\n' :: unify r
    | c :: r => c :: unify r
    | [] => []
  match s with
  | '\uFEFF' :: r => unify r
  | s => unify s

end Marginalia.Html
