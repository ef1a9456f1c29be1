/-
Pages: what a scan needs of a document. These are the texts of its
comments, of its style elements and of its scripts, and the URLs of the
stylesheets and scripts that it links to.
-/
import Marginalia.Html.Document
import Marginalia.Text.Split
import Marginalia.Url.Parse

namespace Marginalia

/-- A script element: a link or a text. -/
inductive Script where
  | external (url : String)
  | inline (text : String)
deriving DecidableEq, Repr

/-- What a scan needs of a page, each list in the order of the document. -/
structure Page where
  comments : List String := []
  styles : List String := []
  stylesheets : List String := []
  scripts : List Script := []
deriving DecidableEq, Repr

/-- The URL a script links to. -/
def Script.external? : Script → Option String
  | external url => some url
  | inline _ => none

namespace Page

/-- The URL that a reference stands for: relative to the base where there
is one, and the reference itself where that fails. -/
def resolve (base : Option Url) (reference : String) : String :=
  let reference := String.ofList (Text.trim reference.toList)
  match base.bind (·.join? reference) with
  | some url => url.text
  | none => reference

/-- The URL that an attribute of an element refers to; `none` if it is
missing or blank. -/
def link? (base : Option Url) (e : Html.Element) (name : String) : Option String :=
  match e.attribute? name with
  | some v => if (Text.trim v.toList).isEmpty then none else some (resolve base v)
  | none => none

/-- The words of a text between white space. -/
def wordsFrom (word : List Char) : List Char → List (List Char)
  | [] => [word.reverse]
  | c :: r => if Html.isSpace c then word.reverse :: wordsFrom [] r else wordsFrom (c :: word) r

/-- Whether an element links to a stylesheet. Letter case counts except in
HTML. -/
def isStylesheetLink (e : Html.Element) : Bool :=
  let word := "stylesheet".toList
  let fold (w : List Char) := if e.space = .html then w.map Char.toLower else w
  match e.name, e.attribute? "rel" with
  | "link", some rel => (wordsFrom [] rel.toList).any fun w => fold w = word
  | _, _ => false

/-- What a scan needs of a document tree. -/
def ofTree (t : Html.Tree) (base : Option Url) : Page :=
  let textOf (id : Html.NodeId) : String := String.ofList (t.textBelow id)
  { comments := t.comments.map String.ofList
    styles := (t.elements.filter (·.2.name = "style")).map fun (id, _) => textOf id
    stylesheets := (t.elements.filter (isStylesheetLink ·.2)).filterMap fun (_, e) =>
      link? base e "href"
    scripts := (t.elements.filter (·.2.name = "script")).map fun (id, e) =>
      match link? base e "src" with
      | some url => .external url
      | none => .inline (textOf id) }

/-- What a scan needs of the document with the given text. References on
the page are relative to the base. -/
def ofHtml (text : String) (base : Option Url) : Page :=
  ofTree (.ofText text.toList) base

end Page

end Marginalia
