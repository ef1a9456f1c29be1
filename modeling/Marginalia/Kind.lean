/-
The three kinds of comment a page can carry, by the resource they stand
in, and the words used for each: the label on the wire and in reports,
the name in data formats, and the nouns for the element and the
resource.
-/
namespace Marginalia

/-- What a comment was written in: a document, a stylesheet or a
script. -/
inductive Kind where
  | html
  | css
  | js
deriving DecidableEq, Repr, Inhabited

namespace Kind

/-- Every kind, in the order in which results are listed. -/
def all : List Kind :=
  [.html, .css, .js]

/-- The label of a kind in wire strings and reports. -/
def label : Kind → String
  | .html => "HTML"
  | .css => "CSS"
  | .js => "JS"

/-- The kind with the given label; letter case counts. -/
def ofLabel? (s : String) : Option Kind :=
  all.find? fun k => k.label = s

/-- The name of a kind in data formats and on the command line. -/
def name : Kind → String
  | .html => "html"
  | .css => "css"
  | .js => "js"

/-- The kind with the given name; letter case counts. -/
def ofName? (s : String) : Option Kind :=
  all.find? fun k => k.name = s

/-- The kind with the given name whatever the case of its ASCII
letters. -/
def ofNameIgnoringCase? (s : String) : Option Kind :=
  all.find? fun k => k.name.toList = s.toList.map Char.toLower

/-- What an element that embeds the kind in a page is called. -/
def element : Kind → String
  | .html => "document"
  | .css => "style"
  | .js => "script"

/-- What a resource of the kind is called. -/
def resource : Kind → String
  | .html => "document"
  | .css => "stylesheet"
  | .js => "script"

/-- The origin of comments in the `index`-th inline element of a
kind. -/
def inlineOrigin (k : Kind) (index : Nat) : String :=
  "Inline " ++ k.element ++ " #" ++ toString index

end Kind

/-- The origin of comments that stand in the document itself. -/
def documentOrigin : String :=
  "Document"

end Marginalia
