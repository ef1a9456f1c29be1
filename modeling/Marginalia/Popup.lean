/-
The popup: the comments of a page by kind, as they arrive on the wire. A
string that is no comment is left out.
-/
import Marginalia.Comment.Basic

namespace Marginalia

/-- A line of the popup. -/
structure PopupEntry where
  text : String
  origin : String
deriving DecidableEq, Repr

/-- The lines of the popup by kind, each group in the order of arrival. -/
structure Popup where
  html : List PopupEntry := []
  css : List PopupEntry := []
  js : List PopupEntry := []
deriving DecidableEq, Repr

namespace Popup

/-- The lines for the comments of one kind. -/
def entriesOf (kind : Kind) (comments : List Comment) : List PopupEntry :=
  (comments.filter (·.kind = kind)).map fun c => ⟨c.text, c.origin⟩

/-- The popup for some comments. -/
def ofComments (comments : List Comment) : Popup :=
  ⟨entriesOf .html comments, entriesOf .css comments, entriesOf .js comments⟩

/-- The popup for some wire strings. -/
def ofWire (wires : List String) : Popup :=
  ofComments (wires.filterMap fun w => (Comment.decode w).toOption)

/-- The lines of one kind. -/
def entries (p : Popup) : Kind → List PopupEntry
  | .html => p.html
  | .css => p.css
  | .js => p.js

/-- The number of lines. -/
def total (p : Popup) : Nat :=
  p.html.length + p.css.length + p.js.length

/-- Whether there are no lines. -/
def isEmpty (p : Popup) : Bool :=
  p.total = 0

/-- The comments that the lines show, by kind. -/
def comments (p : Popup) : List Comment :=
  Kind.all.flatMap fun kind => (p.entries kind).map fun e => ⟨kind, e.text, e.origin⟩

end Popup

end Marginalia
