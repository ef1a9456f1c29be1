/-
The state in which a document tree is built from tokens, and the steps
that put nodes into the tree. New nodes go to the end of the current node,
which is the innermost open element; while a token that has no place in a
table is handled, they go in front of the table instead.
-/
import Marginalia.Html.Token.RawText
import Marginalia.Html.Tree

namespace Marginalia.Html

/-- Which rules apply to the next token. -/
inductive Mode where
  | initial
  | beforeHtml
  | beforeHead
  | inHead
  | afterHead
  | inBody
  | text
  | inTable
  | inTableText
  | inCaption
  | inColumnGroup
  | inTableBody
  | inRow
  | inCell
  | inSelect
  | inSelectInTable
  | inTemplate
  | afterBody
  | inFrameset
  | afterFrameset
  | afterAfterBody
  | afterAfterFrameset
deriving DecidableEq, Repr, Inhabited

/-- An element together with its node. -/
structure Open where
  id : NodeId
  element : Element
deriving DecidableEq, Repr, Inhabited

/-- A tree under construction. -/
structure Builder where
  tree : Tree := .empty
  mode : Mode := .initial
  /-- The mode to go back to after text. -/
  returnMode : Mode := .initial
  /-- The open elements, the innermost first. -/
  stack : List Open := []
  /-- The open formatting elements, the latest first. They are reopened
  where another element has closed them; `none` is a bound for that. -/
  formatting : List (Option Open) := []
  /-- The modes of the open templates, the innermost first. -/
  templateModes : List Mode := []
  head : Option Open := none
  form : Option NodeId := none
  /-- Whether a frameset may still replace the body. -/
  framesetAllowed : Bool := true
  /-- Whether a line feed that comes next is left out. -/
  dropsLineFeed : Bool := false
  /-- Whether nodes go in front of a table. -/
  besideTable : Bool := false
  /-- Text in a table that waits for its end. -/
  tableText : List (List Char) := []
  /-- How the characters that come next are to be read. -/
  reading : TextKind := .markup

namespace Builder

/-- Whether the current node is an element for which the test holds. -/
def currentIs (b : Builder) (test : Element → Bool) : Bool :=
  match b.stack with
  | [] => false
  | o :: _ => test o.element

/-- Whether any open element passes a test. -/
def hasOpen (b : Builder) (test : Element → Bool) : Bool :=
  b.stack.any fun o => test o.element

/-- Whether a template is open. -/
def inTemplate (b : Builder) : Bool :=
  b.hasOpen (Element.isHtml "template")

/-- Closes the current node. -/
def pop (b : Builder) : Builder :=
  { b with stack := b.stack.tail }

/-- Opens an element. -/
def push (b : Builder) (o : Open) : Builder :=
  { b with stack := o :: b.stack }

/-- Takes one element out of the open ones, wherever it is. -/
def close (b : Builder) (id : NodeId) : Builder :=
  { b with stack := b.stack.filter (·.id != id) }

/-- From here on no frameset replaces the body. -/
def forbidFrameset (b : Builder) : Builder :=
  { b with framesetAllowed := false }

-- ========================================================= places

/-- A place for a new node. -/
inductive Place where
  | lastIn (parent : NodeId)
  | before (sibling : NodeId)

/-- Where the content of an element goes: for a template, into the node of
its contents. -/
def contentOf (b : Builder) (o : Open) : NodeId :=
  if o.element.isHtml "template" then ((b.tree.children o.id)[0]?).getD o.id
  else o.id

/-- The place in front of the innermost open table, or in the innermost
open template if that is nearer. -/
def placeBesideTable (b : Builder) : List Open → Place
  | [] => .lastIn Tree.root
  | [o] => .lastIn (b.contentOf o)
  | o :: outer :: more =>
    if o.element.isHtml "template" then .lastIn (b.contentOf o)
    else if o.element.isHtml "table" then
      if (b.tree.parent? o.id).isSome then .before o.id else .lastIn outer.id
    else b.placeBesideTable (outer :: more)

/-- The place for a new node with the given element as its target. -/
def placeIn (b : Builder) (target : Open) : Place :=
  if b.besideTable && target.element.isTablePart then b.placeBesideTable b.stack
  else .lastIn (b.contentOf target)

/-- The place for a new node. -/
def place (b : Builder) : Place :=
  match b.stack with
  | [] => .lastIn Tree.root
  | o :: _ => b.placeIn o

/-- Puts a node at a place. -/
def putAt (b : Builder) (p : Place) (id : NodeId) : Builder :=
  match p with
  | .lastIn parent => { b with tree := b.tree.append parent id }
  | .before sibling => { b with tree := b.tree.insertBefore sibling id }

-- ========================================================== nodes

/-- Makes the node of an element, and that of its contents for a
template. -/
def create (b : Builder) (e : Element) : Builder × Open :=
  let (tree, id) := b.tree.create (.element e)
  if e.isHtml "template" then
    let (tree, inner) := tree.create .contents
    ({ b with tree := tree.append id inner }, ⟨id, e⟩)
  else ({ b with tree }, ⟨id, e⟩)

/-- Puts an element into the tree without opening it. -/
def insertClosed (b : Builder) (e : Element) : Builder × Open :=
  let (b, o) := b.create e
  (b.putAt b.place o.id, o)

/-- Puts an element into the tree and opens it. -/
def insert (b : Builder) (e : Element) : Builder :=
  let (b, o) := b.insertClosed e
  b.push o

/-- Puts an element that never has content into the tree. -/
def insertVoid (b : Builder) (e : Element) : Builder :=
  (b.insertClosed e).1

/-- Puts text into the tree. -/
def insertText (b : Builder) (run : List Char) : Builder :=
  if run.isEmpty then b
  else
    match b.place with
    | .lastIn parent => { b with tree := b.tree.appendText parent run }
    | .before sibling => { b with tree := b.tree.insertTextBefore sibling run }

/-- Puts a comment into the tree. -/
def insertComment (b : Builder) (text : List Char) : Builder :=
  let p := b.place
  let (tree, id) := b.tree.create (.comment text)
  ({ b with tree }).putAt p id

/-- Puts a comment at the end of the given node. -/
def insertCommentIn (b : Builder) (parent : NodeId) (text : List Char) : Builder :=
  let (tree, id) := b.tree.create (.comment text)
  { b with tree := tree.append parent id }

/-- Opens an element whose text is not markup. -/
def insertTextElement (b : Builder) (tag : Tag) (kind : TextKind) : Builder :=
  let b := b.insert (.ofTag tag)
  { b with returnMode := b.mode, mode := .text, reading := kind }

/-- What the rules make of a token. -/
inductive Outcome where
  /-- The token is used up. -/
  | done (b : Builder)
  /-- The token is to be handled again, in the mode that is now set. -/
  | again (b : Builder)

/-- The token is to be handled again in another mode. -/
def againIn (b : Builder) (mode : Mode) : Outcome :=
  .again { b with mode }

/-- The token is used up and another mode applies from now on. -/
def doneIn (b : Builder) (mode : Mode) : Outcome :=
  .done { b with mode }

end Builder

end Marginalia.Html
