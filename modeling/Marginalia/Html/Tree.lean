/-
Document trees under construction. Nodes are numbered in the order in
which they are made; the document itself is node zero. A node that has
been made stands nowhere until it is put somewhere, and it may be taken
out again.
-/
import Marginalia.Html.Element

namespace Marginalia.Html

/-- The number of a node. -/
abbrev NodeId := Nat

/-- What a node is. -/
inductive NodeData where
  | document
  /-- The contents of a template. -/
  | contents
  | element (e : Element)
  | comment (text : List Char)
  | text (run : List Char)
deriving DecidableEq, Repr, Inhabited

/-- A node and its place in the tree. -/
structure Node where
  data : NodeData
  parent : Option NodeId := none
  children : Array NodeId := #[]
deriving Repr, Inhabited

/-- A tree: its nodes by number. -/
structure Tree where
  nodes : Array Node
deriving Repr

namespace Tree

/-- The number of the document. -/
def root : NodeId :=
  0

/-- The tree that has nothing but a document. -/
def empty : Tree :=
  ⟨#[⟨.document, none, #[]⟩]⟩

/-- What a node is. -/
def data? (t : Tree) (id : NodeId) : Option NodeData :=
  (t.nodes[id]?).map (·.data)

/-- The parent of a node. -/
def parent? (t : Tree) (id : NodeId) : Option NodeId :=
  (t.nodes[id]?).bind (·.parent)

/-- The children of a node, in order. -/
def children (t : Tree) (id : NodeId) : Array NodeId :=
  ((t.nodes[id]?).map (·.children)).getD #[]

/-- Makes a node that stands nowhere yet. -/
def create (t : Tree) (data : NodeData) : Tree × NodeId :=
  (⟨t.nodes.push { data }⟩, t.nodes.size)

/-- Changes one node. -/
def modify (t : Tree) (id : NodeId) (f : Node → Node) : Tree :=
  ⟨t.nodes.modify id f⟩

/-- Changes the children of a node. -/
def modifyChildren (t : Tree) (id : NodeId) (f : Array NodeId → Array NodeId) :
    Tree :=
  t.modify id fun n => { n with children := f n.children }

/-- Takes a node out of the tree. -/
def detach (t : Tree) (id : NodeId) : Tree :=
  match t.parent? id with
  | none => t
  | some p =>
    (t.modifyChildren p (·.filter (· != id))).modify id fun n =>
      { n with parent := none }

/-- Makes a node the last child of another. -/
def append (t : Tree) (parent id : NodeId) : Tree :=
  ((t.detach id).modifyChildren parent (·.push id)).modify id fun n =>
    { n with parent := some parent }

/-- Puts a node before another one that has a parent. -/
def insertBefore (t : Tree) (sibling id : NodeId) : Tree :=
  let t := t.detach id
  match t.parent? sibling with
  | none => t
  | some p =>
    let insert (kids : Array NodeId) : Array NodeId :=
      let before := kids.toList.takeWhile (· != sibling)
      (before ++ id :: kids.toList.drop before.length).toArray
    (t.modifyChildren p insert).modify id fun n => { n with parent := some p }

/-- Lengthens a text node. -/
def extendText (t : Tree) (id : NodeId) (run : List Char) : Tree :=
  t.modify id fun n =>
    match n.data with
    | .text old => { n with data := .text (old ++ run) }
    | _ => n

/-- Whether a node is a text. -/
def isText (t : Tree) (id : NodeId) : Bool :=
  match t.data? id with
  | some (.text _) => true
  | _ => false

/-- Puts text at the end of a node, into its last child where that is a
text. -/
def appendText (t : Tree) (parent : NodeId) (run : List Char) : Tree :=
  let last := (t.children parent).back?
  match last.filter t.isText with
  | some id => t.extendText id run
  | none =>
    let (t, id) := t.create (.text run)
    t.append parent id

/-- The node before another one among the children of its parent. -/
def previous? (t : Tree) (id : NodeId) : Option NodeId := do
  let p ← t.parent? id
  ((t.children p).toList.takeWhile (· != id)).getLast?

/-- Puts text before a node, into the node before it where that is a
text. -/
def insertTextBefore (t : Tree) (sibling : NodeId) (run : List Char) : Tree :=
  match (t.previous? sibling).filter t.isText with
  | some id => t.extendText id run
  | none =>
    let (t, id) := t.create (.text run)
    t.insertBefore sibling id

/-- Moves all children of a node to the end of another. -/
def moveChildren (t : Tree) (source target : NodeId) : Tree :=
  (t.children source).foldl (fun t id => t.append target id) t

/-- The nodes below a node, down to the given depth: each before those
below it, and children in order. -/
def descendantsWithin (t : Tree) : Nat → NodeId → List NodeId
  | 0, _ => []
  | depth + 1, id =>
    (t.children id).toList.flatMap fun child =>
      child :: t.descendantsWithin depth child

/-- The nodes below a node. No branch is longer than there are nodes. -/
def descendants (t : Tree) (id : NodeId) : List NodeId :=
  t.descendantsWithin t.nodes.size id

/-- The texts of the comments in the document, in order. -/
def comments (t : Tree) : List (List Char) :=
  (t.descendants root).filterMap fun id =>
    match t.data? id with
    | some (.comment text) => some text
    | _ => none

/-- All text below a node. -/
def textBelow (t : Tree) (id : NodeId) : List Char :=
  (t.descendants id).flatMap fun child =>
    match t.data? child with
    | some (.text run) => run
    | _ => []

/-- The elements that stand below some node, in the order in which they
were made. -/
def elements (t : Tree) : List (NodeId × Element) :=
  (List.range t.nodes.size).filterMap fun id =>
    match t.data? id, t.parent? id with
    | some (.element e), some _ => some (id, e)
    | _, _ => none

end Tree

end Marginalia.Html
