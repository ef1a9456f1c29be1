/-
Formatting elements, such as those for bold and slanted text. One that is
closed by the end of another element is opened again for the text that
follows, and an end tag that overlaps other elements splits its element in
two, one part inside of them and one part outside.
-/
import Marginalia.Html.Builder.Scope

namespace Marginalia.Html.Builder

/-- Whether an element is among the open ones. -/
def isOpen (b : Builder) (id : NodeId) : Bool :=
  b.stack.any (·.id == id)

/-- Whether an entry is a bound, or an element that is open. -/
def isSettled (b : Builder) : Option Open → Bool
  | none => true
  | some o => b.isOpen o.id

/-- Opens again the given formatting elements, the earliest first. -/
def reopen (b : Builder) : List (Option Open) → Builder
  | [] => b
  | none :: more => b.reopen more
  | some o :: more =>
    let b := b.insert o.element
    let b := { b with formatting := (b.stack.head?) :: b.formatting }
    b.reopen more

/-- Opens again the formatting elements that have been closed since the
last bound. -/
def reopenFormatting (b : Builder) : Builder :=
  let closed := b.formatting.takeWhile (!b.isSettled ·)
  ({ b with formatting := b.formatting.drop closed.length }).reopen closed.reverse

/-- The formatting elements since the last bound, the latest first. -/
def recentFormatting (b : Builder) : List Open :=
  (b.formatting.takeWhile Option.isSome).filterMap id

/-- Takes an element out of the formatting elements. -/
def forget (b : Builder) (id : NodeId) : Builder :=
  { b with formatting := b.formatting.filter fun entry =>
      (entry.map (·.id)) != some id }

/-- The most elements that are alike among those that are opened again. -/
def maxAlike : Nat :=
  3

/-- Opens a formatting element. Of too many that are alike the earliest is
forgotten. -/
def insertFormatting (b : Builder) (tag : Tag) : Builder :=
  let e := Element.ofTag tag
  let alike := b.recentFormatting.filter fun o => o.element.alike e
  let b :=
    if alike.length < maxAlike then b
    else (alike.getLast?.map fun o => b.forget o.id).getD b
  let b := b.insert e
  { b with formatting := b.stack.head? :: b.formatting }

/-- Closes the innermost element of a name together with what is open
inside, unless a special element is in between. -/
def endAny (b : Builder) (name : String) : Builder :=
  match b.stack.find? fun o => o.element.isHtml name || o.element.isSpecial with
  | some o =>
    if o.element.isHtml name then
      let b := b.popImpliedExcept name
      { b with stack := (b.stack.dropWhile (·.id != o.id)).drop 1 }
    else b
  | none => b

-- =================================================== overlapping tags

/-- Puts an entry in front of another one, that is, later than it. -/
def insertLater (entry : Option Open) (id : NodeId) :
    List (Option Open) → List (Option Open)
  | [] => []
  | e :: more =>
    if (e.map (·.id)) = some id then entry :: e :: more
    else e :: insertLater entry id more

/-- Puts another element in the place of one, in a list of open ones. -/
def replaceOpen (old : NodeId) (new : Open) (stack : List Open) : List Open :=
  stack.map fun o => if o.id = old then new else o

/-- The state of walking from a block outwards to the formatting element
around it. -/
structure Walk where
  builder : Builder
  /-- The outermost node that has been moved so far. -/
  last : NodeId
  /-- The element after which the new formatting element is listed, where
  it is not the formatting element itself. -/
  mark : Option NodeId

/-- How many elements between a block and a formatting element are split
along. -/
def maxSplit : Nat :=
  3

/-- Walks outwards through the elements between a block and the formatting
element. One that is a formatting element itself is split along, so that
its second part takes in what has been moved so far; every other one, and
all from the fourth on, are no longer open. -/
def walkOutwards (block : NodeId) : Nat → List Open → Walk → Walk
  | _, [], w => w
  | count, o :: outer, w =>
    let b := w.builder
    let listed := b.formatting.contains (some o)
    if maxSplit ≤ count then
      walkOutwards block (count + 1) outer
        { w with builder := (b.forget o.id).close o.id }
    else if !listed then
      walkOutwards block (count + 1) outer { w with builder := b.close o.id }
    else
      let (b, new) := b.create o.element
      let b := { b with
        stack := replaceOpen o.id new b.stack
        formatting := b.formatting.map fun e => if e = some o then some new else e
        tree := b.tree.append new.id w.last }
      walkOutwards block (count + 1) outer
        { builder := b
          last := new.id
          mark := if w.last = block then some new.id else w.mark }

/-- Splits a formatting element around a block inside it: the elements in
between are split along, the block moves out of the formatting element,
and a second part of the formatting element is opened inside the block. -/
def splitAround (b : Builder) (fmt block : Open) (between : List Open)
    (ancestor : Open) : Builder :=
  let w := walkOutwards block.id 0 between ⟨b, block.id, none⟩
  let b := w.builder
  let b := { b with tree := b.tree.detach w.last }
  let b := b.putAt (b.placeIn ancestor) w.last
  let (b, new) := b.create fmt.element
  let tree := b.tree.moveChildren block.id new.id
  let b := { b with tree := tree.append block.id new.id }
  let b :=
    match w.mark with
    | none =>
      { b with formatting := b.formatting.map fun e =>
          if e = some fmt then some new else e }
    | some id =>
      ({ b with formatting := insertLater (some new) id b.formatting }).forget fmt.id
  let b := b.close fmt.id
  { b with stack := b.stack.flatMap fun o =>
      if o.id = block.id then [new, o] else [o] }

/-- Handles the end tag of a formatting element, at most so many times. -/
def endFormattingWithin (name : String) : Nat → Builder → Builder
  | 0, b => b
  | n + 1, b =>
    match b.recentFormatting.find? (·.element.name = name) with
    | none => b.endAny name
    | some fmt =>
      if !b.isOpen fmt.id then b.forget fmt.id
      else if !findsInScope Element.boundsScope (·.id == fmt.id) b.stack then b
      else
        let inside := b.stack.takeWhile (·.id != fmt.id)
        let around := b.stack.drop (inside.length + 1)
        match inside.reverse.find? (·.element.isSpecial), around with
        | some block, ancestor :: _ =>
          let between := (inside.dropWhile (·.id != block.id)).drop 1
          endFormattingWithin name n (b.splitAround fmt block between ancestor)
        | _, _ => ({ b with stack := around }).forget fmt.id

/-- How often one end tag splits its element. -/
def maxRounds : Nat :=
  8

/-- Handles the end tag of a formatting element. -/
def endFormatting (b : Builder) (name : String) : Builder :=
  match b.stack with
  | o :: _ =>
    if o.element.isHtml name && !b.formatting.contains (some o) then b.pop
    else endFormattingWithin name maxRounds b
  | [] => b

/-- Closes a link that is still open where another one begins. -/
def endOpenLink (b : Builder) : Builder :=
  match b.recentFormatting.find? (·.element.isHtml "a") with
  | none => b
  | some o => ((b.endFormatting "a").forget o.id).close o.id

end Marginalia.Html.Builder
