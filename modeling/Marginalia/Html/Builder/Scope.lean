/-
Searching the open elements and closing them. A search goes from the
innermost element outwards and gives up at an element that bounds its
scope.
-/
import Marginalia.Html.Builder.Basic

namespace Marginalia.Html.Builder

/-- Whether an element that passes the test is found before one that
bounds the search. -/
def findsInScope (bounds : Element → Bool) (test : Open → Bool) : List Open → Bool
  | [] => false
  | o :: more =>
    if test o then true
    else if bounds o.element then false
    else findsInScope bounds test more

/-- Whether an element that passes the test is open in a scope. -/
def inScope (b : Builder) (bounds test : Element → Bool) : Bool :=
  findsInScope bounds (fun o => test o.element) b.stack

/-- Whether an HTML element is open in the usual scope. -/
def hasInScope (b : Builder) (name : String) : Bool :=
  b.inScope Element.boundsScope (Element.isHtml name)

/-- Whether a part of a table is open in the scope of tables. -/
def hasInTableScope (b : Builder) (name : String) : Bool :=
  b.inScope Element.boundsTableScope (Element.isHtml name)

/-- Closes the innermost elements as long as they pass the test. -/
def popWhile (b : Builder) (test : Element → Bool) : Builder :=
  { b with stack := b.stack.dropWhile fun o => test o.element }

/-- Closes elements up to and including the innermost that passes the
test. -/
def popThrough (b : Builder) (test : Element → Bool) : Builder :=
  { b with stack := (b.stack.dropWhile fun o => !test o.element).drop 1 }

/-- Closes elements up to and including the innermost of the given
name. -/
def popThroughName (b : Builder) (name : String) : Builder :=
  b.popThrough (Element.isHtml name)

/-- Closes elements up to the innermost that passes the test. -/
def popTo (b : Builder) (test : Element → Bool) : Builder :=
  b.popWhile (!test ·)

/-- Closes what ends by implication. -/
def popImplied (b : Builder) : Builder :=
  b.popWhile Element.endsByImplication

/-- Closes what ends by implication, except for elements of one name. -/
def popImpliedExcept (b : Builder) (name : String) : Builder :=
  b.popWhile fun e => e.endsByImplication && !e.isHtml name

/-- Closes the open paragraph. -/
def closeParagraph (b : Builder) : Builder :=
  (b.popImpliedExcept "p").popThroughName "p"

/-- Closes a paragraph that is open in the scope of buttons. -/
def endParagraph (b : Builder) : Builder :=
  if b.inScope Element.boundsButtonScope (Element.isHtml "p") then b.closeParagraph
  else b

/-- Forgets the formatting elements opened since the last bound, and the
bound. -/
def forgetFormatting (b : Builder) : Builder :=
  { b with formatting := (b.formatting.dropWhile Option.isSome).drop 1 }

/-- Bounds the formatting elements. -/
def boundFormatting (b : Builder) : Builder :=
  { b with formatting := none :: b.formatting }

/-- Closes a cell of a table. -/
def closeCell (b : Builder) : Builder :=
  (b.popImplied.popThrough (Element.isOneOf ["td", "th"])).forgetFormatting

/-- The mode for a selection list inside the given elements. -/
def selectMode : List Open → Mode
  | [] => .inSelect
  | o :: outer =>
    if o.element.isHtml "template" then .inSelect
    else if o.element.isHtml "table" then .inSelectInTable
    else selectMode outer

/-- The mode for the content of the given open elements. -/
def modeOf (b : Builder) : List Open → Mode
  | [] => .inBody
  | o :: outer =>
    if o.element.space ≠ .html then b.modeOf outer
    else
      match o.element.name with
      | "select" => selectMode outer
      | "td" | "th" => if outer.isEmpty then b.modeOf outer else .inCell
      | "tr" => .inRow
      | "tbody" | "thead" | "tfoot" => .inTableBody
      | "caption" => .inCaption
      | "colgroup" => .inColumnGroup
      | "table" => .inTable
      | "template" => b.templateModes.headD .inBody
      | "head" => if outer.isEmpty then b.modeOf outer else .inHead
      | "body" => .inBody
      | "frameset" => .inFrameset
      | "html" => if b.head.isSome then .afterHead else .beforeHead
      | _ => b.modeOf outer

/-- The mode for the content of the elements that are now open. -/
def currentMode (b : Builder) : Mode :=
  b.modeOf b.stack

/-- Closes a template. -/
def closeTemplate (b : Builder) : Builder :=
  let b := (b.popThroughName "template").forgetFormatting
  let b := { b with templateModes := b.templateModes.tail }
  { b with mode := b.currentMode }

end Marginalia.Html.Builder
