/-
The rules in tables. What does not belong into a table goes by the rules
of the body and in front of the table.
-/
import Marginalia.Html.Builder.Body

namespace Marginalia.Html.Builder

/-- Changes the builder in an outcome. -/
def Outcome.map (f : Builder → Builder) : Outcome → Outcome
  | .done b => .done (f b)
  | .again b => .again (f b)

/-- The rules for what stands in a table but does not belong there. -/
def besideTableBody (b : Builder) (token : Token) : Outcome :=
  (({ b with besideTable := true }).inBody token).map fun b =>
    { b with besideTable := false }

/-- Parts of tables. -/
def tablePartNames : List String :=
  ["caption", "col", "colgroup", "tbody", "td", "tfoot", "th", "thead", "tr"]

/-- The groups of rows. -/
def rowGroupNames : List String :=
  ["tbody", "tfoot", "thead"]

/-- What bounds a row group. -/
def boundsRowGroup (e : Element) : Bool :=
  e.isOneOf ["tbody", "tfoot", "thead", "template", "html"]

/-- What bounds a row. -/
def boundsRow (e : Element) : Bool :=
  e.isOneOf ["tr", "template", "html"]

/-- Text in a table. It waits until it is known whether all of it is white
space. -/
def tableRun (b : Builder) (run : List Char) : Outcome :=
  if b.currentIs Element.isTablePart then
    .again { b with returnMode := b.mode, mode := .inTableText }
  else b.besideTableBody (.text run)

/-- A start tag in a table. -/
def tableStart (b : Builder) (tag : Tag) : Outcome :=
  let toTable := b.popTo Element.boundsTableScope
  let name := tag.name
  if name = "caption" then
    (toTable.boundFormatting.insert (.ofTag tag)).doneIn .inCaption
  else if name = "colgroup" then (toTable.insert (.ofTag tag)).doneIn .inColumnGroup
  else if name = "col" then (toTable.insert (.plain "colgroup")).againIn .inColumnGroup
  else if rowGroupNames.contains name then
    (toTable.insert (.ofTag tag)).doneIn .inTableBody
  else if name = "td" || name = "th" || name = "tr" then
    (toTable.insert (.plain "tbody")).againIn .inTableBody
  else if name = "table" then
    if b.hasInTableScope "table" then
      let b := b.popThroughName "table"
      b.againIn b.currentMode
    else .done b
  else if name = "style" || name = "script" || name = "template" then
    .done ((b.headStart? tag).getD b)
  else if name = "input" && isHidden tag then .done (b.insertVoid (.ofTag tag))
  else if name = "form" then
    if b.inTemplate || b.form.isSome then .done b
    else
      let (b, o) := b.insertClosed (.ofTag tag)
      .done { b with form := some o.id }
  else b.besideTableBody (.startTag tag)

/-- An end tag in a table. -/
def tableEnd (b : Builder) (name : String) : Outcome :=
  if name = "table" then
    if b.hasInTableScope "table" then
      let b := b.popThroughName "table"
      b.doneIn b.currentMode
    else .done b
  else if name = "body" || name = "html" || tablePartNames.contains name then .done b
  else if name = "template" then .done b.endTemplate
  else b.besideTableBody (.endTag name)

/-- The rules in a table. -/
def inTable (b : Builder) : Token → Outcome
  | .comment text => .done (b.insertComment text)
  | .text run => b.tableRun run
  | .startTag tag => b.tableStart tag
  | .endTag name => b.tableEnd name
  | .doctype => .done b
  | .endOfDocument => b.inBody .endOfDocument

/-- Puts the text that has been waiting into the tree: in front of the
table unless all of it is white space. -/
def settleTableText (b : Builder) : Builder :=
  let runs := b.tableText.reverse
  let b := { b with tableText := [] }
  if runs.all isSpaceRun then runs.foldl insertText b
  else
    let b := runs.foldl bodyText { b with besideTable := true }
    { b with besideTable := false }

/-- The rules after text in a table. -/
def inTableText (b : Builder) : Token → Outcome
  | .text run =>
    .done { b with tableText := run.filter (· != '\x00') :: b.tableText }
  | .doctype => .done b
  | _ => (b.settleTableText).againIn b.returnMode

/-- The rules in a caption. -/
def inCaption (b : Builder) (token : Token) : Outcome :=
  let ended (next : Builder → Outcome) : Outcome :=
    if b.hasInTableScope "caption" then
      next (b.popImplied.popThroughName "caption").forgetFormatting
    else .done b
  match token with
  | .startTag tag =>
    if tablePartNames.contains tag.name then ended (againIn · .inTable)
    else b.inBody token
  | .endTag name =>
    if name = "caption" then ended (doneIn · .inTable)
    else if name = "table" then ended (againIn · .inTable)
    else if name = "body" || name = "html" || tablePartNames.contains name then .done b
    else b.inBody token
  | _ => b.inBody token

/-- Closes a group of columns. -/
def endColumnGroup (b : Builder) : Outcome :=
  if b.currentIs (Element.isHtml "colgroup") then b.pop.againIn .inTable else .done b

/-- The rules in a group of columns. -/
def inColumnGroup (b : Builder) (token : Token) : Outcome :=
  match token with
  | .comment text => .done (b.insertComment text)
  | .text run => if isSpaceRun run then .done (b.insertText run) else b.endColumnGroup
  | .startTag tag =>
    if tag.name = "html" then .done b
    else if tag.name = "col" then .done (b.insertVoid (.ofTag tag))
    else if tag.name = "template" then .done (b.openTemplate tag)
    else b.endColumnGroup
  | .endTag name =>
    if name = "colgroup" then
      if b.currentIs (Element.isHtml "colgroup") then b.pop.doneIn .inTable else .done b
    else if name = "col" then .done b
    else if name = "template" then .done b.endTemplate
    else b.endColumnGroup
  | .doctype => .done b
  | .endOfDocument => b.inBody token

/-- The rules in a group of rows. -/
def inTableBody (b : Builder) (token : Token) : Outcome :=
  let toGroup := b.popTo boundsRowGroup
  let ended : Outcome :=
    if b.inScope Element.boundsTableScope (Element.isOneOf ["table", "tbody", "tfoot"]) then
      toGroup.pop.againIn .inTable
    else .done b
  match token with
  | .startTag tag =>
    if tag.name = "tr" then (toGroup.insert (.ofTag tag)).doneIn .inRow
    else if tag.name = "td" || tag.name = "th" then
      (toGroup.insert (.plain "tr")).againIn .inRow
    else if tablePartNames.contains tag.name then ended
    else b.inTable token
  | .endTag name =>
    if rowGroupNames.contains name then
      if b.hasInTableScope name then toGroup.pop.doneIn .inTable else .done b
    else if name = "table" then ended
    else b.inTable token
  | _ => b.inTable token

/-- The rules in a row. -/
def inRow (b : Builder) (token : Token) : Outcome :=
  let toRow := b.popTo boundsRow
  let ended : Outcome :=
    if b.hasInTableScope "tr" then toRow.pop.againIn .inTableBody else .done b
  match token with
  | .startTag tag =>
    if tag.name = "td" || tag.name = "th" then
      (toRow.insert (.ofTag tag)).boundFormatting.doneIn .inCell
    else if tablePartNames.contains tag.name then ended
    else b.inTable token
  | .endTag name =>
    if name = "tr" then
      if b.hasInTableScope "tr" then toRow.pop.doneIn .inTableBody else .done b
    else if name = "table" then ended
    else if rowGroupNames.contains name then
      if b.hasInTableScope name then ended else .done b
    else b.inTable token
  | _ => b.inTable token

/-- The rules in a cell. -/
def inCell (b : Builder) (token : Token) : Outcome :=
  match token with
  | .startTag tag =>
    if tablePartNames.contains tag.name then
      if b.inScope Element.boundsTableScope (Element.isOneOf ["td", "th"]) then
        b.closeCell.againIn .inRow
      else .done b
    else b.inBody token
  | .endTag name =>
    if name = "td" || name = "th" then
      if b.hasInTableScope name then
        ((b.popImplied.popThroughName name).forgetFormatting).doneIn .inRow
      else .done b
    else if name = "table" || name = "tr" || rowGroupNames.contains name then
      if b.hasInTableScope name then b.closeCell.againIn .inRow else .done b
    else if name = "body" || name = "html" || tablePartNames.contains name then .done b
    else b.inBody token
  | _ => b.inBody token

end Marginalia.Html.Builder
