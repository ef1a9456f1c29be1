/-
The rules in the body. They also serve, for most tokens, inside captions,
cells and templates, and for what stands in a table but does not belong
there.
-/
import Marginalia.Html.Builder.Formatting
import Marginalia.Html.Builder.Head

namespace Marginalia.Html.Builder

/-- Elements that a paragraph does not hold. -/
def blockNames : List String :=
  ["address", "article", "aside", "blockquote", "center", "details",
   "dialog", "dir", "div", "dl", "fieldset", "figcaption", "figure",
   "footer", "header", "hgroup", "main", "menu", "nav", "ol", "p", "search",
   "section", "summary", "ul"]

/-- Elements whose end tag closes them together with what is open
inside. -/
def closedByEndTag : List String :=
  ["address", "article", "aside", "blockquote", "button", "center",
   "details", "dialog", "dir", "div", "dl", "fieldset", "figcaption",
   "figure", "footer", "header", "hgroup", "listing", "main", "menu", "nav",
   "ol", "pre", "search", "section", "summary", "ul"]

/-- Formatting elements other than links. -/
def formattingNames : List String :=
  ["b", "big", "code", "em", "font", "i", "s", "small", "strike", "strong",
   "tt", "u"]

/-- Elements that bound formatting. -/
def boundingNames : List String :=
  ["applet", "marquee", "object"]

/-- Elements without content inside text. -/
def voidTextNames : List String :=
  ["area", "br", "embed", "img", "keygen", "wbr", "input"]

/-- Elements without content besides those. -/
def voidOtherNames : List String :=
  ["param", "source", "track"]

/-- Parts of tables and documents that mean nothing in the body. -/
def strayNames : List String :=
  ["caption", "col", "colgroup", "frame", "head", "tbody", "td", "tfoot",
   "th", "thead", "tr"]

/-- Headings. -/
def headingNames : List String :=
  ["h1", "h2", "h3", "h4", "h5", "h6"]

/-- Whether an input element is hidden. -/
def isHidden (tag : Tag) : Bool :=
  match tag.attributes.lookup "type" with
  | some v => v.toList.map Char.toLower = "hidden".toList
  | none => false

/-- Text in the body. The null character is left out. -/
def bodyText (b : Builder) (run : List Char) : Builder :=
  match run.filter (· != '\x00') with
  | [] => b
  | run =>
    let b := b.reopenFormatting
    let b := if isSpaceRun run then b else b.forbidFrameset
    b.insertText run

/-- The body, where there is one. -/
def body? (b : Builder) : Option Open :=
  (b.stack.reverse[1]?).filter (·.element.isHtml "body")

/-- A frameset in place of the body. -/
def replaceBody (b : Builder) (tag : Tag) : Builder :=
  match b.framesetAllowed, b.body? with
  | true, some body =>
    let b := { b with
      tree := b.tree.detach body.id
      stack := b.stack.drop (b.stack.length - 1) }
    { b.insert (.ofTag tag) with mode := .inFrameset }
  | _, _ => b

/-- The open item that an item of a list ends, by the names of items. -/
def openItem? (names : List String) : List Open → Option String
  | [] => none
  | o :: more =>
    if o.element.isOneOf names then some o.element.name
    else if o.element.isSpecial && !o.element.isOneOf ["address", "div", "p"] then none
    else openItem? names more

/-- An item of a list, by the names of items. -/
def insertItem (b : Builder) (names : List String) (tag : Tag) : Builder :=
  let b := b.forbidFrameset
  let b :=
    match openItem? names b.stack with
    | some name => (b.popImpliedExcept name).popThroughName name
    | none => b
  b.endParagraph.insert (.ofTag tag)

/-- An element of another vocabulary. -/
def insertForeign (b : Builder) (space : Space) (tag : Tag) : Builder :=
  let e : Element := ⟨space, tag.name, tag.attributes⟩
  if tag.selfClosing then b.insertVoid e else b.insert e

/-- A form. One form does not hold another. -/
def insertForm (b : Builder) (tag : Tag) : Builder :=
  if b.form.isSome && !b.inTemplate then b
  else
    let b := b.endParagraph.insert (.ofTag tag)
    if b.inTemplate then b else { b with form := b.stack.head?.map (·.id) }

/-- A selection list. Where it stands in a table decides which rules apply
inside. -/
def insertSelect (b : Builder) (tag : Tag) : Builder :=
  let b := (b.reopenFormatting.insert (.ofTag tag)).forbidFrameset
  let inTable :=
    [Mode.inTable, .inCaption, .inTableBody, .inRow, .inCell].contains b.mode
  { b with mode := if inTable then .inSelectInTable else .inSelect }

/-- A void element inside text. -/
def insertVoidText (b : Builder) (tag : Tag) : Builder :=
  let b := b.reopenFormatting.insertVoid (.ofTag tag)
  if tag.name = "input" && isHidden tag then b else b.forbidFrameset

/-- A start tag in the body that is none of the classes of names. -/
def bodyStartOther (b : Builder) (tag : Tag) : Builder :=
  match tag.name with
  | "a" => b.endOpenLink.reopenFormatting.insertFormatting tag
  | "nobr" =>
    let b := b.reopenFormatting
    let b := if b.hasInScope "nobr" then (b.endFormatting "nobr").reopenFormatting else b
    b.insertFormatting tag
  | "button" =>
    let b := if b.hasInScope "button" then b.popImplied.popThroughName "button" else b
    (b.reopenFormatting.insert (.ofTag tag)).forbidFrameset
  | "table" => { (b.endParagraph.insert (.ofTag tag)).forbidFrameset with mode := .inTable }
  | "hr" => (b.endParagraph.insertVoid (.ofTag tag)).forbidFrameset
  | "image" => b.insertVoidText { tag with name := "img" }
  | "pre" | "listing" =>
    { (b.endParagraph.insert (.ofTag tag)).forbidFrameset with dropsLineFeed := true }
  | "form" => b.insertForm tag
  | "li" => b.insertItem ["li"] tag
  | "dd" | "dt" => b.insertItem ["dd", "dt"] tag
  | "plaintext" => { b.endParagraph.insert (.ofTag tag) with reading := .plain }
  | "textarea" =>
    { b.forbidFrameset.insertTextElement tag (.escapable "textarea") with
      dropsLineFeed := true }
  | "xmp" =>
    b.endParagraph.reopenFormatting.forbidFrameset.insertTextElement tag (.raw "xmp")
  | "iframe" => b.forbidFrameset.insertTextElement tag (.raw "iframe")
  | "noembed" => b.insertTextElement tag (.raw "noembed")
  | "noscript" => b.insertTextElement tag (.raw "noscript")
  | "select" => b.insertSelect tag
  | "optgroup" | "option" =>
    let b := if b.currentIs (Element.isHtml "option") then b.pop else b
    b.reopenFormatting.insert (.ofTag tag)
  | "rb" | "rtc" =>
    let b := if b.hasInScope "ruby" then b.popImplied else b
    b.insert (.ofTag tag)
  | "rp" | "rt" =>
    let b := if b.hasInScope "ruby" then b.popImpliedExcept "rtc" else b
    b.insert (.ofTag tag)
  | "math" => b.insertForeign .mathml tag
  | "svg" => b.insertForeign .svg tag
  | _ => b.reopenFormatting.insert (.ofTag tag)

/-- A start tag in the body. -/
def bodyStart (b : Builder) (tag : Tag) : Builder :=
  let name := tag.name
  if name = "html" || strayNames.contains name then b
  else if name = "body" then
    if b.body?.isSome && !b.inTemplate then b.forbidFrameset else b
  else if name = "frameset" then b.replaceBody tag
  else if headNames.contains name then (b.headStart? tag).getD b
  else if blockNames.contains name then b.endParagraph.insert (.ofTag tag)
  else if headingNames.contains name then
    let b := b.endParagraph
    let b := if b.currentIs Element.isHeading then b.pop else b
    b.insert (.ofTag tag)
  else if formattingNames.contains name then b.reopenFormatting.insertFormatting tag
  else if boundingNames.contains name then
    (b.reopenFormatting.insert (.ofTag tag)).boundFormatting.forbidFrameset
  else if voidTextNames.contains name then b.insertVoidText tag
  else if voidOtherNames.contains name then b.insertVoid (.ofTag tag)
  else b.bodyStartOther tag

/-- The end tag of a form. -/
def endForm (b : Builder) : Builder :=
  if b.inTemplate then
    if b.hasInScope "form" then b.popImplied.popThroughName "form" else b
  else
    match b.form with
    | none => b
    | some id =>
      let b := { b with form := none }
      if findsInScope Element.boundsScope (·.id == id) b.stack then b.popImplied.close id
      else b

/-- An end tag in the body. -/
def bodyEnd (b : Builder) (name : String) : Outcome :=
  if name = "body" then
    if b.hasInScope "body" then b.doneIn .afterBody else .done b
  else if name = "html" then
    if b.hasInScope "body" then b.againIn .afterBody else .done b
  else if name = "template" then .done b.endTemplate
  else if closedByEndTag.contains name then
    .done (if b.hasInScope name then b.popImplied.popThroughName name else b)
  else if name = "form" then .done b.endForm
  else if name = "p" then
    let b :=
      if b.inScope Element.boundsButtonScope (Element.isHtml "p") then b
      else b.insert (.plain "p")
    .done b.closeParagraph
  else if name = "li" then
    .done
      (if b.inScope Element.boundsListScope (Element.isHtml name) then
        (b.popImpliedExcept name).popThroughName name
      else b)
  else if name = "dd" || name = "dt" then
    .done (if b.hasInScope name then (b.popImpliedExcept name).popThroughName name else b)
  else if headingNames.contains name then
    .done
      (if b.inScope Element.boundsScope Element.isHeading then
        b.popImplied.popThrough Element.isHeading
      else b)
  else if name = "a" || name = "nobr" || formattingNames.contains name then
    .done (b.endFormatting name)
  else if boundingNames.contains name then
    .done
      (if b.hasInScope name then
        (b.popImplied.popThroughName name).forgetFormatting
      else b)
  else if name = "br" then .done (b.insertVoidText ⟨"br", [], false⟩)
  else .done (b.endAny name)

/-- The end of the document inside a template: the template is closed, and
what is around it meets the end again. -/
def templateEnd (b : Builder) : Outcome :=
  if b.inTemplate then .again b.closeTemplate else .done b

/-- The rules in the body. -/
def inBody (b : Builder) : Token → Outcome
  | .comment text => .done (b.insertComment text)
  | .text run => .done (b.bodyText run)
  | .startTag tag => .done (b.bodyStart tag)
  | .endTag name => b.bodyEnd name
  | .doctype => .done b
  | .endOfDocument => if b.templateModes.isEmpty then .done b else b.templateEnd

end Marginalia.Html.Builder
