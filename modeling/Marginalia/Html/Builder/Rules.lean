/-
The remaining rules, those for elements of other vocabularies, and the
choice of the rules that a token goes by.
-/
import Marginalia.Html.Builder.Table

namespace Marginalia.Html.Builder

-- ================================================= selection lists

/-- Closes the selection list and handles the token outside. -/
def leaveSelect (b : Builder) : Outcome :=
  let b := b.popThroughName "select"
  b.againIn b.currentMode

/-- Whether a selection list is open in its scope. -/
def hasSelect (b : Builder) : Bool :=
  b.inScope Element.boundsSelectScope (Element.isHtml "select")

/-- Closes the current node if it has the given name. -/
def popIf (b : Builder) (name : String) : Builder :=
  if b.currentIs (Element.isHtml name) then b.pop else b

/-- Closes the selection list, where one is open. -/
def endSelect (b : Builder) : Builder :=
  if b.hasSelect then
    let b := b.popThroughName "select"
    { b with mode := b.currentMode }
  else b

/-- A start tag in a selection list. -/
def selectStart (b : Builder) (tag : Tag) : Outcome :=
  match tag.name with
  | "option" => .done ((b.popIf "option").insert (.ofTag tag))
  | "optgroup" => .done (((b.popIf "option").popIf "optgroup").insert (.ofTag tag))
  | "hr" => .done (((b.popIf "option").popIf "optgroup").insertVoid (.ofTag tag))
  | "select" => .done b.endSelect
  | "input" | "keygen" | "textarea" => if b.hasSelect then b.leaveSelect else .done b
  | "script" | "template" => .done ((b.headStart? tag).getD b)
  | _ => .done b

/-- The end tag of a group of options. An option that is open inside ends
too. -/
def endOptionGroup (b : Builder) : Builder :=
  let outer := b.stack.tail
  let b :=
    if (outer.head?.map (·.element.isHtml "optgroup")).getD false then b.popIf "option"
    else b
  b.popIf "optgroup"

/-- The rules in a selection list. -/
def inSelect (b : Builder) : Token → Outcome
  | .comment text => .done (b.insertComment text)
  | .text run => .done (b.insertText (run.filter (· != '\x00')))
  | .startTag tag => b.selectStart tag
  | .endTag name =>
    match name with
    | "optgroup" => .done b.endOptionGroup
    | "option" => .done (b.popIf "option")
    | "select" => .done b.endSelect
    | "template" => .done b.endTemplate
    | _ => .done b
  | .doctype => .done b
  | .endOfDocument => b.inBody .endOfDocument

/-- Tags that end a selection list in a table. -/
def tableTagNames : List String :=
  ["caption", "table", "tbody", "tfoot", "thead", "tr", "td", "th"]

/-- The rules in a selection list in a table. -/
def inSelectInTable (b : Builder) (token : Token) : Outcome :=
  match token with
  | .startTag tag =>
    if tableTagNames.contains tag.name then b.leaveSelect else b.inSelect token
  | .endTag name =>
    if tableTagNames.contains name then
      if b.hasInTableScope name then b.leaveSelect else .done b
    else b.inSelect token
  | _ => b.inSelect token

-- ======================================== templates, text, framesets

/-- Goes by other rules for the rest of a template. -/
def switchTemplate (b : Builder) (mode : Mode) : Outcome :=
  ({ b with templateModes := mode :: b.templateModes.tail }).againIn mode

/-- The rules at the start of a template's contents. -/
def atTemplate (b : Builder) (token : Token) : Outcome :=
  match token with
  | .comment _ => b.inBody token
  | .text _ => b.inBody token
  | .startTag tag =>
    if headNames.contains tag.name then .done ((b.headStart? tag).getD b)
    else
      match tag.name with
      | "caption" | "colgroup" | "tbody" | "tfoot" | "thead" => b.switchTemplate .inTable
      | "col" => b.switchTemplate .inColumnGroup
      | "tr" => b.switchTemplate .inTableBody
      | "td" | "th" => b.switchTemplate .inRow
      | _ => b.switchTemplate .inBody
  | .endTag name => .done (if name = "template" then b.endTemplate else b)
  | .doctype => .done b
  | .endOfDocument => b.templateEnd

/-- The rules in the text of an element. -/
def inText (b : Builder) : Token → Outcome
  | .text run => .done (b.insertText run)
  | .endOfDocument => b.pop.againIn b.returnMode
  | _ => b.pop.doneIn b.returnMode

/-- Puts a comment after everything in the html element. -/
def commentInRoot (b : Builder) (text : List Char) : Builder :=
  match b.stack.getLast? with
  | some o => b.insertCommentIn o.id text
  | none => b

/-- The rules after the body. -/
def afterBody (b : Builder) (token : Token) : Outcome :=
  match token with
  | .comment text => .done (b.commentInRoot text)
  | .text run => if isSpaceRun run then b.inBody token else b.againIn .inBody
  | .startTag tag => if tag.name = "html" then .done b else b.againIn .inBody
  | .endTag name =>
    if name = "html" then b.doneIn .afterAfterBody else b.againIn .inBody
  | .doctype => .done b
  | .endOfDocument => .done b

/-- The rules after the html element. -/
def afterAfterBody (b : Builder) (token : Token) : Outcome :=
  match token with
  | .comment text => .done (b.insertCommentIn Tree.root text)
  | .text run => if isSpaceRun run then b.inBody token else b.againIn .inBody
  | .startTag tag => if tag.name = "html" then .done b else b.againIn .inBody
  | .endTag _ => b.againIn .inBody
  | .doctype => .done b
  | .endOfDocument => .done b

/-- Text without the runs that are not white space. -/
def spaceText (b : Builder) (run : List Char) : Outcome :=
  .done (if isSpaceRun run then b.insertText run else b)

/-- The rules in a frameset. -/
def inFrameset (b : Builder) : Token → Outcome
  | .comment text => .done (b.insertComment text)
  | .text run => b.spaceText run
  | .startTag tag =>
    match tag.name with
    | "frameset" => .done (b.insert (.ofTag tag))
    | "frame" => .done (b.insertVoid (.ofTag tag))
    | "noframes" => .done ((b.headStart? tag).getD b)
    | _ => .done b
  | .endTag name =>
    if name = "frameset" && 1 < b.stack.length then
      let b := b.pop
      .done
        (if b.currentIs (Element.isHtml "frameset") then b
        else { b with mode := .afterFrameset })
    else .done b
  | .doctype => .done b
  | .endOfDocument => .done b

/-- The rules after a frameset. -/
def afterFrameset (b : Builder) : Token → Outcome
  | .comment text => .done (b.insertComment text)
  | .text run => b.spaceText run
  | .startTag tag =>
    .done (if tag.name = "noframes" then (b.headStart? tag).getD b else b)
  | .endTag name => if name = "html" then b.doneIn .afterAfterFrameset else .done b
  | .doctype => .done b
  | .endOfDocument => .done b

/-- The rules after a frameset and the html element. -/
def afterAfterFrameset (b : Builder) (token : Token) : Outcome :=
  match token with
  | .comment text => .done (b.insertCommentIn Tree.root text)
  | .text run => if isSpaceRun run then b.inBody token else .done b
  | .startTag tag =>
    .done (if tag.name = "noframes" then (b.headStart? tag).getD b else b)
  | _ => .done b

/-- The rules of the mode that is set. -/
def byMode (b : Builder) (token : Token) : Outcome :=
  match b.mode with
  | .initial => b.initial token
  | .beforeHtml => b.beforeHtml token
  | .beforeHead => b.beforeHead token
  | .inHead => b.inHead token
  | .afterHead => b.afterHead token
  | .inBody => b.inBody token
  | .text => b.inText token
  | .inTable => b.inTable token
  | .inTableText => b.inTableText token
  | .inCaption => b.inCaption token
  | .inColumnGroup => b.inColumnGroup token
  | .inTableBody => b.inTableBody token
  | .inRow => b.inRow token
  | .inCell => b.inCell token
  | .inSelect => b.inSelect token
  | .inSelectInTable => b.inSelectInTable token
  | .inTemplate => b.atTemplate token
  | .afterBody => b.afterBody token
  | .inFrameset => b.inFrameset token
  | .afterFrameset => b.afterFrameset token
  | .afterAfterBody => b.afterAfterBody token
  | .afterAfterFrameset => b.afterAfterFrameset token

-- ============================================== other vocabularies

/-- Elements of HTML that end the ones of another vocabulary. -/
def breakoutNames : List String :=
  ["b", "big", "blockquote", "body", "br", "center", "code", "dd", "div",
   "dl", "dt", "em", "embed", "h1", "h2", "h3", "h4", "h5", "h6", "head",
   "hr", "i", "img", "li", "listing", "menu", "meta", "nobr", "ol", "p",
   "pre", "ruby", "s", "small", "span", "strong", "strike", "sub", "sup",
   "table", "tt", "u", "ul", "var"]

/-- Whether a start tag ends the elements of another vocabulary. -/
def breaksOut (tag : Tag) : Bool :=
  breakoutNames.contains tag.name
    || tag.name = "font" && ["color", "face", "size"].any fun name =>
        (tag.attributes.lookup name).isSome

/-- Whether HTML may stand in the current node. -/
def holdsMarkup (e : Element) : Bool :=
  e.space = .html || e.holdsText || e.holdsHtml

/-- Closes the elements of another vocabulary up to one in which HTML may
stand, and goes on by the rules of the mode. -/
def breakOut (b : Builder) (token : Token) : Outcome :=
  (b.popTo holdsMarkup).byMode token

/-- The end tag of an element of another vocabulary, by the elements that
are open at and around the current one. Outside of all of these the rules
of the mode apply. -/
def foreignEnd (b : Builder) (name : String) : Bool → List Open → Outcome
  | _, [] => .done b
  | _, [_] => .done b
  | first, o :: outer =>
    if !first && o.element.space = .html then b.byMode (.endTag name)
    else if o.element.name = name then .done { b with stack := outer }
    else b.foreignEnd name false outer

/-- The rules inside elements of another vocabulary. -/
def foreign (b : Builder) (space : Space) (token : Token) : Outcome :=
  match token with
  | .text run =>
    let b := if isSpaceRun run then b else b.forbidFrameset
    .done (b.insertText (run.map shown))
  | .comment text => .done (b.insertComment text)
  | .startTag tag =>
    if breaksOut tag then b.breakOut token else .done (b.insertForeign space tag)
  | .endTag name =>
    if name = "br" || name = "p" then b.breakOut token
    else b.foreignEnd name true b.stack
  | .doctype => .done b
  | .endOfDocument => b.byMode token

/-- Whether a token goes by the rules of another vocabulary, that of the
current node. -/
def isForeign (e : Element) : Token → Bool
  | .endOfDocument => false
  | .text _ => !holdsMarkup e
  | .startTag tag =>
    if e.space = .html || e.holdsHtml then false
    else if e.holdsText then tag.name = "mglyph" || tag.name = "malignmark"
    else !(e.space = .mathml && e.name = "annotation-xml" && tag.name = "svg")
  | _ => e.space ≠ .html

/-- What becomes of a token at first. -/
def step (b : Builder) (token : Token) : Outcome :=
  match b.stack with
  | [] => b.byMode token
  | o :: _ =>
    if isForeign o.element token then b.foreign o.element.space token
    else b.byMode token

/-- Whether the next tokens stand in an element of another vocabulary. -/
def inForeign (b : Builder) : Bool :=
  b.currentIs (·.space ≠ .html)

-- ========================================================= tokens

/-- Handles a token until it is used up, at most so many times. -/
def settle (token : Token) : Nat → Builder → Builder
  | 0, b => b
  | n + 1, b =>
    match b.step token with
    | .done b => b
    | .again b => settle token n b

/-- How many modes a token may pass through without an element being
closed. -/
def maxModes : Nat :=
  32

/-- The token without a line feed at its start. -/
def withoutLineFeed : Token → Token
  | .text ('\n' :: run) => .text run
  | token => token

/-- Handles one token. Every time a token is handled again an element has
been closed or a later mode set, which bounds how often that happens. -/
def take (b : Builder) (token : Token) : Builder :=
  let token := if b.dropsLineFeed then withoutLineFeed token else token
  let b := { b with dropsLineFeed := false }
  match token with
  | .text [] => b
  | .doctype => if b.mode = .initial then { b with mode := .beforeHtml } else b
  | token => settle token (2 * b.stack.length + maxModes) b

end Marginalia.Html.Builder
