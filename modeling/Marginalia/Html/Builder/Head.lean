/-
The rules for what comes before the body: the html and head elements,
which are there whether they are written or not, and the elements that
belong to the head.
-/
import Marginalia.Html.Builder.Scope

namespace Marginalia.Html.Builder

/-- Whether a run of text is white space. -/
def isSpaceRun (run : List Char) : Bool :=
  run.all isSpace

/-- Elements of the head that have no content. -/
def voidHeadNames : List String :=
  ["base", "basefont", "bgsound", "link", "meta"]

/-- Elements that go by the rules of the head wherever they stand. -/
def headNames : List String :=
  voidHeadNames ++ ["noframes", "script", "style", "template", "title"]

/-- End tags that are no mistake before the body. -/
def outerEndNames : List String :=
  ["body", "html", "br"]

/-- Opens the html element. -/
def openRoot (b : Builder) (e : Element) : Builder :=
  let (b, o) := b.create e
  { b with tree := b.tree.append Tree.root o.id, stack := o :: b.stack }

/-- Opens the head element. -/
def openHead (b : Builder) (e : Element) : Builder :=
  let b := b.insert e
  { b with head := b.stack.head?, mode := .inHead }

/-- Opens a template. -/
def openTemplate (b : Builder) (tag : Tag) : Builder :=
  let b := (b.insert (.ofTag tag)).boundFormatting.forbidFrameset
  { b with mode := .inTemplate, templateModes := .inTemplate :: b.templateModes }

/-- Closes a template if one is open. -/
def endTemplate (b : Builder) : Builder :=
  if b.inTemplate then b.closeTemplate else b

/-- The rules for a start tag of the head; `none` for any other. -/
def headStart? (b : Builder) (tag : Tag) : Option Builder :=
  if voidHeadNames.contains tag.name then some (b.insertVoid (.ofTag tag))
  else
    match tag.name with
    | "title" => some (b.insertTextElement tag (.escapable "title"))
    | "noframes" => some (b.insertTextElement tag (.raw "noframes"))
    | "style" => some (b.insertTextElement tag (.raw "style"))
    | "noscript" => some (b.insertTextElement tag (.raw "noscript"))
    | "script" => some (b.insertTextElement tag .script)
    | "template" => some (b.openTemplate tag)
    | _ => none

/-- The rules before anything but comments. -/
def initial (b : Builder) : Token → Outcome
  | .comment text => .done (b.insertCommentIn Tree.root text)
  | .doctype => b.doneIn .beforeHtml
  | .text run => if isSpaceRun run then .done b else b.againIn .beforeHtml
  | _ => b.againIn .beforeHtml

/-- The rules before the html element. -/
def beforeHtml (b : Builder) : Token → Outcome
  | .comment text => .done (b.insertCommentIn Tree.root text)
  | .text run =>
    if isSpaceRun run then .done b
    else (b.openRoot (.plain "html")).againIn .beforeHead
  | .startTag tag =>
    if tag.name = "html" then (b.openRoot (.ofTag tag)).doneIn .beforeHead
    else (b.openRoot (.plain "html")).againIn .beforeHead
  | .endTag name =>
    if name = "head" || outerEndNames.contains name then
      (b.openRoot (.plain "html")).againIn .beforeHead
    else .done b
  | .doctype => .done b
  | .endOfDocument => (b.openRoot (.plain "html")).againIn .beforeHead

/-- The rules between the html element and the head. -/
def beforeHead (b : Builder) : Token → Outcome
  | .comment text => .done (b.insertComment text)
  | .text run =>
    if isSpaceRun run then .done b else .again (b.openHead (.plain "head"))
  | .startTag tag =>
    if tag.name = "html" then .done b
    else if tag.name = "head" then .done (b.openHead (.ofTag tag))
    else .again (b.openHead (.plain "head"))
  | .endTag name =>
    if name = "head" || outerEndNames.contains name then
      .again (b.openHead (.plain "head"))
    else .done b
  | .doctype => .done b
  | .endOfDocument => .again (b.openHead (.plain "head"))

/-- The rules in the head. -/
def inHead (b : Builder) : Token → Outcome
  | .comment text => .done (b.insertComment text)
  | .text run =>
    if isSpaceRun run then .done (b.insertText run) else b.pop.againIn .afterHead
  | .startTag tag =>
    if tag.name = "html" || tag.name = "head" then .done b
    else
      match b.headStart? tag with
      | some b => .done b
      | none => b.pop.againIn .afterHead
  | .endTag name =>
    if name = "head" then b.pop.doneIn .afterHead
    else if name = "template" then .done b.endTemplate
    else if outerEndNames.contains name then b.pop.againIn .afterHead
    else .done b
  | .doctype => .done b
  | .endOfDocument => b.pop.againIn .afterHead

/-- Opens the body. -/
def openBody (b : Builder) : Outcome :=
  (b.insert (.plain "body")).againIn .inBody

/-- Puts what belongs to the head into the head that is already closed. -/
def reopenHead (b : Builder) (tag : Tag) : Builder :=
  match b.head with
  | none => b
  | some head =>
    match (b.push head).headStart? tag with
    | some b => b.close head.id
    | none => b

/-- The rules between the head and the body. -/
def afterHead (b : Builder) : Token → Outcome
  | .comment text => .done (b.insertComment text)
  | .text run => if isSpaceRun run then .done (b.insertText run) else b.openBody
  | .startTag tag =>
    if tag.name = "html" || tag.name = "head" then .done b
    else if tag.name = "body" then
      (b.insert (.ofTag tag)).forbidFrameset.doneIn .inBody
    else if tag.name = "frameset" then
      (b.insert (.ofTag tag)).doneIn .inFrameset
    else if headNames.contains tag.name then .done (b.reopenHead tag)
    else b.openBody
  | .endTag name =>
    if name = "template" then .done b.endTemplate
    else if outerEndNames.contains name then b.openBody
    else .done b
  | .doctype => .done b
  | .endOfDocument => b.openBody

end Marginalia.Html.Builder
