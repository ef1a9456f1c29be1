/-
Elements and the classes of elements that decide how tags nest: which are
special, which bound a search through the open elements, which end by
implication.
-/
import Marginalia.Html.Token.Basic

namespace Marginalia.Html

/-- The vocabulary an element belongs to. -/
inductive Space where
  | html
  | svg
  | mathml
deriving DecidableEq, Repr, Inhabited

/-- An element. -/
structure Element where
  space : Space
  /-- In lower case. -/
  name : String
  attributes : List (String × String)
deriving DecidableEq, Repr, Inhabited

namespace Element

/-- The HTML element that a tag opens. -/
def ofTag (tag : Tag) : Element :=
  ⟨.html, tag.name, tag.attributes⟩

/-- The HTML element of a name, without attributes. -/
def plain (name : String) : Element :=
  ⟨.html, name, []⟩

/-- The value of an attribute. -/
def attribute? (e : Element) (name : String) : Option String :=
  e.attributes.lookup name

/-- Whether it is the HTML element of the given name. -/
def isHtml (name : String) (e : Element) : Bool :=
  e.space = .html && e.name = name

/-- Whether it is an HTML element with one of the given names. -/
def isOneOf (names : List String) (e : Element) : Bool :=
  e.space = .html && names.contains e.name

/-- Whether two elements have the same name and attributes, in whatever
order. -/
def alike (e f : Element) : Bool :=
  e.space = f.space && e.name = f.name
    && e.attributes.length = f.attributes.length
    && e.attributes.all f.attributes.contains

/-- Elements of MathML inside of which text is HTML. -/
def holdsText (e : Element) : Bool :=
  e.space = .mathml && ["mi", "mo", "mn", "ms", "mtext"].contains e.name

/-- Elements of SVG whose content is HTML. -/
def holdsHtml (e : Element) : Bool :=
  e.space = .svg && ["foreignobject", "desc", "title"].contains e.name

/-- Elements that an end tag of another name does not close. -/
def isSpecial (e : Element) : Bool :=
  isOneOf
    ["address", "applet", "area", "article", "aside", "base", "basefont",
     "bgsound", "blockquote", "body", "br", "button", "caption", "center",
     "col", "colgroup", "dd", "details", "dir", "div", "dl", "dt", "embed",
     "fieldset", "figcaption", "figure", "footer", "form", "frame",
     "frameset", "h1", "h2", "h3", "h4", "h5", "h6", "head", "header",
     "hgroup", "hr", "html", "iframe", "img", "input", "isindex", "li",
     "link", "listing", "main", "marquee", "menu", "meta", "nav", "noembed",
     "noframes", "noscript", "object", "ol", "p", "param", "plaintext",
     "pre", "script", "section", "select", "source", "style", "summary",
     "table", "tbody", "td", "template", "textarea", "tfoot", "th", "thead",
     "title", "tr", "track", "ul", "wbr", "xmp"] e
    || e.holdsText || e.holdsHtml

/-- The usual bounds of a search for an open element. -/
def boundsScope (e : Element) : Bool :=
  isOneOf
    ["applet", "caption", "html", "table", "td", "th", "marquee", "object",
     "template"] e
    || e.holdsText || e.holdsHtml

/-- The bounds of a search for a list item. -/
def boundsListScope (e : Element) : Bool :=
  e.boundsScope || isOneOf ["ol", "ul"] e

/-- The bounds of a search for a paragraph. -/
def boundsButtonScope (e : Element) : Bool :=
  e.boundsScope || isHtml "button" e

/-- The bounds of a search for a part of a table. -/
def boundsTableScope (e : Element) : Bool :=
  isOneOf ["html", "table", "template"] e

/-- The bounds of a search for a selection list: all but its own parts. -/
def boundsSelectScope (e : Element) : Bool :=
  !isOneOf ["optgroup", "option"] e

/-- Elements that may end by implication. -/
def endsByImplication (e : Element) : Bool :=
  isOneOf
    ["dd", "dt", "li", "option", "optgroup", "p", "rb", "rp", "rt", "rtc"] e

/-- Headings. -/
def isHeading (e : Element) : Bool :=
  isOneOf ["h1", "h2", "h3", "h4", "h5", "h6"] e

/-- Parts of a table that hold no text of their own. -/
def isTablePart (e : Element) : Bool :=
  isOneOf ["table", "tbody", "tfoot", "thead", "tr"] e

end Element

end Marginalia.Html
