/-
Named groups of patterns. A group matches a text in which any of its
patterns occurs; the names of the groups that match are the evidence
that a comment is code.
-/
import Marginalia.Pattern

namespace Marginalia

/-- Patterns that count together as one piece of evidence. -/
structure PatternGroup where
  name : String
  patterns : List Pattern

namespace PatternGroup

/-- Whether any pattern of the group occurs in the text. -/
def matchesText (g : PatternGroup) (s : List Char) : Bool :=
  g.patterns.any fun p => p.occursIn s

/-- Names of the groups that match, in the order of the list. -/
def matching (groups : List PatternGroup) (s : List Char) : List String :=
  (groups.filter fun g => g.matchesText s).map name

end PatternGroup

namespace Pattern

/-- ASCII letters, digits and the underscore. -/
def isWordChar (c : Char) : Bool :=
  c.isAlphanum || c == '_'

/-- A word character or a hyphen, as names in stylesheets have them. -/
def isNameChar (c : Char) : Bool :=
  isWordChar c || c == '-'

/-- One word character. -/
def wordChar : Pattern :=
  .oneOf isWordChar

/-- One character of a stylesheet name. -/
def nameChar : Pattern :=
  .oneOf isNameChar

/-- One ASCII digit. -/
def digit : Pattern :=
  .oneOf Char.isDigit

/-- A name, white space around it allowed after it, and a colon. -/
def nameColon : Pattern :=
  inOrder [many1 nameChar, blanks, char ':']

/-- A given word and a colon, white space allowed between them. -/
def wordColon (word : String) : Pattern :=
  inOrder [text word, blanks, char ':']

/-- Either quotation mark of a script. -/
def quoteMark : Pattern :=
  among ['\x22', '\x27']

end Pattern

end Marginalia
