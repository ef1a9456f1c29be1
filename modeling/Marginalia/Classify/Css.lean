/-
Judging stylesheet comments. They are short and noisy, so a single
signal is not enough: a comment is taken for commented-out declarations
only when at least two different signals match and it is not shorter
than ten characters.
-/
import Marginalia.Classify.Evidence
import Marginalia.Classify.Verdict

namespace Marginalia.Css

open Pattern

/-- Comments with fewer characters are always kept. -/
def minLength : Nat :=
  10

/-- The number of signals that make a comment code. -/
def minSignals : Nat :=
  2

-- ================================================ structural signals

/-- A line that begins with a name, a colon and a value. -/
def declaration : Pattern :=
  inOrder [.lineStart, blanks, nameColon, blanks, many1 (except [';']),
    .either (char ';') .lineEnd]

/-- A declaration ended by a semicolon and another one after it. -/
def declarationSequence : Pattern :=
  inOrder [nameColon, blanks, many1 (except [';', '{', '}']), char ';',
    blanks, nameColon, blanks, many1 (except [';', '{', '}'])]

/-- An at-sign and a word at the start of the text. -/
def atRule : Pattern :=
  inOrder [.textStart, blanks, char '@', many1 wordChar]

/-- Characters of the selectors that signal a rule. -/
def isSelectorChar (c : Char) : Bool :=
  isNameChar c || ['.', '#', '[', ']', ':', '(', ')'].contains c

/-- A line that begins with a selector and an opening brace. -/
def selectorBlock : Pattern :=
  inOrder [.lineStart, blanks, many1 (.oneOf isSelectorChar), blanks, char '{']

/-- A closing brace on a line of its own. -/
def closingBrace : Pattern :=
  inOrder [.lineStart, blanks, char '}', blanks, .lineEnd]

-- =========================================== well-known declarations

/-- A border with a width in pixels. -/
def borderWidth : Pattern :=
  inOrder [wordColon "border", blanks, many1 digit, text "px"]

/-- A colour function with its opening parenthesis. -/
def colorFunction : Pattern :=
  inOrder [text "rgb", optional (char 'a'), char '(']

/-- The signals, in the order in which evidence is listed. -/
def signals : List PatternGroup :=
  [⟨"declaration", [declaration]⟩,
   ⟨"declaration-sequence", [declarationSequence]⟩,
   ⟨"at-rule", [atRule]⟩,
   ⟨"selector-block", [selectorBlock]⟩,
   ⟨"closing-brace", [closingBrace]⟩,
   ⟨"border-width", [borderWidth]⟩,
   ⟨"animation", [inOrder [wordColon "animation", blanks, many1 nameChar]]⟩,
   ⟨"background",
     [inOrder [text "background", .many (except [':']), char ':', blanks]]⟩,
   ⟨"filter", [inOrder [wordColon "filter", blanks]]⟩,
   ⟨"data-highlight", [text "data-highlight"]⟩,
   ⟨"fade-out", [text "fadeOut"]⟩,
   ⟨"color-function", [colorFunction]⟩,
   ⟨"hue-rotate", [text "hue-rotate"]⟩,
   ⟨"forwards", [text "forwards"]⟩,
   ⟨"important", [text "!important"]⟩,
   ⟨"transform", [wordColon "transform"]⟩,
   ⟨"opacity", [wordColon "opacity"]⟩,
   ⟨"translate-y", [text "translateY"]⟩,
   ⟨"sepia", [text "sepia("]⟩,
   ⟨"saturate", [text "saturate("]⟩]

/-- Names of the signals that match, in the order of `signals`. -/
def matchingSignals (s : List Char) : List String :=
  PatternGroup.matching signals s

/-- The verdict on a stylesheet comment. -/
def classify (s : List Char) : Verdict :=
  if s.length < minLength then .keep .belowLengthFloor
  else
    let matched := matchingSignals s
    if minSignals ≤ matched.length then .discard matched
    else if matched.isEmpty then .keep .noEvidence
    else .keep (.insufficientEvidence matched)

end Marginalia.Css
