/-
Judging script comments. Any group of patterns that matches, or more
than five hundred characters, makes a comment code; the evidence lists
every group that matched. Plain words are kept before any pattern is
tried. Word characters and digits are ASCII ones, so prose in other
scripts never reads as a call or a declaration.
-/
import Marginalia.Classify.Evidence
import Marginalia.Classify.Verdict

namespace Marginalia.Js

open Pattern

/-- Comments with fewer characters are always kept. -/
def minLength : Nat :=
  3

/-- Comments with more characters are taken for data or code. -/
def maxLength : Nat :=
  500

/-- The evidence for a comment that is too long. -/
def lengthCeiling : String :=
  "length-ceiling"

-- ==================================================== the four groups

/-- Markup inside script text. -/
def markup : PatternGroup :=
  ⟨"markup",
    [text "www.w3.org/2000/svg",
     inOrder [char '<', optional (char '/'), many1 wordChar],
     inOrder [text "fill=", quoteMark],
     inOrder [text "path", many1 (.oneOf Text.isBlank), text "d="],
     inOrder [text "class=", quoteMark],
     text "clip-rule=",
     text "fill-rule="]⟩

/-- The start of the text and white space. -/
def opening : Pattern :=
  inOrder [.textStart, blanks]

/-- What ends a literal that stands alone. -/
def literalEnd : Pattern :=
  inOrder [blanks, among [',', ';', '}']]

/-- Statements, calls, literals and calls of well-known functions. -/
def codeSyntax : PatternGroup :=
  ⟨"code-syntax",
    [inOrder [opening,
       anyText "function" ["const", "let", "var", "if", "for", "while",
         "return", "import", "export", "class", "async", "await"],
       blanks, among ['(', '{']],
     inOrder [opening, many1 wordChar, blanks, char '=', blanks,
       among ['[', '{']],
     inOrder [opening, many1 wordChar, blanks, char '(',
       .many (except [')']), char ')', blanks, among ['{', ';']],
     inOrder [opening, anyText "true" ["false", "null", "undefined"],
       literalEnd],
     inOrder [opening, many1 digit, literalEnd],
     inOrder [opening, quoteMark, .many inLine, quoteMark, literalEnd],
     inOrder [opening, char '/', .many inLine, char '/',
       .many (among ['g', 'i', 'm', 'u', 'y']), literalEnd],
     inOrder [opening, among ['[', '{'], .many inLine, among [']', '}'],
       blanks, .textEnd],
     inOrder [text "console.", anyText "log" ["error", "warn", "info"],
       blanks, char '('],
     anyText "document." ["window."],
     anyText "addEventListener" ["querySelector", "getElementById"],
     inOrder [.textStart, many1 wordChar, blanks, among ['(', '{']]]⟩

/-- Declarations, units and property names inside script text. -/
def cssLeak : PatternGroup :=
  ⟨"css-leak",
    [inOrder [char '{', blanks, nameColon, blanks, many1 (except ['}']),
       char '}'],
     inOrder [nameColon, blanks, many1 (except [';']), char ';'],
     anyText "px" ["em", "rem", "%", "vh", "vw", "deg"],
     inOrder [wordColon "border", blanks, many1 digit, text "px"],
     inOrder [wordColon "animation", blanks],
     inOrder [wordColon "background-color", blanks],
     inOrder [wordColon "filter", blanks],
     inOrder [text "rgb", optional (char 'a'), char '('],
     text "hue-rotate",
     text "forwards",
     text "!important",
     wordColon "transform",
     wordColon "opacity",
     text "translateY",
     text "sepia(",
     text "saturate(",
     text "fadeOut",
     text "data-highlight"]⟩

/-- Leftovers: punctuation, flags, file names, addresses and ids. -/
def syntaxFragment : PatternGroup :=
  ⟨"syntax-fragment",
    [inOrder [.textStart, many1 (among [',', ';', '}', ']']), .textEnd],
     inOrder [.textStart, many1 (among ['g', 'm']), .textEnd],
     inOrder [.textStart, many1 (.oneOf fun c => isNameChar c || c == '.'),
       text ".js", .textEnd],
     inOrder [.textStart, text "http", optional (char 's'), text "://"],
     inOrder [.textStart, upper, many1 digit, upper, many1 digit],
     inOrder [.textStart, times 6 hexDigit, .many hexDigit, .textEnd],
     inOrder [.textStart, many1 wordChar, char '(', many1 digit]]⟩
where
  /-- One ASCII capital letter. -/
  upper : Pattern := .oneOf Char.isUpper
  /-- One digit of base sixteen, in either case. -/
  hexDigit : Pattern :=
    .oneOf fun c =>
      c.isDigit || ('a' ≤ c && c ≤ 'f') || ('A' ≤ c && c ≤ 'F')

/-- The groups, in the order in which evidence is listed. -/
def groups : List PatternGroup :=
  [markup, codeSyntax, cssLeak, syntaxFragment]

-- ============================================================ verdict

/-- One or more ASCII letters and white space, and nothing else. -/
def plainWords : Pattern :=
  inOrder [.textStart, many1 (.oneOf fun c => c.isAlpha || Text.isBlank c),
    .textEnd]

/-- Whether a text is nothing but words. -/
def isNaturalLanguage (s : List Char) : Bool :=
  plainWords.occursIn s

/-- Everything that speaks for code in a script comment. -/
def evidence (s : List Char) : List String :=
  PatternGroup.matching groups s
    ++ (if maxLength < s.length then [lengthCeiling] else [])

/-- The verdict on a script comment. -/
def classify (s : List Char) : Verdict :=
  if s.length < minLength then .keep .belowLengthFloor
  else if isNaturalLanguage s then .keep .naturalLanguage
  else
    let found := evidence s
    if found.isEmpty then .keep .noEvidence else .discard found

end Marginalia.Js
