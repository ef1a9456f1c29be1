/-
Patterns over text, as data. A pattern is a small regular expression
with anchors for the ends of the text and of its lines; what it means is
the relation `Matches`, and `Pattern.occursIn` decides whether a text
holds an occurrence anywhere.

A pattern is read at a `Cursor`, the characters still ahead together
with the one just passed, so that the anchors can look both ways.
`Pattern.accepts` reads one occurrence at a cursor and hands the place
it reaches to a continuation, backing up where the continuation refuses.
-/
import Marginalia.Text.Split

namespace Marginalia

/-- A place in a text: the character just passed, if any, and the
characters still ahead. -/
structure Cursor where
  before : Option Char
  rest : List Char
deriving DecidableEq, Repr

namespace Cursor

/-- The place at the start of a text. -/
def start (s : List Char) : Cursor :=
  ⟨none, s⟩

/-- Whether a line begins here. -/
def atLineStart (c : Cursor) : Bool :=
  c.before == none || c.before == some '\n'

/-- Whether a line ends here. -/
def atLineEnd (c : Cursor) : Bool :=
  match c.rest with
  | [] => true
  | d :: _ => d == '\n'

end Cursor

/-- A regular expression with anchors. -/
inductive Pattern where
  /-- The empty text. -/
  | empty
  /-- One character of a class. -/
  | oneOf (holds : Char → Bool)
  /-- One pattern after the other. -/
  | sequence (first second : Pattern)
  /-- Either pattern. -/
  | either (left right : Pattern)
  /-- Any number of repetitions, none included. -/
  | many (body : Pattern)
  /-- The start of the text. -/
  | textStart
  /-- The end of the text. -/
  | textEnd
  /-- The start of a line. -/
  | lineStart
  /-- The end of a line. -/
  | lineEnd

namespace Pattern

-- ========================================================= meaning

/-- `Matches p a b`: the pattern reads the text between the places `a`
and `b`. -/
inductive Matches : Pattern → Cursor → Cursor → Prop where
  | empty (a) : Matches .empty a a
  | oneOf {holds : Char → Bool} {before c rest} (h : holds c = true) :
      Matches (.oneOf holds) ⟨before, c :: rest⟩ ⟨some c, rest⟩
  | sequence {p q a b c} (hp : Matches p a b) (hq : Matches q b c) :
      Matches (.sequence p q) a c
  | left {p q a b} (h : Matches p a b) : Matches (.either p q) a b
  | right {p q a b} (h : Matches q a b) : Matches (.either p q) a b
  | none {p} (a) : Matches (.many p) a a
  | more {p a b c} (hp : Matches p a b) (hm : Matches (.many p) b c) :
      Matches (.many p) a c
  | textStart {a : Cursor} (h : a.before = none) : Matches .textStart a a
  | textEnd {a : Cursor} (h : a.rest = []) : Matches .textEnd a a
  | lineStart {a : Cursor} (h : a.atLineStart = true) : Matches .lineStart a a
  | lineEnd {a : Cursor} (h : a.atLineEnd = true) : Matches .lineEnd a a

-- ========================================================= reading

/-- Up to `fuel` repetitions of a reading step, fewest first. -/
def repeated (step : (Cursor → Bool) → Cursor → Bool) (accept : Cursor → Bool) :
    Nat → Cursor → Bool
  | 0, a => accept a
  | fuel + 1, a => accept a || step (repeated step accept fuel) a

/-- Whether the pattern reads from the cursor to a place that `accept`
takes. A repetition is tried at most once per character ahead: one that
reads nothing would come back to the same place. -/
def accepts : Pattern → (Cursor → Bool) → Cursor → Bool
  | .empty, accept, a => accept a
  | .oneOf holds, accept, a =>
    match a.rest with
    | [] => false
    | c :: rest => holds c && accept ⟨some c, rest⟩
  | .sequence p q, accept, a => p.accepts (q.accepts accept) a
  | .either p q, accept, a => p.accepts accept a || q.accepts accept a
  | .many p, accept, a => repeated p.accepts accept a.rest.length a
  | .textStart, accept, a => a.before.isNone && accept a
  | .textEnd, accept, a => a.rest.isEmpty && accept a
  | .lineStart, accept, a => a.atLineStart && accept a
  | .lineEnd, accept, a => a.atLineEnd && accept a

/-- Whether the pattern reads from this place or from one further on. -/
def occursFrom (p : Pattern) (before : Option Char) : List Char → Bool
  | [] => p.accepts (fun _ => true) ⟨before, []⟩
  | c :: rest =>
    p.accepts (fun _ => true) ⟨before, c :: rest⟩ || p.occursFrom (some c) rest

/-- Whether the text holds an occurrence of the pattern. -/
def occursIn (p : Pattern) (s : List Char) : Bool :=
  p.occursFrom none s

-- ================================================ writing patterns

/-- One given character. -/
def char (c : Char) : Pattern :=
  .oneOf (· == c)

/-- The patterns one after the other. -/
def inOrder : List Pattern → Pattern
  | [] => .empty
  | [p] => p
  | p :: more => .sequence p (inOrder more)

/-- Any one of the patterns, the first listed and at least one. -/
def anyOf (first : Pattern) : List Pattern → Pattern
  | [] => first
  | p :: more => .either first (anyOf p more)

/-- A given text. -/
def text (s : String) : Pattern :=
  inOrder (s.toList.map char)

/-- Any one of the given texts. -/
def anyText (first : String) (others : List String) : Pattern :=
  anyOf (text first) (others.map text)

/-- One or more repetitions. -/
def many1 (p : Pattern) : Pattern :=
  .sequence p (.many p)

/-- The pattern or nothing. -/
def optional (p : Pattern) : Pattern :=
  .either p .empty

/-- Exactly `n` repetitions. -/
def times : Nat → Pattern → Pattern
  | 0, _ => .empty
  | n + 1, p => .sequence p (times n p)

/-- Any amount of white space. -/
def blanks : Pattern :=
  .many (.oneOf Text.isBlank)

/-- One of the listed characters. -/
def among (listed : List Char) : Pattern :=
  .oneOf fun c => listed.contains c

/-- One character that is not listed. -/
def except (listed : List Char) : Pattern :=
  .oneOf fun c => !listed.contains c

/-- Any character of the same line. -/
def inLine : Pattern :=
  .oneOf (· != '\n')

end Pattern

end Marginalia
