/-
Text with styles for a terminal. What is printed is made of pieces, each
with a style or without; writing it with colours puts a sequence in front
of a styled piece that switches the style on, and one after it that
switches everything off. A report is printed bit by bit, and where a bit
cannot be printed, the rest is not printed either.
-/
namespace Marginalia.Report

/-- A style of text. -/
inductive Style where
  | bold
  | dimmed
  | green
  | red
  | cyan
  | boldCyan
deriving DecidableEq, Repr

/-- The parameters of the sequence that switches a style on. -/
def Style.parameters : Style → List Char
  | bold => ['1']
  | dimmed => ['2']
  | green => ['3', '2']
  | red => ['3', '1']
  | cyan => ['3', '6']
  | boldCyan => ['1', ';', '3', '6']

/-- The character that begins a sequence. -/
def escape : Char :=
  '\x1b'

/-- A sequence with the given parameters. -/
def sequence (parameters : List Char) : List Char :=
  escape :: '[' :: parameters ++ ['m']

/-- The sequence that switches everything off. -/
def off : List Char :=
  sequence ['0']

/-- The sequence that switches a style on. -/
def Style.on (s : Style) : List Char :=
  sequence s.parameters

/-- The text with a style switched on again wherever the text itself
switches everything off. -/
def resume (s : Style) : List Char → List Char
  | '\x1b' :: '[' :: '0' :: 'm' :: r => off ++ s.on ++ resume s r
  | c :: r => c :: resume s r
  | [] => []

/-- A piece of a report. -/
inductive Piece where
  | plain (text : List Char)
  | styled (style : Style) (text : List Char)
deriving DecidableEq, Repr

/-- A piece as it is written. -/
def Piece.write (colour : Bool) : Piece → List Char
  | plain text => text
  | styled style text =>
    if colour then style.on ++ resume style text ++ off else text

/-- Pieces as they are written. -/
def write (colour : Bool) (pieces : List Piece) : List Char :=
  pieces.flatMap (·.write colour)

/-- The pieces that are printed at one go. -/
structure Print where
  pieces : List Piece
  /-- Whether they can be formatted. If not, the program stops before it
  has written any of them. -/
  isPossible : Bool := true
deriving DecidableEq, Repr

/-- The pieces in front of the first print that is not possible. -/
def printed (prints : List Print) : List Piece :=
  (prints.takeWhile (·.isPossible)).flatMap (·.pieces)

/-- A plain piece with the given text. -/
def text (s : String) : Piece :=
  .plain s.toList

/-- A styled piece with the given text. -/
def inStyle (style : Style) (s : String) : Piece :=
  .styled style s.toList

end Marginalia.Report
