/-
Taking the first occurrence of a pattern out of a text. Several readings may
begin at one place. The one that counts takes as many repetitions as it can
and the first alternative that leads on, and `Pattern.reach` finds where it
ends by trying the readings in that order.
-/
import Marginalia.Pattern

namespace Marginalia.Pattern

/-- Up to `fuel` repetitions of a reading step, most first. -/
def repeatedMost (step : (Cursor → Option Cursor) → Cursor → Option Cursor)
    (next : Cursor → Option Cursor) : Nat → Cursor → Option Cursor
  | 0, a => next a
  | fuel + 1, a => (step (repeatedMost step next fuel) a).or (next a)

/-- The place that the pattern and after it `next` lead to from the
cursor. -/
def reach : Pattern → (Cursor → Option Cursor) → Cursor → Option Cursor
  | .empty, next, a => next a
  | .oneOf holds, next, a =>
    match a.rest with
    | [] => none
    | c :: rest => if holds c then next ⟨some c, rest⟩ else none
  | .sequence p q, next, a => p.reach (q.reach next) a
  | .either p q, next, a => (p.reach next a).or (q.reach next a)
  | .many p, next, a => repeatedMost p.reach next a.rest.length a
  | .textStart, next, a => if a.before.isNone then next a else none
  | .textEnd, next, a => if a.rest.isEmpty then next a else none
  | .lineStart, next, a => if a.atLineStart then next a else none
  | .lineEnd, next, a => if a.atLineEnd then next a else none

/-- The text ahead without the first occurrence in it. -/
def removeFrom (p : Pattern) (before : Option Char) : List Char → List Char
  | [] => []
  | c :: rest =>
    match p.reach some ⟨before, c :: rest⟩ with
    | some b => b.rest
    | none => c :: p.removeFrom (some c) rest

/-- The text without the first occurrence of the pattern; the text itself
where there is none. -/
def remove (p : Pattern) (s : List Char) : List Char :=
  p.removeFrom none s

end Marginalia.Pattern
