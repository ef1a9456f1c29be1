/-
What stands after the opening of a comment or of something that is
treated as one. A proper comment ends at "-->" or at "--!>", a comment
that begins with ">" or "->" ends there, and where the document ends, the
comment ends before the closing dashes that are there already. Everything
else that opens with "<!", "<?" or "</" ends at the next ">".
-/
import Marginalia.Html.Token.Basic

namespace Marginalia.Html

/-- The text of a comment up to its end, and what follows the comment. -/
def commentBody : List Char → List Char × List Char
  | '-' :: '-' :: '>' :: r => ([], r)
  | '-' :: '-' :: '!' :: '>' :: r => ([], r)
  | ['-', '-', '!'] => ([], [])
  | ['-', '-'] => ([], [])
  | ['-'] => ([], [])
  | c :: r => consFirst (shown c) (commentBody r)
  | [] => ([], [])

/-- The text of a comment whose opening has just been passed, and what
follows the comment. -/
def commentText : List Char → List Char × List Char
  | '>' :: r => ([], r)
  | '-' :: '>' :: r => ([], r)
  | s => commentBody s

/-- The characters up to the next ">", and what follows that. -/
def upToClose : List Char → List Char × List Char
  | [] => ([], [])
  | '>' :: r => ([], r)
  | c :: r => consFirst (shown c) (upToClose r)

/-- The text of a CDATA section, and what follows it. -/
def cdataText : List Char → List Char × List Char
  | [] => ([], [])
  | ']' :: ']' :: '>' :: r => ([], r)
  | c :: r => consFirst c (cdataText r)

theorem length_commentBody (s : List Char) :
    (commentBody s).2.length ≤ s.length := by
  fun_induction commentBody s <;> simp_all [consFirst] <;> omega

theorem length_commentText (s : List Char) :
    (commentText s).2.length ≤ s.length := by
  unfold commentText
  split
  · simp
  · simp; omega
  · exact length_commentBody _

theorem length_upToClose (s : List Char) :
    (upToClose s).2.length ≤ s.length := by
  fun_induction upToClose s with
  | case1 => exact Nat.le_refl _
  | case2 r => exact Nat.le_succ r.length
  | case3 c r _ ih => exact Nat.le_succ_of_le ih

theorem length_cdataText (s : List Char) :
    (cdataText s).2.length ≤ s.length := by
  fun_induction cdataText s <;> simp_all [consFirst] <;> omega

end Marginalia.Html
