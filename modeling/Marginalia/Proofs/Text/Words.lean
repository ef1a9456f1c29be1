/-
Words. A word is a stretch without white space, with white space or an end of the
text on both sides. All that is needed about them comes from one equation: white
space in a text cuts it in two, and its words are those in front and those behind
(`words_append_cons`). So white space around a text adds no word
(`words_append_blank`), and it makes no difference whether a text is cut at some of
its white space first: the words of the pieces, one piece after the other, are the
words of the text (`flatMap_words_splitOnChar`).
-/
import Marginalia.Proofs.Text.Occurrence
import Marginalia.Proofs.Text.Trim

namespace Marginalia.Text

variable {c : Char} {l r s : List Char}

/-- What stands between white space, where that is something. -/
def words (s : List Char) : List (List Char) :=
  (s.splitOnP isBlank).filter (!·.isEmpty)

-- ======================================================== white space

theorem words_append_cons (hc : isBlank c = true) (s t : List Char) :
    words (s ++ c :: t) = words s ++ words t := by
  unfold words
  rw [List.splitOnP_append_cons s t hc, List.filter_append]

theorem words_blank_append (hl : ∀ c ∈ l, isBlank c = true) (s : List Char) :
    words (l ++ s) = words s := by
  induction l with
  | nil => rfl
  | cons c l ih =>
      obtain ⟨hc, hl⟩ := List.forall_mem_cons.1 hl
      exact (words_append_cons hc [] (l ++ s)).trans (ih hl)

theorem words_append_blank (hr : ∀ c ∈ r, isBlank c = true) (s : List Char) :
    words (s ++ r) = words s := by
  cases r with
  | nil => rw [List.append_nil]
  | cons c r =>
      obtain ⟨hc, hr⟩ := List.forall_mem_cons.1 hr
      have hnone : words r = [] := by
        rw [← List.append_nil r, words_blank_append hr]
        rfl
      rw [words_append_cons hc, hnone, List.append_nil]

/-- Trimming takes no word away. -/
theorem words_trim (s : List Char) : words (trim s) = words s := by
  obtain ⟨l, r, hs, hl, hr⟩ := exists_eq_append_trim s
  conv => rhs; rw [hs, words_append_blank hr, words_blank_append hl]

-- ============================================================= pieces

theorem words_joinWith (hc : isBlank c = true) (pieces : List (List Char)) :
    words (joinWith [c] pieces) = pieces.flatMap words := by
  rw [joinWith_eq_intercalate]
  induction pieces with
  | nil => rfl
  | cons piece more ih =>
      cases more with
      | nil => simp
      | cons second more =>
          rw [List.intercalate_cons_cons, List.append_assoc, List.singleton_append,
            words_append_cons hc, ih]
          exact List.flatMap_cons.symm

theorem flatMap_words_splitOnChar (hc : isBlank c = true) (s : List Char) :
    (splitOnChar c s).flatMap words = words s := by
  rw [← words_joinWith hc, joinWith_eq_intercalate, splitOnChar_eq_splitOn,
    List.intercalate_splitOn]

/-- Pieces that are empty have no words. -/
theorem flatMap_words_filter (pieces : List (List Char)) :
    (pieces.filter (!·.isEmpty)).flatMap words = pieces.flatMap words := by
  induction pieces with
  | nil => rfl
  | cons piece more ih =>
      cases piece with
      | nil => exact ih
      | cons c piece => exact congrArg (words (c :: piece) ++ ·) ih

end Marginalia.Text
