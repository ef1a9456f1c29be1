/-
Texts on one line. A comment of several lines is shown on one, each line trimmed and
those left out that have nothing else (`singleLine`). No word is lost on the way,
none is put together with the next one, and none is cut in two
(`singleLine_keeps_words`).

# Where lines end

A line feed ends a line, and so does a carriage return with a line feed behind it;
the last line may be ended by the text itself, so that nothing follows the last line
feed (`linesOf`). Cutting at line feeds alone gives other pieces: a carriage return
may be left at the end of one, and one may be left over at the end that is empty. As
the first is white space and the second is left out, what is shown is the same
(`singleLine_eq_join`), and the proofs go by the pieces between line feeds.

# Why nothing is lost

The pieces are cut apart at white space, trimmed of white space and put together with
white space, and the ones that are left out have no word, so the words stay the same
at each step. What comes out is trimmed, as each piece is, and on one line; such a
text is not changed any more (`singleLine_eq_self_iff`).
-/
import Marginalia.Proofs.Report.Colour
import Marginalia.Proofs.Text.Words

namespace Marginalia

namespace Text

-- ================================================ lines and their ends

/-- What stands in front of a line feed, without a carriage return at its end. -/
def withoutReturn (piece : List Char) : List Char :=
  if piece.getLast? = some '\r' then piece.dropLast else piece

/-- The lines of a text: what stands in front of its line feeds, and what stands
behind the last one if that is something. -/
def linesOf (s : List Char) : List (List Char) :=
  let pieces := splitLines s
  pieces.dropLast.map withoutReturn ++ pieces.getLast?.toList.filter (!·.isEmpty)

theorem trim_withoutReturn (piece : List Char) : trim (withoutReturn piece) = trim piece := by
  unfold withoutReturn
  split
  · next hlast =>
    obtain ⟨line, rfl⟩ := List.getLast?_eq_some_iff.1 hlast
    have hreturn : ∀ c ∈ ['\r'], isBlank c = true := List.forall_mem_singleton.2 (by decide)
    rw [List.dropLast_concat]
    exact (trim_append_blank (l := []) (by simp) hreturn).symm
  · rfl

-- ============================================================= pieces

/-- Trimmed pieces are put together to a trimmed text. -/
theorem trim_joinWith {sep : List Char} {pieces : List (List Char)}
    (h : ∀ piece ∈ pieces, piece ≠ [] ∧ trim piece = piece) :
    trim (joinWith sep pieces) = joinWith sep pieces := by
  induction pieces with
  | nil => rfl
  | cons piece more ih =>
      obtain ⟨⟨hpiece, htrim⟩, hmore⟩ := List.forall_mem_cons.1 h
      cases more with
      | nil => exact htrim
      | cons second more =>
          have hjoined : joinWith sep (second :: more) ≠ [] := by
            have hsecond := (hmore second List.mem_cons_self).1
            cases more with
            | nil => exact hsecond
            | cons third more => simp [joinWith, hsecond]
          exact trim_append_append hpiece hjoined htrim (ih hmore) sep

end Text

namespace Report

open Text

variable {s t : List Char}

-- ============================================== what is put on the line

/-- A line that ends with a carriage return, or with the text, is shown like one
that ends with a line feed. -/
theorem singleLine_eq_join (s : List Char) :
    singleLine s = joinWith [' '] (((linesOf s).map trim).filter (!·.isEmpty)) := by
  have hsome : splitLines s ≠ [] := by
    unfold splitLines
    rw [splitOnChar_eq_splitOn]
    exact List.splitOn_ne_nil '\n' s
  obtain ⟨front, last, hpieces⟩ := (List.eq_nil_or_concat' (splitLines s)).resolve_left hsome
  have hlines : linesOf s = front.map withoutReturn ++ [last].filter (!·.isEmpty) := by
    simp [linesOf, hpieces]
  have hfront : front.map (trim ∘ withoutReturn) = front.map trim :=
    List.map_congr_left fun piece _ => trim_withoutReturn piece
  have hlast : (([last].filter (!·.isEmpty)).map trim).filter (!·.isEmpty)
      = ([last].map trim).filter (!·.isEmpty) := by
    cases last with
    | nil => rfl
    | cons c last => rfl
  rw [singleLine, hpieces, hlines, List.map_append, List.map_append, List.filter_append,
    List.filter_append, List.map_map, hfront, hlast]

-- the pieces are not the lines, but only by what is not shown
example : linesOf "a\r\nb\r\r\n\nc\rd\n".toList
      = ["a".toList, "b\r".toList, [], "c\rd".toList]
    ∧ splitLines "a\r\nb\r\r\n\nc\rd\n".toList
      = ["a\r".toList, "b\r\r".toList, [], "c\rd".toList, []] := by
  decide

theorem trim_singleLine (s : List Char) : trim (singleLine s) = singleLine s := by
  apply trim_joinWith
  intro piece hpiece
  obtain ⟨hmem, hfull⟩ := List.mem_filter.1 hpiece
  obtain ⟨line, -, rfl⟩ := List.mem_map.1 hmem
  exact ⟨by simpa using hfull, trim_trim line⟩

theorem words_singleLine (s : List Char) : words (singleLine s) = words s := by
  unfold singleLine splitLines
  calc words (joinWith [' '] (((splitOnChar '\n' s).map trim).filter (!·.isEmpty)))
      = ((splitOnChar '\n' s).map trim).flatMap words := by
        rw [words_joinWith (by decide), flatMap_words_filter]
    _ = (splitOnChar '\n' s).flatMap words := by
        rw [List.flatMap_map]
        exact List.flatMap_congr fun line _ => words_trim line
    _ = words s := flatMap_words_splitOnChar (by decide) s

/-- Nothing is shown of white space, and something of every other text. -/
theorem singleLine_eq_nil_iff : singleLine s = [] ↔ ∀ c ∈ s, isBlank c = true := by
  rw [← trim_singleLine, trim_eq_nil_iff]
  refine forall_congr' fun c => ?_
  cases hc : isBlank c with
  | true => exact iff_of_true (fun _ => rfl) (fun _ => rfl)
  | false => rw [mem_singleLine_iff hc]

/-- What stays as it is: a trimmed text on one line. -/
theorem singleLine_eq_self_iff : singleLine t = t ↔ '\n' ∉ t ∧ trim t = t := by
  constructor
  · intro h
    rw [← h]
    exact ⟨newline_notMem_singleLine t, trim_singleLine t⟩
  · rintro ⟨hline, htrim⟩
    unfold singleLine splitLines
    rw [splitOnChar_of_notMem hline, List.map_singleton, htrim]
    cases t with
    | nil => rfl
    | cons c t => rfl

-- =============================================================== main

/-- Putting a text on one line takes its lines, however they end, and loses no word:
the result has no line feed and no white space at its ends, its words are those of
the text, it is empty only for white space, and it stays as it is when it is put on
one line again. -/
theorem singleLine_keeps_words (s : List Char) :
    singleLine s = joinWith [' '] (((linesOf s).map trim).filter (!·.isEmpty))
      ∧ '\n' ∉ singleLine s
      ∧ ((singleLine s).head?.any isBlank = false ∧ (singleLine s).getLast?.any isBlank = false)
      ∧ words (singleLine s) = words s
      ∧ (singleLine s = [] ↔ ∀ c ∈ s, isBlank c = true)
      ∧ singleLine (singleLine s) = singleLine s := by
  have hline : '\n' ∉ singleLine s := newline_notMem_singleLine s
  have htrim : trim (singleLine s) = singleLine s := trim_singleLine s
  have hagain : singleLine (singleLine s) = singleLine s :=
    singleLine_eq_self_iff.2 ⟨hline, htrim⟩
  exact ⟨singleLine_eq_join s, hline, trim_eq_self_iff.1 htrim, words_singleLine s,
    singleLine_eq_nil_iff, hagain⟩

example : singleLine "*\r\n * Doc  block\t\n\n".toList = "* * Doc  block".toList := by
  decide

end Report

end Marginalia
