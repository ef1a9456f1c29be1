/-
What is reported of a script. Once its string literals are emptied the
text is searched twice, line by line for comments that run to the end of
their line, and as a whole for block comments. The first search has a
grammar of its own: a `LineCut` is the text cut into lines, and each line
that has the marks of a line comment cut at the first of them.

The two cuts belong to the same text and know nothing of each other, so
that a stretch of it can lie in a comment of either sort.

# Cleaning

A span of a script is cleaned by its first two characters. They tell the
two sorts apart, since a line comment begins with two slashes and a block
comment cannot; what is taken away from a span is therefore what was put
around its body (`map_strip_js`).
-/
import Mathlib.Data.Set.List
import Marginalia.Proofs.Extract.Stylesheet

namespace Marginalia.Extract

open Text

-- ============================================================== lines

/-- A line, cut where its comment begins if it has one. In a line that has
one no pair of slashes begins before the comment's own. -/
inductive ScriptLine where
  | plain (code : List Char) (oneLine : '\n' ∉ code) (unmarked : ¬ lineOpen <:+: code)
  | marked (code body : List Char) (oneLine : '\n' ∉ code ++ body)
      (first : ¬ lineOpen <:+: code ++ ['/'])

namespace ScriptLine

/-- The line that is cut. -/
def text : ScriptLine → List Char
  | plain code _ _ => code
  | marked code body _ _ => code ++ lineOpen ++ body

/-- What stands in the comment of a line. -/
def body? : ScriptLine → Option (List Char)
  | plain _ _ _ => none
  | marked _ body _ _ => some body

theorem splitFirst_plain {code : List Char} (h : ¬ lineOpen <:+: code) :
    splitFirst lineOpen code = none :=
  splitFirst_eq_none_iff.2 h

theorem splitFirst_marked {code : List Char} (h : ¬ lineOpen <:+: code ++ ['/'])
    (body : List Char) :
    splitFirst lineOpen (code ++ lineOpen ++ body) = some (code, body) :=
  (splitFirst_append_iff (by decide)).2 h

/-- The comment that is found in a line. -/
theorem splitFirst_text (line : ScriptLine) :
    (splitFirst lineOpen line.text).map Prod.snd = line.body? := by
  cases line with
  | plain code _ h => rw [text, splitFirst_plain h]; rfl
  | marked code body _ h => rw [text, splitFirst_marked h]; rfl

theorem newline_notMem_text (line : ScriptLine) : '\n' ∉ line.text := by
  cases line with
  | plain code h _ => exact h
  | marked code body h _ =>
      rw [text, List.mem_append, List.mem_append]
      rw [List.mem_append] at h
      rintro ((hcode | hmarks) | hbody)
      · exact h (Or.inl hcode)
      · exact absurd hmarks (by decide)
      · exact h (Or.inr hbody)

theorem exists_text_eq {s : List Char} (hs : '\n' ∉ s) :
    ∃ line : ScriptLine, line.text = s := by
  cases hcut : splitFirst lineOpen s with
  | none => exact ⟨plain s hs (splitFirst_eq_none_iff.1 hcut), rfl⟩
  | some cut =>
      obtain ⟨code, body⟩ := cut
      obtain ⟨rfl, hfirst⟩ := (splitFirst_eq_some_iff (by decide)).1 hcut
      refine ⟨marked code body (fun h => hs ?_) hfirst, rfl⟩
      rw [List.mem_append] at h
      rw [List.mem_append, List.mem_append]
      rcases h with h | h
      · exact Or.inl (Or.inl h)
      · exact Or.inr h

theorem text_injective : Function.Injective text := by
  intro a b h
  have hcut := congrArg (splitFirst lineOpen) h
  cases a with
  | plain code _ hcode =>
      cases b with
      | plain code' _ _ =>
          rw [text, text] at h
          subst h
          rfl
      | marked code' body' _ hfirst' =>
          rw [text, text, splitFirst_plain hcode, splitFirst_marked hfirst'] at hcut
          cases hcut
  | marked code body _ hfirst =>
      cases b with
      | plain code' _ hcode' =>
          rw [text, text, splitFirst_plain hcode', splitFirst_marked hfirst] at hcut
          cases hcut
      | marked code' body' _ hfirst' =>
          rw [text, text, splitFirst_marked hfirst, splitFirst_marked hfirst'] at hcut
          injection hcut with hcut
          injection hcut with hcode hbody
          subst hcode hbody
          rfl

end ScriptLine

/-- A text cut into its lines. -/
structure LineCut where
  lines : List ScriptLine
  nonempty : lines ≠ []

namespace LineCut

/-- The text that is cut. -/
def text (cut : LineCut) : List Char :=
  ['\n'].intercalate (cut.lines.map ScriptLine.text)

/-- The bodies of the line comments, one for each line that has one. -/
def bodies (cut : LineCut) : List (List Char) :=
  cut.lines.filterMap ScriptLine.body?

theorem splitLines_text (cut : LineCut) :
    splitLines cut.text = cut.lines.map ScriptLine.text := by
  rw [splitLines, splitOnChar_eq_splitOn, text]
  apply List.splitOn_intercalate
  · intro line hline
    obtain ⟨l, -, rfl⟩ := List.mem_map.1 hline
    exact l.newline_notMem_text
  · rw [Ne, List.map_eq_nil_iff]
    exact cut.nonempty

theorem text_surjective : Function.Surjective text := by
  intro s
  have hpieces : splitLines s ∈ Set.range (List.map ScriptLine.text) := by
    rw [Set.range_list_map]
    intro piece hpiece
    exact ScriptLine.exists_text_eq (sep_notMem_of_mem_splitOnChar hpiece)
  obtain ⟨lines, hlines⟩ := hpieces
  rw [splitLines, splitOnChar_eq_splitOn] at hlines
  refine ⟨⟨lines, ?_⟩, ?_⟩
  · rintro rfl
    exact List.splitOn_ne_nil '\n' s hlines.symm
  · rw [text, hlines, List.intercalate_splitOn]

theorem text_injective : Function.Injective text := by
  intro a b h
  have hlines := congrArg splitLines h
  rw [splitLines_text, splitLines_text] at hlines
  cases a with
  | mk lines _ =>
      cases b with
      | mk lines' _ =>
          have hsame : lines = lines' :=
            List.map_injective_iff.2 ScriptLine.text_injective hlines
          subst hsame
          rfl

/-- Every text can be cut into lines and their comments in exactly one
way. -/
theorem text_bijective : Function.Bijective text :=
  ⟨text_injective, text_surjective⟩

end LineCut

/-- The search for line comments finds those of the cut. -/
theorem lineComments_text (cut : LineCut) :
    lineComments cut.text = cut.bodies.map (lineOpen ++ ·) := by
  rw [lineComments, LineCut.splitLines_text, LineCut.bodies, List.filterMap_map,
    List.map_filterMap]
  congr 1
  funext line
  rw [← ScriptLine.splitFirst_text, Option.map_map]
  rfl

-- one stretch of text can lie in a comment of either sort
example : jsComments "a /// b\n/*/ c // d */".toList
    = ["/// b".toList, "// d */".toList, "/*/ c // d */".toList] := by cbv

-- ============================================================ cleaning

/-- Cleaning a line comment leaves its trimmed body. -/
theorem stripScript_line (body : List Char) : stripScript (lineOpen ++ body) = trim body := by
  rw [stripScript, dropHead?_append]

/-- A block comment is not taken for a line comment. -/
theorem not_lineOpen_prefix_blockAround (body : List Char) :
    ¬ lineOpen <+: blockAround body := by
  rintro ⟨rest, hrest⟩
  injection hrest with _ hrest
  injection hrest with hmark _
  exact absurd hmark (by decide)

theorem stripScript_blockAround (body : List Char) :
    stripScript (blockAround body) = trim body := by
  have hother : dropHead? lineOpen (blockAround body) = none :=
    dropHead?_eq_none_iff.2 (not_lineOpen_prefix_blockAround body)
  rw [stripScript, hother]
  exact stripBlock_blockAround body

theorem map_strip_js (lines blocks : List (List Char)) :
    (lines.map (lineOpen ++ ·) ++ blocks.map blockAround).map (strip .js)
      = (lines ++ blocks).map trim := by
  have hlines : (lines.map (lineOpen ++ ·)).map (strip .js) = lines.map trim := by
    rw [List.map_map]
    exact List.map_congr_left fun body _ => stripScript_line body
  have hblocks : (blocks.map blockAround).map (strip .js) = blocks.map trim := by
    rw [List.map_map]
    exact List.map_congr_left fun body _ => stripScript_blockAround body
  rw [List.map_append, hlines, hblocks, List.map_append]

-- ============================================================= scripts

/-- A script whose literals are emptied can be cut in one way only into
lines with their comments, and in one way only into block comments and
gaps. Its spans are the comments of the first cut and then those of the
second, and what is reported of it are their bodies. -/
theorem script_comments_exact (source origin : String) :
    ∃ (lines : LineCut) (blocks : BlockCut),
      (∀ other : LineCut, other.text = elideStrings source.toList ↔ other = lines)
      ∧ (∀ other : BlockCut, other.text = elideStrings source.toList ↔ other = blocks)
      ∧ Span.ofText .js source origin
          = (lines.bodies.map (lineOpen ++ ·) ++ blocks.bodies.map blockAround).map
              (fun raw => ⟨.js, String.ofList raw, origin⟩)
      ∧ ofText .js source origin = reported .js origin (lines.bodies ++ blocks.bodies) := by
  obtain ⟨lines, hlines⟩ := LineCut.text_bijective.surjective (elideStrings source.toList)
  obtain ⟨blocks, hblocks⟩ := BlockCut.text_bijective.surjective (elideStrings source.toList)
  have hcomments : jsComments source.toList
      = lines.bodies.map (lineOpen ++ ·) ++ blocks.bodies.map blockAround := by
    rw [jsComments, ← lineComments_text lines, hlines, cssComments,
      ← blockBodies_text blocks, hblocks]
  have hspans : Span.ofText .js source origin
      = (lines.bodies.map (lineOpen ++ ·) ++ blocks.bodies.map blockAround).map
          fun raw => ⟨.js, String.ofList raw, origin⟩ := by
    rw [Span.ofText, hcomments]
  refine ⟨lines, blocks, fun other => ?_, fun other => ?_, hspans, ?_⟩
  · rw [← hlines]
    exact LineCut.text_bijective.injective.eq_iff
  · rw [← hblocks]
    exact BlockCut.text_bijective.injective.eq_iff
  · rw [ofText, hspans]
    exact retain_spans origin (map_strip_js lines.bodies blocks.bodies)

end Marginalia.Extract
