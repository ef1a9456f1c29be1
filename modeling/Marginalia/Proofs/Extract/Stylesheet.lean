/-
What is reported of a stylesheet. Cleaning undoes the delimiters: of a
span it leaves the trimmed body, whatever the body holds, since the marks
that are taken away are the ones that were put around it
(`stripBlock_blockAround`). Judging then leaves out empty texts and code.
`retain_spans` is that step for spans of any kind, and with the grammar
of Block.lean it gives the comments of a stylesheet exactly.
-/
import Marginalia.Extract
import Marginalia.Proofs.Extract.Block

namespace Marginalia.Extract

open Text

-- ========================================================== cleaning

/-- Cleaning a block comment leaves its trimmed body. -/
theorem stripBlock_blockAround (body : List Char) :
    stripBlock (blockAround body) = trim body := by
  have hopened : dropHead? blockOpen (blockAround body) = some (body ++ blockClose) := by
    rw [blockAround, List.append_assoc, dropHead?_append]
  rw [stripBlock, hopened]
  show trim ((dropTail? blockClose (body ++ blockClose)).getD (body ++ blockClose)) = _
  rw [dropTail?_append, Option.getD_some]

-- =========================================================== judging

/-- The comments with the given bodies: a body is trimmed and reported
unless nothing is left of it or it is judged to be code. -/
def reported (kind : Kind) (origin : String) (bodies : List (List Char)) : List Comment :=
  ((bodies.map trim).filter fun text =>
      !text.isEmpty && (classify kind (String.ofList text)).isKeep).map
    fun text => ⟨kind, String.ofList text, origin⟩

variable {kind : Kind} {raw text : List Char}

theorem clean?_of_nil (origin : String) (h : strip kind raw = []) :
    Span.clean? ⟨kind, String.ofList raw, origin⟩ = none := by
  simp only [Span.clean?, String.toList_ofList, h]

theorem clean?_of_ne_nil (origin : String) (h : strip kind raw = text)
    (hne : text.isEmpty = false) :
    Span.clean? ⟨kind, String.ofList raw, origin⟩
      = some ⟨kind, String.ofList text, origin⟩ := by
  cases text with
  | nil => cases hne
  | cons c text => simp only [Span.clean?, String.toList_ofList, h]

/-- Cleaning leaves the texts of which something is left. -/
theorem filterMap_clean? (kind : Kind) (origin : String) (raws : List (List Char)) :
    (raws.map fun raw => (⟨kind, String.ofList raw, origin⟩ : Span)).filterMap Span.clean?
      = ((raws.map (strip kind)).filter fun text => !text.isEmpty).map
          fun text => ⟨kind, String.ofList text, origin⟩ := by
  induction raws with
  | nil => rfl
  | cons raw raws ih =>
      rw [List.map_cons, List.map_cons]
      cases hempty : (strip kind raw).isEmpty with
      | true =>
          have hnone := clean?_of_nil origin (List.isEmpty_iff.1 hempty)
          rw [List.filterMap_cons_none hnone, List.filter_cons_of_neg (by simp [hempty]), ih]
      | false =>
          have hsome := clean?_of_ne_nil origin rfl hempty
          rw [List.filterMap_cons_some hsome, List.filter_cons_of_pos (by simp [hempty]),
            List.map_cons, ih]

/-- Spans that clean to trimmed bodies are reported as these bodies. -/
theorem retain_spans (origin : String) {raws bodies : List (List Char)}
    (hclean : raws.map (strip kind) = bodies.map trim) :
    retain (raws.map fun raw => ⟨kind, String.ofList raw, origin⟩)
      = reported kind origin bodies := by
  rw [retain, filterMap_clean?, hclean, List.filter_map, List.filter_filter, reported]
  congr 2
  funext text
  exact Bool.and_comm _ _

-- ======================================================= stylesheets

theorem map_strip_css (bodies : List (List Char)) :
    (bodies.map blockAround).map (strip .css) = bodies.map trim := by
  rw [List.map_map]
  exact List.map_congr_left fun body _ => stripBlock_blockAround body

/-- A stylesheet can be cut into comments and gaps in one way only. Its
spans are the comments of that cut, and what is reported of it are their
bodies. -/
theorem stylesheet_comments_exact (text origin : String) :
    ∃ cut : BlockCut, (∀ other : BlockCut, other.text = text.toList ↔ other = cut)
      ∧ Span.ofText .css text origin
          = cut.bodies.map (fun body => ⟨.css, String.ofList (blockAround body), origin⟩)
      ∧ ofText .css text origin = reported .css origin cut.bodies := by
  obtain ⟨cut, hcut⟩ := BlockCut.text_bijective.surjective text.toList
  have hspans : Span.ofText .css text origin
      = (cut.bodies.map blockAround).map fun raw => ⟨.css, String.ofList raw, origin⟩ := by
    rw [Span.ofText, cssComments, ← hcut, blockBodies_text]
  refine ⟨cut, fun other => ?_, ?_, ?_⟩
  · rw [← hcut]
    exact BlockCut.text_bijective.injective.eq_iff
  · rw [hspans, List.map_map]
    rfl
  · rw [ofText, hspans]
    exact retain_spans origin (map_strip_css cut.bodies)

end Marginalia.Extract
