/-
What a comment looks like once it is reported. Cleaning trims as its last
step and drops what has become empty, and judging only leaves out, so that
the text of a comment is trimmed, not empty and kept (`Cleaned`).

# Marks

Which marks cannot stand in a text is a matter of where its span was cut
(`Unmarked`). A block comment ends at the first closer, a line comment
within its line, and the marks around a body are the only ones that
cleaning takes away; so what the body did not hold, the text does not hold
either. For a document it is the cleaning itself that cuts, at the first
opener that is left. A script's comment is free of one of two marks only,
since its text does not tell which sort of comment it was.
-/
import Marginalia.Proofs.Extract.Kinds
import Marginalia.Proofs.Extract.Script
import Marginalia.Proofs.Text.Trim

namespace Marginalia.Extract

open Text

/-- What cannot stand in the text of a comment of a kind. -/
def Unmarked : Kind → List Char → Prop
  | .html, text => ¬ markupOpen <:+: text
  | .css, text => ¬ blockClose <:+: text
  | .js, text => '\n' ∉ text ∨ ¬ blockClose <:+: text

/-- What cleaning and judging leave of a comment. -/
structure Cleaned (c : Comment) : Prop where
  nonempty : c.text ≠ ""
  trimmed : trim c.text.toList = c.text.toList
  kept : (classify c.kind c.text).isKeep = true
  unmarked : Unmarked c.kind c.text.toList

-- ========================================================= one span

theorem clean?_eq_some_iff {s : Span} {c : Comment} :
    s.clean? = some c
      ↔ c.text ≠ "" ∧ c.kind = s.kind ∧ c.text.toList = strip s.kind s.raw.toList
        ∧ c.origin = s.origin := by
  obtain ⟨kind, text, origin⟩ := c
  unfold Span.clean?
  split
  · next hnil =>
    rw [hnil, String.toList_eq_nil_iff]
    constructor
    · intro h
      cases h
    · rintro ⟨hne, -, htext, -⟩
      exact absurd htext hne
  · next hne =>
    rw [Option.some.injEq, Comment.mk.injEq]
    constructor
    · rintro ⟨rfl, rfl, rfl⟩
      refine ⟨?_, rfl, String.toList_ofList, rfl⟩
      rw [Ne, ← String.toList_eq_nil_iff, String.toList_ofList]
      exact hne
    · rintro ⟨-, hkind, htext, horigin⟩
      refine ⟨hkind.symm, ?_, horigin.symm⟩
      rw [← htext, String.ofList_toList]

theorem mem_retain_iff {spans : List Span} {c : Comment} :
    c ∈ retain spans
      ↔ (∃ s ∈ spans, s.clean? = some c) ∧ (classify c.kind c.text).isKeep = true := by
  rw [retain, List.mem_filter, List.mem_filterMap]

/-- Whatever its value, a document comment is cut before an opener. -/
theorem exists_stripMarkup_eq_trim (raw : List Char) :
    ∃ t, stripMarkup raw = trim t ∧ ¬ markupOpen <:+: t := by
  rw [stripMarkup]
  split
  · next head tail hcut =>
    obtain ⟨-, hfirst⟩ := (splitFirst_eq_some_iff (by decide)).1 hcut
    refine ⟨head, rfl, fun h => hfirst ?_⟩
    exact h.trans (List.prefix_append head markupOpen.dropLast).isInfix
  · next hnone => exact ⟨_, rfl, splitFirst_eq_none_iff.1 hnone⟩

/-- Cleaning ends with a trim. -/
theorem exists_strip_eq_trim (kind : Kind) (raw : List Char) :
    ∃ t, strip kind raw = trim t := by
  cases kind with
  | html =>
      obtain ⟨t, ht, -⟩ := exists_stripMarkup_eq_trim raw
      exact ⟨t, ht⟩
  | css => exact ⟨_, rfl⟩
  | js =>
      show ∃ t, stripScript raw = trim t
      rw [stripScript]
      split
      · exact ⟨_, rfl⟩
      · exact ⟨_, rfl⟩

theorem trim_strip (kind : Kind) (raw : List Char) :
    trim (strip kind raw) = strip kind raw := by
  obtain ⟨t, ht⟩ := exists_strip_eq_trim kind raw
  rw [ht, trim_trim]

/-- Comments are cleaned where the spans are cut without inner marks. -/
theorem cleaned_of_mem_retain {spans : List Span} {c : Comment}
    (hspans : ∀ s ∈ spans, Unmarked s.kind (strip s.kind s.raw.toList))
    (hc : c ∈ retain spans) : Cleaned c := by
  obtain ⟨⟨s, hs, hclean⟩, hkeep⟩ := mem_retain_iff.1 hc
  obtain ⟨hne, hkind, htext, -⟩ := clean?_eq_some_iff.1 hclean
  have hunmarked := hspans s hs
  rw [← htext, ← hkind] at hunmarked
  refine ⟨hne, ?_, hkeep, hunmarked⟩
  rw [htext, trim_strip]

-- ============================================================ marks

theorem unmarked_strip_html (raw : List Char) : ¬ markupOpen <:+: stripMarkup raw := by
  obtain ⟨t, ht, hfree⟩ := exists_stripMarkup_eq_trim raw
  rw [ht]
  intro hopen
  exact hfree (hopen.trans (trim_isInfix t))

/-- The body of a block comment ends before a closer. -/
theorem exists_body_of_mem_cssComments {s raw : List Char} (h : raw ∈ cssComments s) :
    ∃ body, raw = blockAround body ∧ ¬ blockClose <:+: body := by
  obtain ⟨body, hbody, rfl⟩ := List.mem_map.1 h
  refine ⟨body, rfl, ?_⟩
  clear h
  induction s using block_induction with
  | last gap hnone =>
      rw [blockBodies_of_noBlock hnone] at hbody
      cases hbody
  | comment gap first rest hgap hfirst ih =>
      rw [blockBodies_comment hgap hfirst] at hbody
      rcases List.mem_cons.1 hbody with rfl | hbody
      · exact hfirst
      · exact ih hbody

/-- The body of a line comment ends with its line. -/
theorem exists_body_of_mem_lineComments {s raw : List Char} (h : raw ∈ lineComments s) :
    ∃ body, raw = lineOpen ++ body ∧ '\n' ∉ body := by
  obtain ⟨line, hline, hraw⟩ := List.mem_filterMap.1 h
  obtain ⟨⟨code, body⟩, hcut, rfl⟩ := Option.map_eq_some_iff.1 hraw
  refine ⟨body, rfl, fun hbody => ?_⟩
  have hnewline := sep_notMem_of_mem_splitOnChar hline
  rw [eq_of_splitFirst hcut] at hnewline
  exact hnewline (List.mem_append_right _ hbody)

theorem unmarked_strip_css {s raw : List Char} (h : raw ∈ cssComments s) :
    ¬ blockClose <:+: stripBlock raw := by
  obtain ⟨body, rfl, hbody⟩ := exists_body_of_mem_cssComments h
  rw [stripBlock_blockAround]
  intro hclose
  exact hbody (hclose.trans (trim_isInfix body))

theorem unmarked_strip_js {s raw : List Char} (h : raw ∈ lineComments s ++ cssComments s) :
    '\n' ∉ stripScript raw ∨ ¬ blockClose <:+: stripScript raw := by
  rcases List.mem_append.1 h with h | h
  · obtain ⟨body, rfl, hbody⟩ := exists_body_of_mem_lineComments h
    rw [stripScript_line]
    exact Or.inl fun hnewline => hbody ((trim_isInfix body).subset hnewline)
  · obtain ⟨body, rfl, hbody⟩ := exists_body_of_mem_cssComments h
    rw [stripScript_blockAround]
    exact Or.inr fun hclose => hbody (hclose.trans (trim_isInfix body))

-- ======================================================== resources

variable {nodes : List String} {kind : Kind} {text origin : String} {c : Comment}

theorem unmarked_of_mem_spans_ofNodes {s : Span} (h : s ∈ Span.ofNodes nodes origin) :
    Unmarked s.kind (strip s.kind s.raw.toList) := by
  obtain ⟨raw, -, rfl⟩ := List.mem_map.1 h
  exact unmarked_strip_html _

theorem cleaned_of_mem_ofNodes (hc : c ∈ ofNodes nodes origin) : Cleaned c :=
  cleaned_of_mem_retain (fun _ => unmarked_of_mem_spans_ofNodes) hc

theorem cleaned_of_mem_ofText (hc : c ∈ ofText kind text origin) : Cleaned c := by
  refine cleaned_of_mem_retain (fun s hs => ?_) hc
  cases kind with
  | html => exact unmarked_of_mem_spans_ofNodes hs
  | css =>
      obtain ⟨raw, hraw, rfl⟩ := List.mem_map.1 hs
      show ¬ blockClose <:+: stripBlock (String.ofList raw).toList
      rw [String.toList_ofList]
      exact unmarked_strip_css hraw
  | js =>
      obtain ⟨raw, hraw, rfl⟩ := List.mem_map.1 hs
      show '\n' ∉ stripScript (String.ofList raw).toList
        ∨ ¬ blockClose <:+: stripScript (String.ofList raw).toList
      rw [String.toList_ofList]
      exact unmarked_strip_js hraw

theorem origin_of_mem_retain {spans : List Span} (hspans : ∀ s ∈ spans, s.origin = origin)
    (hc : c ∈ retain spans) : c.origin = origin := by
  obtain ⟨⟨s, hs, hclean⟩, -⟩ := mem_retain_iff.1 hc
  obtain ⟨-, -, -, horigin⟩ := clean?_eq_some_iff.1 hclean
  rw [horigin, hspans s hs]

theorem origin_of_mem_ofNodes (hc : c ∈ ofNodes nodes origin) : c.origin = origin :=
  origin_of_mem_retain (List.forall_mem_map.2 fun _ _ => rfl) hc

theorem origin_of_mem_ofText (hc : c ∈ ofText kind text origin) : c.origin = origin := by
  cases kind with
  | html => exact origin_of_mem_ofNodes hc
  | css => exact origin_of_mem_retain (List.forall_mem_map.2 fun _ _ => rfl) hc
  | js => exact origin_of_mem_retain (List.forall_mem_map.2 fun _ _ => rfl) hc

end Marginalia.Extract
