/-
Evidence and what stands around it. The signals of the stylesheet policy
look at no more than the lines they are in, but for the one that wants the
start of the text; so a text among other lines keeps all of its signals
except that one, and keeps that one too where only white space comes before.
With the signals it keeps the verdict, since lines around a text do not make
it shorter.
-/
import Mathlib.Data.List.Perm.Subperm
import Marginalia.Proofs.Classify.Verdict
import Marginalia.Proofs.Pattern.Context

namespace Marginalia.Css

open Pattern

variable {pre s post : List Char} {g : PatternGroup}

-- =========================================================== signals

/-- All signals but one are patterns for lines. -/
theorem lineAnchored_of_mem_signals (hg : g ∈ signals) (hname : g.name ≠ "at-rule") :
    ∀ p ∈ g.patterns, p.LineAnchored := by
  have hall : ∀ g ∈ signals, g.name ≠ "at-rule" → ∀ p ∈ g.patterns, p.LineAnchored := by
    decide +kernel
  exact hall g hg hname

/-- The signal that is left has one pattern, for the start of the text. -/
theorem eq_atRule_of_name (hg : g ∈ signals) (hname : g.name = "at-rule") :
    g = ⟨"at-rule", [atRule]⟩ := by
  have hrow : (⟨"at-rule", [atRule]⟩ : PatternGroup) ∈ signals :=
    List.mem_of_getElem? (i := 2) rfl
  exact eq_of_name_eq hg hrow hname

/-- A signal is there among other lines. -/
theorem fits_among_lines (hg : g ∈ signals) (hname : g.name ≠ "at-rule") (h : g.Fits s) :
    g.Fits ((pre ++ ['\n']) ++ s ++ '\n' :: post) := by
  obtain ⟨p, hp, hoccurs⟩ := h
  exact ⟨p, hp, hoccurs.among_lines (lineAnchored_of_mem_signals hg hname p hp) pre post⟩

/-- Every signal is there after white space. -/
theorem fits_after_blanks (hg : g ∈ signals) (hpre : ∀ c ∈ pre, Text.isBlank c = true)
    (h : g.Fits s) : g.Fits ((pre ++ ['\n']) ++ s ++ '\n' :: post) := by
  by_cases hname : g.name = "at-rule"
  · obtain rfl := eq_atRule_of_name hg hname
    obtain ⟨p, hp, hoccurs⟩ := h
    obtain rfl := List.mem_singleton.1 hp
    refine ⟨atRule, hp, occurs_after_blanks (fun x hx => nomatch hx) ?_ hoccurs⟩
    intro c hc
    rcases List.mem_append.1 hc with hc | hc
    · exact hpre c hc
    · rw [List.mem_singleton.1 hc]
      decide
  · exact fits_among_lines hg hname h

-- =========================================================== verdicts

/-- A text with two signals that is not shorter than another with its
verdict. -/
theorem exists_discard_of_subset {t u : List Char} {names : List String}
    (hcode : ∃ found, classify t = .discard found) (hlength : t.length ≤ u.length)
    (hnames : 2 ≤ names.length) (hnodup : names.Nodup)
    (hsubset : names ⊆ matchingSignals u) : ∃ found, classify u = .discard found := by
  obtain ⟨hlong, -⟩ := (exists_discard_iff t).1 hcode
  have hmore : names.length ≤ (matchingSignals u).length :=
    (List.subperm_of_subset hnodup hsubset).length_le
  rw [length_matchingSignals] at hmore
  exact (exists_discard_iff u).2 ⟨by omega, by omega⟩

-- =============================================================== main

/-- Among other lines a text keeps its signals, but for the one that wants
the start of the text, which it keeps after white space. So it stays
discarded if only white space comes before it, or if it has two signals
apart from that one. -/
theorem signals_among_lines (pre t post : String) :
    (∀ name ∈ matchingSignals t.toList,
        name ≠ "at-rule" ∨ (∀ c ∈ pre.toList, Text.isBlank c = true) →
        name ∈ matchingSignals (pre ++ "\n" ++ t ++ "\n" ++ post).toList)
      ∧ ((∃ found, Marginalia.classify .css t = .discard found) →
          (∀ c ∈ pre.toList, Text.isBlank c = true)
            ∨ 2 ≤ ((matchingSignals t.toList).filter (· ≠ "at-rule")).length →
          ∃ found,
            Marginalia.classify .css (pre ++ "\n" ++ t ++ "\n" ++ post) = .discard found) := by
  have htext : (pre ++ "\n" ++ t ++ "\n" ++ post).toList
      = (pre.toList ++ ['\n']) ++ t.toList ++ '\n' :: post.toList := by
    simp
  have hkept : ∀ name ∈ matchingSignals t.toList,
      name ≠ "at-rule" ∨ (∀ c ∈ pre.toList, Text.isBlank c = true) →
      name ∈ matchingSignals (pre ++ "\n" ++ t ++ "\n" ++ post).toList := by
    intro name hname hwhere
    obtain ⟨g, hg, hfits, rfl⟩ := mem_matchingSignals_iff.1 hname
    rw [htext, mem_matchingSignals_iff]
    rcases hwhere with hother | hblank
    · exact ⟨g, hg, fits_among_lines hg hother hfits, rfl⟩
    · exact ⟨g, hg, fits_after_blanks hg hblank hfits, rfl⟩
  refine ⟨hkept, fun hcode hwhere => ?_⟩
  have hlength : t.toList.length ≤ (pre ++ "\n" ++ t ++ "\n" ++ post).toList.length := by
    rw [htext]
    simp only [List.length_append]
    omega
  have htwo : 2 ≤ (matchingSignals t.toList).length := by
    rw [length_matchingSignals]
    exact ((exists_discard_iff t.toList).1 hcode).2
  rcases hwhere with hblank | hothers
  · exact exists_discard_of_subset hcode hlength htwo (nodup_matchingSignals _)
      fun name hname => hkept name hname (Or.inr hblank)
  · refine exists_discard_of_subset hcode hlength hothers
      ((nodup_matchingSignals _).filter _) fun name hname => ?_
    obtain ⟨hmatch, hother⟩ := List.mem_filter.1 hname
    exact hkept name hmatch (Or.inl (of_decide_eq_true hother))

/-- An at-rule with its body after a blank line, and a rule in the middle
of a note. -/
theorem signals_among_lines_rule :
    let atRule := "@media screen \x7b\n  .nav \x7b display: none; \x7d\n\x7d"
    let rule := ".hero \x7b\n  opacity: 0.5;\n\x7d"
    (∀ c ∈ "  ".toList, Text.isBlank c = true)
      ∧ "at-rule" ∈ matchingSignals ("  " ++ "\n" ++ atRule ++ "\n" ++ "End.").toList
      ∧ 2 ≤ ((matchingSignals rule.toList).filter (· ≠ "at-rule")).length
      ∧ ∃ found, Marginalia.classify .css ("Was:" ++ "\n" ++ rule ++ "\n" ++ "Why?")
          = .discard found := by
  intro atRule rule
  have hblank : ∀ c ∈ "  ".toList, Text.isBlank c = true :=
    List.all_eq_true.1 (by decide)
  have hname : "at-rule" ∈ matchingSignals atRule.toList := by decide +kernel
  have hcode : ∃ found, Marginalia.classify .css rule = .discard found :=
    (exists_discard_iff rule.toList).2 (by decide +kernel)
  have htwo : 2 ≤ ((matchingSignals rule.toList).filter (· ≠ "at-rule")).length := by
    decide +kernel
  exact ⟨hblank, (signals_among_lines "  " atRule "End.").1 _ hname (Or.inr hblank), htwo,
    (signals_among_lines "Was:" rule "Why?").2 hcode (Or.inr htwo)⟩

end Marginalia.Css
