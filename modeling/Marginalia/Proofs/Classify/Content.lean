/-
Evidence in the content of a script comment. Of the four groups two have no
anchors, the one for markup and the one for stylesheet syntax; what they find
in a text they find in every longer one. The length is monotone too, and so
is the one condition under which patterns are tried at all: that the text has
a character which is in no plain words. A text that is discarded for one of
these reasons is therefore discarded for the same reason whatever is written
around it.

The other two groups look for the start or the end of the text in most of
their patterns, and what they find can be hidden by a single word.
-/
import Marginalia.Proofs.Classify.Verdict
import Marginalia.Proofs.Pattern.Context

namespace Marginalia.Js

open Pattern

variable {pre s post : List Char} {g : PatternGroup} {name : String}

/-- The evidence that does not depend on where in a text it is found. -/
def contentEvidence : List String :=
  [markup.name, cssLeak.name, lengthCeiling]

-- =========================================================== evidence

theorem mem_evidence_iff :
    name ∈ evidence s
      ↔ (∃ g ∈ groups, g.Fits s ∧ g.name = name)
        ∨ (500 < s.length ∧ name = lengthCeiling) := by
  rw [evidence_eq, List.mem_append, PatternGroup.fitting, List.mem_map]
  simp only [List.mem_filter, decide_eq_true_iff, and_assoc]
  apply or_congr_right
  by_cases hlong : 500 < s.length
  · simp [hlong]
  · simp [hlong]

/-- The groups of patterns among it have no anchors. -/
theorem unanchored_of_mem_groups (hg : g ∈ groups) (hname : g.name ∈ contentEvidence) :
    ∀ p ∈ g.patterns, p.Unanchored := by
  have hall : ∀ g ∈ groups, g.name ∈ contentEvidence →
      ∀ p ∈ g.patterns, p.Unanchored := by
    decide +kernel
  exact hall g hg hname

theorem fits_embedded (hg : g ∈ groups) (hname : g.name ∈ contentEvidence)
    (h : g.Fits s) : g.Fits (pre ++ s ++ post) := by
  obtain ⟨p, hp, hoccurs⟩ := h
  exact ⟨p, hp, hoccurs.embedded (unanchored_of_mem_groups hg hname p hp) pre post⟩

theorem length_le_embedded (pre s post : List Char) :
    s.length ≤ (pre ++ s ++ post).length := by
  simp only [List.length_append]
  omega

theorem mem_evidence_embedded (hname : name ∈ contentEvidence) (h : name ∈ evidence s) :
    name ∈ evidence (pre ++ s ++ post) := by
  rw [mem_evidence_iff] at h ⊢
  rcases h with ⟨g, hg, hfits, rfl⟩ | ⟨hlong, hceiling⟩
  · exact Or.inl ⟨g, hg, fits_embedded hg hname hfits, rfl⟩
  · have := length_le_embedded pre s post
    exact Or.inr ⟨by omega, hceiling⟩

-- =========================================================== verdicts

/-- What is not plain words does not become so in a longer text. -/
theorem Coded.embedded (h : Coded s) : Coded (pre ++ s ++ post) := by
  obtain ⟨c, hc, hcoded⟩ := h
  exact ⟨c, List.mem_append_left _ (List.mem_append_right _ hc), hcoded⟩

/-- A text is discarded with all of its evidence, if it has any and is
neither short nor plain words. -/
theorem classify_eq_discard_iff {found : List String} :
    classify s = .discard found
      ↔ 3 ≤ s.length ∧ Coded s ∧ found ≠ [] ∧ found = evidence s := by
  rw [classify_eq, ← and_assoc]
  by_cases hjudged : 3 ≤ s.length ∧ Coded s
  · rw [if_pos hjudged, and_iff_right hjudged]
    by_cases hnone : evidence s = []
    · rw [if_pos hnone, hnone]
      simp
    · rw [if_neg hnone, Verdict.discard.injEq]
      constructor
      · rintro rfl
        exact ⟨hnone, rfl⟩
      · rintro ⟨-, hfound⟩
        exact hfound.symm
  · rw [if_neg hjudged]
    apply iff_of_false
    · split
      · exact Verdict.noConfusion
      · exact Verdict.noConfusion
    · rintro ⟨hboth, -⟩
      exact hjudged hboth

-- =============================================================== main

/-- A text that is discarded is neither short nor plain words once something
is written around it, and it is discarded again for every reason that is in
its content. -/
theorem content_evidence_kept (pre t post : String) {found : List String}
    (hcode : Marginalia.classify .js t = .discard found) :
    let whole := pre ++ t ++ post
    minLength ≤ whole.toList.length
      ∧ isNaturalLanguage whole.toList = false
      ∧ ∀ name ∈ found, name ∈ contentEvidence →
          ∃ more, Marginalia.classify .js whole = .discard more ∧ name ∈ more := by
  intro whole
  have hwhole : whole.toList = pre.toList ++ t.toList ++ post.toList := by
    simp [whole]
  obtain ⟨hlong, hcoded, -, hfound⟩ := classify_eq_discard_iff.1 hcode
  have hlength : 3 ≤ whole.toList.length := by
    rw [hwhole]
    exact hlong.trans (length_le_embedded _ _ _)
  have hcodedWhole : Coded whole.toList := by
    rw [hwhole]
    exact hcoded.embedded
  refine ⟨hlength, ?_, fun name hname hcontent => ?_⟩
  · rw [Bool.eq_false_iff, Ne, isNaturalLanguage_iff]
    rintro ⟨-, hplain⟩
    exact hplain hcodedWhole
  · have hmore : name ∈ evidence whole.toList := by
      rw [hwhole]
      rw [hfound] at hname
      exact mem_evidence_embedded hcontent hname
    exact ⟨_, classify_eq_discard_iff.2
      ⟨hlength, hcodedWhole, List.ne_nil_of_mem hmore, rfl⟩, hmore⟩

/-- Letters alone can be evidence, but only in a text that has more than
letters; words around it do not make it plain again. -/
theorem content_evidence_kept_unit :
    let t := "blur 4px"
    let whole := "Reset the " ++ t ++ " before the launch please"
    Marginalia.classify .js t = .discard ["css-leak"]
      ∧ "css-leak" ∈ contentEvidence
      ∧ isNaturalLanguage whole.toList = false
      ∧ ∃ more, Marginalia.classify .js whole = .discard more ∧ "css-leak" ∈ more := by
  intro t whole
  have hcode : Marginalia.classify .js t = .discard ["css-leak"] := by decide +kernel
  have hcontent : "css-leak" ∈ contentEvidence := by decide
  obtain ⟨-, hcoded, hkept⟩ := content_evidence_kept "Reset the " t
    " before the launch please" hcode
  exact ⟨hcode, hcontent, hcoded, hkept _ List.mem_cons_self hcontent⟩

-- a call is told by where it stands, and a word in front hides it
example : classify "init (7)".toList = .discard ["code-syntax"]
    ∧ classify "see init (7)".toList = .keep .noEvidence := by decide +kernel

end Marginalia.Js
