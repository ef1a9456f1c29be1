/-
When a text is judged to be code. Both policies count the groups of
patterns that fit a text, one to two and the other to one, and both first
let some texts pass unread: those below a length, and plain words in a
script. The statements here name the exact condition of each outcome and
the evidence that goes with it, with `PatternGroup.Fits` for a group that
has an occurrence in the text (Matching.lean).

Evidence is always the list of the names of the groups that fit, in the
order in which the groups are declared. The names of the groups of one
policy are different, so nothing is listed twice.
-/
import Mathlib.Data.List.Nodup
import Marginalia.Classify
import Marginalia.Proofs.Pattern.Matching

namespace Marginalia

-- ======================================================== groups

namespace PatternGroup

/-- A pattern of the group occurs in the text. -/
def Fits (g : PatternGroup) (s : List Char) : Prop :=
  ∃ p ∈ g.patterns, p.Occurs s

theorem matchesText_iff (g : PatternGroup) (s : List Char) :
    g.matchesText s = true ↔ g.Fits s := by
  rw [matchesText, List.any_eq_true]
  simp only [Pattern.occursIn_iff, Fits]

instance (g : PatternGroup) (s : List Char) : Decidable (g.Fits s) :=
  decidable_of_iff _ (matchesText_iff g s)

variable (groups : List PatternGroup) (s : List Char)

/-- The names of the groups that fit a text, in order. -/
def fitting : List String :=
  (groups.filter fun g => g.Fits s).map name

theorem matching_eq_fitting : matching groups s = fitting groups s := by
  have hsame : ∀ g ∈ groups, g.matchesText s = decide (g.Fits s) := by
    intro g _
    rw [Bool.eq_iff_iff, matchesText_iff, decide_eq_true_iff]
  rw [matching, fitting, List.filter_congr hsame]

theorem length_fitting : (fitting groups s).length = groups.countP fun g => g.Fits s := by
  rw [fitting, List.length_map, List.countP_eq_length_filter]

theorem fitting_eq_nil_iff : fitting groups s = [] ↔ ¬ ∃ g ∈ groups, g.Fits s := by
  rw [fitting, List.map_eq_nil_iff, List.filter_eq_nil_iff]
  simp only [decide_eq_true_iff, not_exists, not_and]

/-- The names come in the order of the groups. -/
theorem sublist_fitting : (fitting groups s).Sublist (groups.map name) :=
  List.filter_sublist.map name

end PatternGroup

open PatternGroup (fitting)

-- =================================================== stylesheets

namespace Css

variable (s : List Char)

theorem classify_eq :
    classify s
      = if s.length < 10 then .keep .belowLengthFloor
        else if 2 ≤ (fitting signals s).length then .discard (fitting signals s)
        else if fitting signals s = [] then .keep .noEvidence
        else .keep (.insufficientEvidence (fitting signals s)) := by
  unfold classify matchingSignals
  simp only [PatternGroup.matching_eq_fitting, minLength, minSignals, List.isEmpty_iff]

theorem classify_of_short (h : ¬ 10 ≤ s.length) :
    classify s = .keep .belowLengthFloor := by
  rw [classify_eq, if_pos (by omega)]

/-- Code is what is not short and has two signals. -/
theorem exists_discard_iff :
    (∃ found, classify s = .discard found)
      ↔ 10 ≤ s.length ∧ 2 ≤ signals.countP fun g => g.Fits s := by
  rw [← PatternGroup.length_fitting]
  by_cases hlong : 10 ≤ s.length
  · rw [classify_eq, if_neg (by omega)]
    split
    · next htwo => simp [hlong, htwo]
    · next hfew =>
      split
      · simp [hfew]
      · simp [hfew]
  · simp [classify_of_short s hlong, hlong]

/-- A single signal is noted and not enough. -/
theorem exists_insufficient_iff :
    (∃ found, classify s = .keep (.insufficientEvidence found))
      ↔ 10 ≤ s.length ∧ (signals.countP fun g => g.Fits s) = 1 := by
  rw [← PatternGroup.length_fitting]
  by_cases hlong : 10 ≤ s.length
  · rw [classify_eq, if_neg (by omega)]
    split
    · next htwo =>
      have hone : (fitting signals s).length ≠ 1 := by omega
      simp [hone]
    · next hfew =>
      split
      · next hnone => simp [hnone]
      · next hsome =>
        have hone : (fitting signals s).length = 1 := by
          have := List.length_pos_iff.2 hsome
          omega
        simp [hlong, hone]
  · simp [classify_of_short s hlong, hlong]

theorem evidence_classify :
    (classify s).evidence = if 10 ≤ s.length then fitting signals s else [] := by
  by_cases hlong : 10 ≤ s.length
  · rw [classify_eq, if_neg (by omega), if_pos hlong]
    split
    · rfl
    · split
      · next hnone => rw [hnone]; rfl
      · rfl
  · rw [classify_of_short s hlong, if_neg hlong]
    rfl

theorem classify_ne_discard_nil : classify s ≠ .discard [] := by
  intro h
  obtain ⟨hlong, htwo⟩ := (exists_discard_iff s).1 ⟨[], h⟩
  have hevidence := evidence_classify s
  rw [h, if_pos hlong] at hevidence
  rw [← PatternGroup.length_fitting, ← hevidence] at htwo
  exact absurd htwo (by decide)

end Css

-- ======================================================== scripts

namespace Js

variable (s : List Char)

/-- Whether a text has a character that is in no plain words. -/
def Coded (s : List Char) : Prop :=
  ∃ c ∈ s, c.isAlpha = false ∧ Text.isBlank c = false

-- by name, as a search may find the instance that tries every character
instance : Decidable (Coded s) :=
  List.decidableBEx _ s

/-- Plain words are the texts, not empty, of which every character is a
letter or white space. -/
theorem isNaturalLanguage_iff : isNaturalLanguage s = true ↔ s ≠ [] ∧ ¬ Coded s := by
  rw [isNaturalLanguage, Pattern.occursIn_iff, plainWords, Pattern.occurs_all_iff]
  simp only [Coded, not_exists, not_and, Bool.not_eq_false, Bool.or_eq_true]
  refine and_congr_right fun _ => forall₂_congr fun c _ => ?_
  cases c.isAlpha with
  | true => simp
  | false => simp

/-- Everything that speaks for code in a text. -/
theorem evidence_eq :
    evidence s = fitting groups s ++ if 500 < s.length then [lengthCeiling] else [] := by
  rw [evidence, PatternGroup.matching_eq_fitting, maxLength]

theorem evidence_eq_nil_iff :
    evidence s = [] ↔ ¬ ((∃ g ∈ groups, g.Fits s) ∨ 500 < s.length) := by
  rw [evidence_eq, List.append_eq_nil_iff, PatternGroup.fitting_eq_nil_iff, not_or]
  simp

theorem classify_eq :
    classify s
      = if 3 ≤ s.length ∧ Coded s then
          if evidence s = [] then .keep .noEvidence else .discard (evidence s)
        else if 3 ≤ s.length then .keep .naturalLanguage
        else .keep .belowLengthFloor := by
  unfold classify
  simp only [minLength, List.isEmpty_iff]
  by_cases hlong : 3 ≤ s.length
  · have hne : s ≠ [] := by
      rintro rfl
      exact absurd hlong (by decide)
    have hwords : isNaturalLanguage s = true ↔ ¬ Coded s := by
      rw [isNaturalLanguage_iff, and_iff_right hne]
    rw [if_neg (by omega)]
    by_cases hcoded : Coded s
    · have hjudged : 3 ≤ s.length ∧ Coded s := ⟨hlong, hcoded⟩
      rw [if_neg (by rwa [hwords, not_not]), if_pos hjudged]
    · rw [if_pos (hwords.2 hcoded), if_neg (fun h => hcoded h.2), if_pos hlong]
  · rw [if_pos (by omega), if_neg (fun h => hlong h.1), if_neg hlong]

/-- Code is what is not short, not plain words, and has a group that fits
or is too long. -/
theorem exists_discard_iff :
    (∃ found, classify s = .discard found)
      ↔ 3 ≤ s.length ∧ Coded s ∧ ((∃ g ∈ groups, g.Fits s) ∨ 500 < s.length) := by
  rw [classify_eq, ← and_assoc]
  have hevidence := evidence_eq_nil_iff s
  by_cases hjudged : 3 ≤ s.length ∧ Coded s
  · rw [if_pos hjudged, and_iff_right hjudged]
    split
    · next hnone => simp [hevidence.1 hnone]
    · next hsome =>
      have hfound := not_not.1 ((not_congr hevidence).1 hsome)
      exact ⟨fun _ => hfound, fun _ => ⟨_, rfl⟩⟩
  · rw [if_neg hjudged]
    split
    · simp [hjudged]
    · simp [hjudged]

theorem evidence_classify :
    (classify s).evidence = if 3 ≤ s.length ∧ Coded s then evidence s else [] := by
  rw [classify_eq]
  split
  · split
    · next hnone => rw [hnone]; rfl
    · rfl
  · split
    · rfl
    · rfl

theorem classify_ne_discard_nil : classify s ≠ .discard [] := by
  rw [classify_eq]
  split
  · split
    · simp
    · next hsome =>
      intro h
      injection h with h
      exact hsome h
  · split
    · simp
    · simp

end Js

-- ======================================================= any kind

/-- The names that evidence about a text of a kind is taken from. -/
def Kind.evidenceNames : Kind → List String
  | .html => []
  | .css => Css.signals.map PatternGroup.name
  | .js => Js.groups.map PatternGroup.name ++ [Js.lengthCeiling]

theorem Kind.nodup_evidenceNames (kind : Kind) : kind.evidenceNames.Nodup := by
  cases kind with
  | html => decide
  | css => decide
  | js => decide

/-- What is not discarded stays. -/
theorem Verdict.isKeep_iff {v : Verdict} :
    v.isKeep = true ↔ ¬ ∃ found, v = .discard found := by
  cases v with
  | keep reason => simp [isKeep]
  | discard found => simp [isKeep]

namespace Css

theorem mem_matchingSignals_iff {s : List Char} {name : String} :
    name ∈ matchingSignals s ↔ ∃ g ∈ signals, g.Fits s ∧ g.name = name := by
  rw [matchingSignals, PatternGroup.matching_eq_fitting, PatternGroup.fitting, List.mem_map]
  simp only [List.mem_filter, decide_eq_true_iff, and_assoc]

theorem nodup_matchingSignals (s : List Char) : (matchingSignals s).Nodup := by
  rw [matchingSignals, PatternGroup.matching_eq_fitting]
  exact (Kind.nodup_evidenceNames .css).sublist (PatternGroup.sublist_fitting signals s)

theorem length_matchingSignals (s : List Char) :
    (matchingSignals s).length = signals.countP fun g => g.Fits s := by
  rw [matchingSignals, PatternGroup.matching_eq_fitting, PatternGroup.length_fitting]

/-- A signal is known by its name. -/
theorem eq_of_name_eq {g row : PatternGroup} (hg : g ∈ signals) (hrow : row ∈ signals)
    (hname : g.name = row.name) : g = row :=
  List.inj_on_of_nodup_map (Kind.nodup_evidenceNames .css) hg hrow hname

/-- A signal of one pattern is there where the pattern occurs. -/
theorem mem_matchingSignals_row {s : List Char} {name : String} {p : Pattern}
    (hrow : (⟨name, [p]⟩ : PatternGroup) ∈ signals) :
    name ∈ matchingSignals s ↔ p.Occurs s := by
  rw [mem_matchingSignals_iff]
  constructor
  · rintro ⟨g, hg, ⟨q, hq, hoccurs⟩, hname⟩
    obtain rfl := eq_of_name_eq hg hrow hname
    rwa [← List.mem_singleton.1 hq]
  · intro hoccurs
    exact ⟨_, hrow, ⟨p, List.mem_cons_self, hoccurs⟩, rfl⟩

end Css

/-- Evidence comes in the order of the names. -/
theorem evidence_sublist (kind : Kind) (text : String) :
    (classify kind text).evidence.Sublist kind.evidenceNames := by
  cases kind with
  | html => exact List.Sublist.refl []
  | css =>
      rw [classify, Css.evidence_classify]
      split
      · exact PatternGroup.sublist_fitting _ _
      · exact List.nil_sublist _
  | js =>
      rw [classify, Js.evidence_classify, Js.evidence_eq]
      split
      · refine (PatternGroup.sublist_fitting _ _).append ?_
        split
        · exact List.Sublist.refl _
        · exact List.nil_sublist _
      · exact List.nil_sublist _

/-- Nothing is discarded without evidence. -/
theorem classify_ne_discard_nil (kind : Kind) (text : String) :
    classify kind text ≠ .discard [] := by
  cases kind with
  | html => exact Verdict.noConfusion
  | css => exact Css.classify_ne_discard_nil text.toList
  | js => exact Js.classify_ne_discard_nil text.toList

end Marginalia
