/-
Prose in other scripts. The classes of the policies' patterns hold ASCII
letters and digits only, while white space is that of all scripts; so a text
with no ASCII letter, digit or underscore, and no hyphen, can fit few
patterns. Nearly all of them need a character of a name and cannot occur
(Needs.lean). What is left is judged by where it stands:

- in a script, the literals, which begin the text with a bracket, a
  quotation mark or a slash; a percent sign anywhere; and texts of closing
  punctuation only;
- in a stylesheet, a selector made of dots and brackets before an opening
  brace, and a closing brace alone in a line.

The two signals of a stylesheet have to come together to make a verdict.
The pattern for a closing brace reads white space over the ends of lines on
both sides, so that it can begin in a line before and end in one after; all
the same it occurs exactly where a line holds the brace and nothing else
(`occurs_closingBrace_iff`).
-/
import Mathlib.Data.List.Perm.Subperm
import Marginalia.Proofs.Classify.Verdict
import Marginalia.Proofs.Pattern.Needs
import Marginalia.Proofs.Text.Occurrence
import Marginalia.Proofs.Text.Trim

namespace Marginalia

open Pattern

variable {s : List Char}

-- ============================================================= names

/-- Whether a text has no ASCII letter, digit or underscore. -/
def Wordless (s : List Char) : Prop :=
  ∀ c ∈ s, c.isAlphanum = false ∧ c ≠ '_'

instance (s : List Char) : Decidable (Wordless s) :=
  List.decidableBAll _ _

/-- With no hyphen either it has no character of a name. -/
theorem Wordless.isNameChar_eq_false (h : Wordless s) (hhyphen : '-' ∉ s) {c : Char}
    (hc : c ∈ s) : isNameChar c = false := by
  obtain ⟨hword, hunderscore⟩ := h c hc
  have hother : c ≠ '-' := ne_of_mem_of_not_mem hc hhyphen
  simp [isNameChar, isWordChar, hword, hunderscore, hother]

namespace Pattern

section

variable {sort : Char → Bool} (hname : ∀ c, isNameChar c = true → sort c = true)
include hname

theorem needs_nameChar : nameChar.Needs sort :=
  hname

theorem needs_wordChar : wordChar.Needs sort := by
  intro c hc
  exact hname c (by rw [isNameChar, hc, Bool.true_or])

theorem needs_digit : digit.Needs sort := by
  intro c hc
  refine needs_wordChar hname c ?_
  rw [isWordChar, Char.isAlphanum, hc, Bool.or_true, Bool.true_or]

theorem needs_nameColon : nameColon.Needs sort := by
  simp [nameColon, needs_nameChar hname]

end

end Pattern

-- ======================================================= stylesheets

namespace Css

/-- All signals but two need a character of a name. -/
theorem needs_name_of_mem_signals {g : PatternGroup} (hg : g ∈ signals)
    (hblock : g.name ≠ "selector-block") (hbrace : g.name ≠ "closing-brace") :
    ∀ p ∈ g.patterns, p.Needs isNameChar := by
  have hname : ∀ c, isNameChar c = true → isNameChar c = true := fun _ hc => hc
  have hall : ∀ g ∈ signals, g.name ≠ "selector-block" → g.name ≠ "closing-brace" →
      ∀ p ∈ g.patterns, p.Needs isNameChar := by
    simp +decide [signals, declaration, declarationSequence, atRule, borderWidth,
      colorFunction, wordColon, needs_nameChar hname, needs_wordChar hname,
      needs_digit hname, needs_nameColon hname]
  exact hall g hg hblock hbrace

/-- Without names a text can show two signals only. -/
theorem name_of_mem_matchingSignals (hwordless : Wordless s) (hhyphen : '-' ∉ s) {name : String}
    (h : name ∈ matchingSignals s) : name = "selector-block" ∨ name = "closing-brace" := by
  obtain ⟨g, hg, ⟨p, hp, hoccurs⟩, rfl⟩ := mem_matchingSignals_iff.1 h
  by_contra hother
  rw [not_or] at hother
  obtain ⟨c, hc, hname⟩ :=
    hoccurs.exists_of_needs (needs_name_of_mem_signals hg hother.1 hother.2 p hp)
  rw [hwordless.isNameChar_eq_false hhyphen hc] at hname
  cases hname

/-- A selector is there only with an opening brace. -/
theorem brace_mem_of_selectorBlock (h : "selector-block" ∈ matchingSignals s) : '{' ∈ s := by
  have hoccurs : selectorBlock.Occurs s :=
    (mem_matchingSignals_row (List.mem_of_getElem? (i := 3) rfl)).1 h
  have hneeds : selectorBlock.Needs (· == '{') := by simp [selectorBlock]
  obtain ⟨c, hc, hbrace⟩ := hoccurs.exists_of_needs hneeds
  rwa [← beq_iff_eq.1 hbrace]

/-- A closing brace is found between white space that begins and ends with
lines. -/
theorem exists_stretch_iff :
    closingBrace.Occurs s
      ↔ ∃ front l r back, s = front ++ (l ++ ['}'] ++ r) ++ back
          ∧ (∀ c ∈ l, Text.isBlank c = true) ∧ (∀ c ∈ r, Text.isBlank c = true)
          ∧ (∀ c ∈ front.getLast?, c = '\n') ∧ ∀ c ∈ back.head?, c = '\n' := by
  rw [Occurs, closingBrace]
  simp only [matches_inOrder_cons_iff, matches_inOrder_nil_iff, matches_lineStart_iff,
    matches_lineEnd_iff, matches_blanks_iff, char, matches_oneOf_iff]
  constructor
  · rintro ⟨front, rest, b, rfl, _, ⟨hfront, rfl⟩, _, ⟨l, rest, rfl, hl, rfl⟩, _,
      ⟨c, rest, rfl, hc, rfl⟩, _, ⟨r, back, rfl, hr, rfl⟩, _, ⟨hback, rfl⟩, -⟩
    obtain rfl := beq_iff_eq.1 hc
    exact ⟨front, l, r, back, by simp, hl, hr, hfront, hback⟩
  · rintro ⟨front, l, r, back, rfl, hl, hr, hfront, hback⟩
    refine ⟨front, l ++ '}' :: (r ++ back), _, by simp, _, ⟨hfront, rfl⟩, _,
      ⟨l, _, rfl, hl, rfl⟩, _, ⟨_, _, rfl, beq_self_eq_true _, rfl⟩, _,
      ⟨r, back, rfl, hr, rfl⟩, _, ⟨hback, rfl⟩, rfl⟩

/-- A closing brace is found where a line holds it and nothing else. -/
theorem occurs_closingBrace_iff :
    closingBrace.Occurs s ↔ ∃ line ∈ Text.splitLines s, Text.trim line = ['}'] := by
  have hbrace : Text.trim ['}'] = ['}'] := by decide
  simp only [exists_stretch_iff, Text.trim_eq_iff hbrace, Text.splitLines,
    Text.mem_splitOnChar_iff]
  constructor
  · rintro ⟨front, l, r, back, rfl, hl, hr, hfront, hback⟩
    -- the white space may reach over other lines
    obtain ⟨before, l, rfl, hbefore, hlnone⟩ := Text.exists_cut_last '\n' l
    obtain ⟨r, after, rfl, hrnone, hafter⟩ := Text.exists_cut_first '\n' r
    refine ⟨l ++ ['}'] ++ r, ⟨?_, front ++ before, after ++ back, ?_, ?_, ?_⟩, l, r, rfl, ?_, ?_⟩
    · simp [hlnone, hrnone]
    · simp only [List.append_assoc]
    · exact Text.getLast?_append_eq hfront hbefore
    · exact Text.head?_append_eq hafter hback
    · intro c hc
      exact hl c (List.mem_append_right before hc)
    · intro c hc
      exact hr c (List.mem_append_left after hc)
  · rintro ⟨line, ⟨-, front, back, rfl, hfront, hback⟩, l, r, rfl, hl, hr⟩
    exact ⟨front, l, r, back, rfl, hl, hr, hfront, hback⟩

/-- The signal of a closing brace needs such a line. -/
theorem line_of_closingBrace (h : "closing-brace" ∈ matchingSignals s) :
    ∃ line ∈ Text.splitLines s, Text.trim line = ['}'] :=
  occurs_closingBrace_iff.1 ((mem_matchingSignals_row (List.mem_of_getElem? (i := 4) rfl)).1 h)

/-- With at most one signal a text is not discarded. -/
theorem isKeep_of_subset {name : String} (h : matchingSignals s ⊆ [name]) :
    (classify s).isKeep = true := by
  rw [Verdict.isKeep_iff, exists_discard_iff]
  rintro ⟨-, htwo⟩
  have hone : (matchingSignals s).length ≤ 1 :=
    (List.subperm_of_subset (nodup_matchingSignals s) h).length_le
  rw [length_matchingSignals] at hone
  omega

/-- Without names a text is discarded only for both of the signals that
are left. -/
theorem isKeep_of_wordless (hwordless : Wordless s) (hhyphen : '-' ∉ s)
    (h : '{' ∉ s ∨ ∀ line ∈ Text.splitLines s, Text.trim line ≠ ['}']) :
    (classify s).isKeep = true := by
  rcases h with hopen | hclose
  · have hsubset : matchingSignals s ⊆ ["closing-brace"] := by
      intro name hname
      rcases name_of_mem_matchingSignals hwordless hhyphen hname with rfl | rfl
      · exact absurd (brace_mem_of_selectorBlock hname) hopen
      · exact List.mem_singleton_self _
    exact isKeep_of_subset hsubset
  · have hsubset : matchingSignals s ⊆ ["selector-block"] := by
      intro name hname
      rcases name_of_mem_matchingSignals hwordless hhyphen hname with rfl | rfl
      · exact List.mem_singleton_self _
      · obtain ⟨line, hline, htrim⟩ := line_of_closingBrace hname
        exact absurd htrim (hclose line hline)
    exact isKeep_of_subset hsubset

end Css

-- =========================================================== scripts

namespace Js

/-- Whether a character is one of a name, or a percent sign. -/
def isTelling (c : Char) : Bool :=
  isNameChar c || c == '%'

theorem isTelling_of_isNameChar (c : Char) (h : isNameChar c = true) : isTelling c = true := by
  rw [isTelling, h, Bool.true_or]

/-- What literals begin with. -/
def literalMarks : List Char :=
  ['[', '{', '\x22', '\x27', '/']

/-- Whether a pattern begins, after white space, with the mark of a
literal. -/
def Opens (p : Pattern) : Prop :=
  ∃ holds more, p = inOrder (opening :: .oneOf holds :: more)
    ∧ ∀ c, holds c = true → c ∈ literalMarks

/-- Leftovers of punctuation alone. -/
def leftovers : Pattern :=
  inOrder [.textStart, many1 (among [',', ';', '}', ']']), .textEnd]

theorem head_of_opens {p : Pattern} (h : p.Occurs s) (hp : Opens p) :
    ∃ c ∈ literalMarks, (Text.trimStart s).head? = some c := by
  obtain ⟨holds, more, rfl, hmarks⟩ := hp
  obtain ⟨front, rest, b, rfl, hm⟩ := h
  simp only [opening, matches_inOrder_cons_iff, matches_inOrder_nil_iff,
    matches_textStart_iff, matches_blanks_iff, matches_oneOf_iff] at hm
  obtain ⟨_, ⟨_, ⟨hfront, rfl⟩, _, ⟨white, rest, rfl, hwhite, rfl⟩, rfl⟩, _,
    ⟨c, rest, rfl, hc, rfl⟩, -⟩ := hm
  obtain rfl := List.getLast?_eq_none_iff.1 hfront
  have hsolid : ∀ c ∈ literalMarks, (!Text.isBlank c) = true :=
    List.all_eq_true.1 (by decide)
  have hnot : ¬ Text.isBlank c = true := by
    simpa using hsolid c (hmarks c hc)
  refine ⟨c, hmarks c hc, ?_⟩
  rw [List.nil_append, Text.trimStart_blank_append hwhite, Text.trimStart,
    List.dropWhile_cons_of_neg hnot, List.head?_cons]

theorem needs_hexDigit : syntaxFragment.hexDigit.Needs isTelling := by
  intro c hc
  have hlower : 'a' ≤ c → c ≤ 'f' → c.isLower = true := by
    intro hge hle
    show (decide ('a' ≤ c) && decide (c ≤ 'z')) = true
    rw [Bool.and_eq_true, decide_eq_true_iff, decide_eq_true_iff]
    exact ⟨hge, UInt32.le_trans hle (by decide)⟩
  have hupper : 'A' ≤ c → c ≤ 'F' → c.isUpper = true := by
    intro hge hle
    exact decide_eq_true ⟨hge, UInt32.le_trans hle (by decide)⟩
  have hword : c.isUpper = true ∨ c.isLower = true → isWordChar c = true := by
    intro hletter
    have halpha : c.isAlpha = true := Bool.or_eq_true_iff.2 hletter
    rw [isWordChar, Char.isAlphanum, halpha, Bool.true_or, Bool.true_or]
  simp only [Bool.or_eq_true, Bool.and_eq_true, decide_eq_true_eq] at hc
  rcases hc with (hdigit | ⟨hge, hle⟩) | ⟨hge, hle⟩
  · exact needs_digit isTelling_of_isNameChar c hdigit
  · exact needs_wordChar isTelling_of_isNameChar c (hword (Or.inr (hlower hge hle)))
  · exact needs_wordChar isTelling_of_isNameChar c (hword (Or.inl (hupper hge hle)))

/-- Of the groups' patterns only those for literals and leftovers can do
without a telling character. -/
theorem needs_or_opens {g : PatternGroup} (hg : g ∈ groups) {p : Pattern} (hp : p ∈ g.patterns) :
    p.Needs isTelling ∨ Opens p ∨ p = leftovers := by
  have hname := isTelling_of_isNameChar
  have hmarkup : ∀ p ∈ markup.patterns, p.Needs isTelling := by
    simp +decide [markup, needs_wordChar hname]
  have hcode : ∀ p ∈ codeSyntax.patterns, p.Needs isTelling ∨ Opens p := by
    have hquoted (more : List Pattern) : Opens (inOrder (opening :: quoteMark :: more)) :=
      ⟨_, more, rfl, by simp [literalMarks]⟩
    have hslashed (more : List Pattern) : Opens (inOrder (opening :: char '/' :: more)) :=
      ⟨_, more, rfl, by simp [literalMarks]⟩
    have hbracketed (more : List Pattern) :
        Opens (inOrder (opening :: among ['[', '{'] :: more)) :=
      ⟨_, more, rfl, by simp [literalMarks]⟩
    simp +decide [codeSyntax, needs_wordChar hname, needs_digit hname, hquoted, hslashed,
      hbracketed]
  have hleak : ∀ p ∈ cssLeak.patterns, p.Needs isTelling := by
    simp +decide [cssLeak, wordColon, needs_digit hname, needs_nameColon hname]
  have hfragment : ∀ p ∈ syntaxFragment.patterns, p.Needs isTelling ∨ p = leftovers := by
    simp +decide [syntaxFragment, leftovers, needs_wordChar hname, needs_digit hname,
      needs_hexDigit]
  simp only [groups, List.mem_cons, List.not_mem_nil, or_false] at hg
  rcases hg with rfl | rfl | rfl | rfl
  · exact Or.inl (hmarkup p hp)
  · exact (hcode p hp).imp_right Or.inl
  · exact Or.inl (hleak p hp)
  · exact (hfragment p hp).imp_right Or.inr

/-- Without names a text is discarded only for a percent sign, its first
character, its length, or for having nothing but closing punctuation. -/
theorem isKeep_of_wordless (hwordless : Wordless s) (hhyphen : '-' ∉ s) (hpercent : '%' ∉ s)
    (hlength : s.length ≤ 500)
    (hhead : ∀ c, (Text.trimStart s).head? = some c → c ∉ literalMarks)
    (hsome : s = [] ∨ ∃ c ∈ s, c ∉ [',', ';', '}', ']']) :
    (classify s).isKeep = true := by
  rw [Verdict.isKeep_iff, exists_discard_iff]
  rintro ⟨-, -, ⟨g, hg, p, hp, hoccurs⟩ | hlong⟩
  · rcases needs_or_opens hg hp with hneeds | hopens | rfl
    · obtain ⟨c, hc, htelling⟩ := hoccurs.exists_of_needs hneeds
      rw [isTelling, hwordless.isNameChar_eq_false hhyphen hc, Bool.false_or,
        beq_iff_eq] at htelling
      exact hpercent (htelling ▸ hc)
    · obtain ⟨c, hmark, hfirst⟩ := head_of_opens hoccurs hopens
      exact hhead c hfirst hmark
    · obtain ⟨hne, hall⟩ := occurs_all_iff.1 hoccurs
      rcases hsome with hempty | ⟨c, hc, hother⟩
      · exact hne hempty
      · exact hother (List.contains_iff_mem.1 (hall c hc))
  · omega

end Js

-- ============================================================== main

/-- Prose without ASCII letters, digits, underscores and hyphens is kept in
a script unless it is long, has a percent sign, begins like a literal or is
closing punctuation only; in a stylesheet it can show two signals at most,
and is kept unless it has both an opening brace and a line with a closing
brace alone. -/
theorem wordless_kept (text : String) (hwordless : Wordless text.toList)
    (hhyphen : '-' ∉ text.toList) :
    ('%' ∉ text.toList → text.toList.length ≤ 500 →
        (∀ c, (Text.trimStart text.toList).head? = some c →
          c ∉ ['[', '{', '\x22', '\x27', '/']) →
        (text.toList = [] ∨ ∃ c ∈ text.toList, c ∉ [',', ';', '}', ']']) →
        (classify .js text).isKeep = true)
      ∧ (∀ name ∈ Css.matchingSignals text.toList,
          name = "selector-block" ∨ name = "closing-brace")
      ∧ (('{' ∉ text.toList
            ∨ ∀ line ∈ Text.splitLines text.toList, Text.trim line ≠ ['}']) →
          (classify .css text).isKeep = true) := by
  refine ⟨?_, ?_, ?_⟩
  · intro hpercent hlength hhead hsome
    exact Js.isKeep_of_wordless hwordless hhyphen hpercent hlength hhead hsome
  · intro name hname
    exact Css.name_of_mem_matchingSignals hwordless hhyphen hname
  · intro hbraces
    exact Css.isKeep_of_wordless hwordless hhyphen hbraces

/-- A note with the punctuation of a rule that is not closed. -/
theorem wordless_kept_note :
    let text := "Цвет: \x7b\n  (убрать); «фон»"
    (Wordless text.toList ∧ '-' ∉ text.toList ∧ '%' ∉ text.toList)
      ∧ (classify .js text).isKeep = true ∧ (classify .css text).isKeep = true := by
  intro text
  have hsorts : Wordless text.toList ∧ '-' ∉ text.toList ∧ '%' ∉ text.toList := by
    decide +kernel
  have hfirst : (Text.trimStart text.toList).head? = some 'Ц' := by decide +kernel
  have hhead : ∀ c, (Text.trimStart text.toList).head? = some c →
      c ∉ ['[', '{', '\x22', '\x27', '/'] := by
    intro c hc
    obtain rfl := Option.some.inj (hfirst.symm.trans hc)
    decide
  have hsome : 'Ц' ∈ text.toList := by decide +kernel
  have hopen : ∀ line ∈ Text.splitLines text.toList, Text.trim line ≠ ['}'] := by
    decide +kernel
  obtain ⟨hscript, -, hstylesheet⟩ := wordless_kept text hsorts.1 hsorts.2.1
  refine ⟨hsorts, ?_, hstylesheet (Or.inr hopen)⟩
  exact hscript hsorts.2.2 (by decide +kernel) hhead (Or.inr ⟨'Ц', hsome, by decide⟩)

end Marginalia
