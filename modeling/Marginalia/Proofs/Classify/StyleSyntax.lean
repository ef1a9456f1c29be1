/-
Stylesheet syntax in a script comment. Of the four groups of the script policy
this one decides most often about ordinary prose, since it looks for a few letters
anywhere in a text. Its eighteen patterns come down to four conditions
(`style_syntax_exact`): one of sixteen words, one of five properties before a
colon, a name before a colon with a semicolon somewhere behind, and the same in
braces. Two patterns say nothing that others do not say: the unit of a root size
ends in that of a size, and the width of a border is in pixels.
-/
import Marginalia.Classify.Css
import Marginalia.Proofs.Classify.Verdict
import Marginalia.Proofs.Pattern.Around

namespace Marginalia.Js

open Pattern

variable {s : List Char}

/-- Words that tell of stylesheets wherever they stand. -/
def styleWords : List String :=
  ["px", "em", "%", "vh", "vw", "deg", "rgb(", "rgba(", "hue-rotate", "forwards",
   "!important", "translateY", "sepia(", "saturate(", "fadeOut", "data-highlight"]

/-- Properties that tell of stylesheets before a colon. -/
def styleProperties : List String :=
  ["animation", "background-color", "filter", "transform", "opacity"]

-- ============================================================== shapes

/-- A declaration in a text: a name and a colon, and a semicolon that comes later
than right behind it. -/
theorem occurs_declaration_iff :
    (inOrder [nameColon, blanks, many1 (except [';']), char ';']).Occurs s
      ↔ ∃ front c gap d rest, s = front ++ c :: (gap ++ ':' :: d :: rest)
          ∧ isNameChar c = true ∧ IsGap gap ∧ d ≠ ';' ∧ ';' ∈ rest := by
  have hlanguage : around (inOrder [nameColon, blanks, many1 (except [';']), char ';']).language
      = ⊤ * (nameChar.language * (blanks.language * ((char ':').language
          * ((except [';']).language * having ';')))) := by
    rw [around, inOrder_mul]
    simp only [List.foldr]
    rw [upTo_mul_top (by decide), nameColon_mul, ← mul_assoc, top_mul_many1, mul_assoc]
  rw [occurs_iff_mem_around (by decide), hlanguage]
  simp only [mem_top_mul_iff, mem_nameChar_mul_iff, mem_blanks_mul_iff, mem_char_mul_iff,
    mem_except_mul_iff, mem_having_iff, List.mem_singleton]
  constructor
  · intro h
    obtain ⟨front, _, rfl, c, _, rfl, hc, gap, _, rfl, hgap, _, rfl, d, rest, rfl, hd,
      hrest⟩ := h
    exact ⟨front, c, gap, d, rest, rfl, hc, hgap, hd, hrest⟩
  · intro h
    obtain ⟨front, c, gap, d, rest, rfl, hc, hgap, hd, hrest⟩ := h
    exact ⟨front, _, rfl, c, _, rfl, hc, gap, _, rfl, hgap, _, rfl, d, rest, rfl, hd, hrest⟩

/-- A declaration in braces. -/
theorem occurs_block_iff :
    (inOrder [char '\x7b', blanks, nameColon, blanks, many1 (except ['\x7d']),
        char '\x7d']).Occurs s
      ↔ ∃ front gap name gap' d rest,
          s = front ++ '\x7b' :: (gap ++ name ++ gap' ++ ':' :: d :: rest)
          ∧ IsGap gap ∧ IsName name ∧ IsGap gap' ∧ d ≠ '\x7d' ∧ '\x7d' ∈ rest := by
  have hlanguage :
      around (inOrder [char '\x7b', blanks, nameColon, blanks, many1 (except ['\x7d']),
        char '\x7d']).language
      = ⊤ * ((char '\x7b').language * (blanks.language * ((many1 nameChar).language
          * (blanks.language * ((char ':').language
            * ((except ['\x7d']).language * having '\x7d')))))) := by
    rw [around, inOrder_mul]
    simp only [List.foldr]
    rw [upTo_mul_top (by decide), nameColon_mul]
  rw [occurs_iff_mem_around (by decide), hlanguage]
  simp only [mem_top_mul_iff, mem_name_mul_iff, mem_blanks_mul_iff, mem_char_mul_iff,
    mem_except_mul_iff, mem_having_iff, List.mem_singleton]
  constructor
  · intro h
    obtain ⟨front, _, rfl, _, rfl, gap, _, rfl, hgap, name, _, rfl, hname, gap', _, rfl, hgap',
      _, rfl, d, rest, rfl, hd, hrest⟩ := h
    exact ⟨front, gap, name, gap', d, rest, by simp only [List.append_assoc], hgap, hname, hgap',
      hd, hrest⟩
  · intro h
    obtain ⟨front, gap, name, gap', d, rest, rfl, hgap, hname, hgap', hd, hrest⟩ := h
    exact ⟨front, _, rfl, _, rfl, gap, _, by simp only [List.append_assoc], hgap, name, _, rfl,
      hname, gap', _, rfl, hgap', _, rfl, d, rest, rfl, hd, hrest⟩

-- =============================================================== words

theorem occurs_color_iff :
    (inOrder [text "rgb", optional (char 'a'), char '(']).Occurs s
      ↔ "rgb(".toList <:+: s ∨ "rgba(".toList <:+: s := by
  have hlanguage : ∀ t, t ∈ (inOrder [text "rgb", optional (char 'a'), char '(']).language
      ↔ t = "rgb(".toList ∨ t = "rgba(".toList := by
    intro t
    have hoptional : ∀ u, u ∈ (optional (char 'a')).language ↔ u = ['a'] ∨ u = [] :=
      fun u => or_congr mem_language_char (Language.mem_one u)
    simp only [mem_language_inOrder_cons, mem_language_inOrder_nil, mem_language_text,
      mem_language_char, hoptional, exists_eq_left, exists_eq_left', or_and_right, exists_or]
    rw [or_comm, @eq_comm _ t, @eq_comm _ t]
    exact Iff.rfl
  rw [occurs_iff_language (by decide)]
  simp only [hlanguage, or_and_right, exists_or, exists_eq_left]

/-- The unit of a root size ends in the unit of a size. -/
theorem em_of_rem (h : "rem".toList <:+: s) : "em".toList <:+: s := by
  have hends : "em".toList <:+: "rem".toList := by decide
  exact hends.trans h

/-- The width of a border is in pixels. -/
theorem px_of_border (h : Css.borderWidth.Occurs s) : "px".toList <:+: s := by
  obtain ⟨t, ht, hinfix⟩ := (occurs_iff_language (by decide)).1 h
  obtain ⟨u, hu, hin⟩ := exists_infix_of_mem_inOrder (p := text "px") ht (by simp)
  rw [← mem_language_text.1 hu]
  exact hin.trans hinfix

-- =============================================================== main

theorem fits_cssLeak_iff :
    cssLeak.Fits s
      ↔ (∃ w ∈ styleWords, w.toList <:+: s)
        ∨ (∃ w ∈ styleProperties, (wordColon w).Occurs s)
        ∨ (inOrder [nameColon, blanks, many1 (except [';']), char ';']).Occurs s
        ∨ (inOrder [char '\x7b', blanks, nameColon, blanks, many1 (except ['\x7d']),
            char '\x7d']).Occurs s := by
  have hborder : (inOrder [wordColon "border", blanks, many1 digit, text "px"]).Occurs s →
      "px".toList <:+: s := px_of_border
  have hrem := @em_of_rem s
  simp only [PatternGroup.Fits, cssLeak, styleWords, styleProperties, List.mem_cons,
    List.not_mem_nil, or_false, exists_eq_or_imp, exists_eq_left, occurs_anyText_iff,
    occurs_color_iff, occurs_text_iff, occurs_before_blanks_iff (unanchored_wordColon _)]
  -- the same conditions on both sides, but for the two that follow from others
  grind

/-- The group for stylesheet syntax matches exactly the texts with one of its
words, with one of its properties before a colon, with a declaration that a
semicolon ends, or with one in braces. Its patterns for root sizes and for the
widths of borders match nothing that those for sizes and pixels do not match. -/
theorem style_syntax_exact (s : List Char) :
    (cssLeak.matchesText s = true
        ↔ (∃ w ∈ styleWords, w.toList <:+: s)
          ∨ (∃ w ∈ styleProperties, ∃ front gap rest,
              s = front ++ w.toList ++ gap ++ ':' :: rest ∧ IsGap gap)
          ∨ (∃ front c gap d rest, s = front ++ c :: (gap ++ ':' :: d :: rest)
              ∧ isNameChar c = true ∧ IsGap gap ∧ d ≠ ';' ∧ ';' ∈ rest)
          ∨ ∃ front gap name gap' d rest,
              s = front ++ '\x7b' :: (gap ++ name ++ gap' ++ ':' :: d :: rest)
              ∧ IsGap gap ∧ IsName name ∧ IsGap gap' ∧ d ≠ '\x7d' ∧ '\x7d' ∈ rest)
      ∧ ((text "rem").occursIn s = true → (text "em").occursIn s = true)
      ∧ (Css.borderWidth.occursIn s = true → (text "px").occursIn s = true) := by
  refine ⟨?_, ?_, ?_⟩
  · rw [PatternGroup.matchesText_iff, fits_cssLeak_iff, occurs_declaration_iff, occurs_block_iff]
    simp only [occurs_wordColon_iff]
  · simp only [occursIn_iff, occurs_text_iff]
    exact em_of_rem
  · simp only [occursIn_iff, occurs_text_iff]
    exact px_of_border

-- a word may be a part of another one
example : cssLeak.matchesText "see the item".toList = true := by decide +kernel

end Marginalia.Js
