/-
What the structural signals of a stylesheet mean. Their patterns have more to them
than they say. Where a value may run on over lines and to the end of the text, its
first character decides: a line that begins with a name and a colon is a
declaration unless a semicolon comes right behind (`occurs_declaration_iff`), and
of the second value of a sequence one character is enough
(`occurs_declarationSequence_iff`). White space before or inside a shape may run
over lines as well, so that the line where a shape begins need not be the one where
its name stands.
-/
import Marginalia.Proofs.Classify.Wordless
import Marginalia.Proofs.Pattern.Around

namespace Marginalia.Css

open Pattern

variable {s : List Char} {a : Cursor}

-- ======================================================== declarations

/-- The pattern of a declaration, up to where its value ends. -/
def declarationBody : List Pattern :=
  [blanks, nameColon, blanks, many1 (except [';'])]

/-- What a declaration needs of the text ahead. -/
def declared : Language Char :=
  blanks.language * ((many1 nameChar).language * (blanks.language
    * ((char ':').language * ((except [';']).language * ⊤))))

theorem body_mul (L : Language Char) :
    (inOrder declarationBody).language * L
      = blanks.language * ((many1 nameChar).language * (blanks.language
          * ((char ':').language * ((many1 (except [';'])).language * L)))) := by
  have hsolid : ∀ c ∈ [';'], Text.isBlank c = false := List.forall_mem_singleton.2 (by decide)
  rw [inOrder_mul]
  simp only [declarationBody, List.foldr]
  rw [nameColon_mul, blanks_mul_value hsolid]

theorem body_mul_top : (inOrder declarationBody).language * ⊤ = declared := by
  rw [body_mul, many1_mul_top, declared]

/-- A value begun can be read up to its end, which a semicolon or the end of the text
makes. -/
theorem exists_body_of_declared (h : s ∈ declared) :
    ∃ t ∈ (inOrder declarationBody).language, ∃ back, s = t ++ back
      ∧ ∀ c ∈ back.head?, c = ';' := by
  simp only [declared, mem_blanks_mul_iff, mem_name_mul_iff, mem_char_mul_iff,
    mem_except_mul_iff, List.mem_singleton] at h
  obtain ⟨white, _, rfl, hwhite, name, _, rfl, hname, gap, _, rfl, hgap, _, rfl, d, rest, rfl, hd,
    -⟩ := h
  obtain ⟨head, back, rfl, hhead, hback⟩ := Text.exists_cut_first ';' rest
  have hvalue : d :: head ≠ [] ∧ ∀ c ∈ d :: head, c ∉ [';'] := by
    refine ⟨List.cons_ne_nil d head, List.forall_mem_cons.2 ⟨by simpa using hd, ?_⟩⟩
    intro c hc
    have hother : c ≠ ';' := ne_of_mem_of_not_mem hc hhead
    simpa using hother
  refine ⟨white ++ (name ++ (gap ++ ':' :: d :: head)), ?_, back, by simp, hback⟩
  rw [← mul_one (inOrder declarationBody).language, body_mul]
  simp only [mem_blanks_mul_iff, mem_name_mul_iff, mem_char_mul_iff, mem_value_mul_iff]
  exact ⟨white, _, rfl, hwhite, name, _, rfl, hname, gap, _, rfl, hgap, _, rfl, d :: head, [],
    by simp, hvalue, Language.nil_mem_one⟩

/-- From a place on a declaration is read if its value begins. -/
theorem exists_matches_declaration_iff :
    (∃ b, Matches (inOrder (declarationBody ++ [.either (char ';') .lineEnd])) a b)
      ↔ a.rest ∈ declared := by
  constructor
  · intro h
    obtain ⟨b, hm⟩ := h
    obtain ⟨c, hbody, -⟩ := matches_inOrder_append_iff.1 hm
    rw [← body_mul_top]
    exact (exists_matches_iff (by decide)).1 ⟨c, hbody⟩
  · intro h
    obtain ⟨t, ht, back, hrest, hback⟩ := exists_body_of_declared h
    obtain ⟨before, rest⟩ := a
    simp only at hrest
    subst hrest
    have hbody := matches_of_mem_language ht before back
    have hend : ∃ b, Matches (.either (char ';') .lineEnd) ⟨t.getLast?.or before, back⟩ b := by
      cases back with
      | nil => exact ⟨_, .right (.lineEnd rfl)⟩
      | cons c back =>
          obtain rfl := hback c rfl
          exact ⟨_, .left (.oneOf rfl)⟩
    obtain ⟨b, hb⟩ := hend
    exact ⟨b, matches_inOrder_append_iff.2 ⟨_, hbody, hb⟩⟩

/-- A declaration begins a line: white space, a name and a colon, and any character
but a semicolon behind it. -/
theorem occurs_declaration_iff :
    declaration.Occurs s
      ↔ ∃ front white name gap d rest,
          s = front ++ white ++ name ++ gap ++ ':' :: d :: rest
          ∧ (∀ c ∈ front.getLast?, c = '\n')
          ∧ IsGap white ∧ IsName name ∧ IsGap gap ∧ d ≠ ';' := by
  have hparts : declaration
      = inOrder (.lineStart :: (declarationBody ++ [.either (char ';') .lineEnd])) := rfl
  have hplace : ∀ front rest : List Char,
      (∃ b, Matches declaration ⟨front.getLast?, rest⟩ b)
        ↔ (∀ c ∈ front.getLast?, c = '\n') ∧ rest ∈ declared := by
    intro front rest
    rw [hparts, ← exists_matches_declaration_iff (a := ⟨front.getLast?, rest⟩)]
    simp only [matches_inOrder_cons_iff, matches_lineStart_iff]
    constructor
    · intro h
      obtain ⟨b, _, ⟨hfront, rfl⟩, hm⟩ := h
      exact ⟨hfront, b, hm⟩
    · intro h
      obtain ⟨hfront, b, hm⟩ := h
      exact ⟨b, _, ⟨hfront, rfl⟩, hm⟩
  simp only [Occurs, exists_and_left, hplace, declared, mem_blanks_mul_iff, mem_name_mul_iff,
    mem_char_mul_iff, mem_except_mul_iff, List.mem_singleton]
  constructor
  · intro h
    obtain ⟨front, _, rfl, hfront, white, _, rfl, hwhite, name, _, rfl, hname, gap, _, rfl, hgap,
      _, rfl, d, rest, rfl, hd, -⟩ := h
    exact ⟨front, white, name, gap, d, rest, by simp only [List.append_assoc], hfront, hwhite,
      hname, hgap, hd⟩
  · intro h
    obtain ⟨front, white, name, gap, d, rest, rfl, hfront, hwhite, hname, hgap, hd⟩ := h
    exact ⟨front, _, by simp only [List.append_assoc], hfront, white, _, rfl, hwhite, name, _, rfl,
      hname, gap, _, rfl, hgap, _, rfl, d, rest, rfl, hd, mem_top rest⟩

/-- Two declarations in a row: the first has a value and a semicolon behind it, of
the second a value has begun. -/
theorem occurs_declarationSequence_iff :
    declarationSequence.Occurs s
      ↔ ∃ front c gap value gap₁ name gap₂ d rest,
          s = front ++ c :: (gap ++ ':' :: (value ++ ';' :: (gap₁ ++ name ++ gap₂ ++ ':' :: d
            :: rest)))
          ∧ isNameChar c = true ∧ IsGap gap
          ∧ (value ≠ [] ∧ ∀ x ∈ value, x ∉ [';', '\x7b', '\x7d'])
          ∧ IsGap gap₁ ∧ IsName name ∧ IsGap gap₂ ∧ d ∉ [';', '\x7b', '\x7d'] := by
  -- one after the other, as a search may find the instance that tries every character
  have hsolid : ∀ c ∈ [';', '\x7b', '\x7d'], Text.isBlank c = false := by
    rw [List.forall_mem_cons, List.forall_mem_cons, List.forall_mem_singleton]
    decide
  have hlanguage : around declarationSequence.language
      = ⊤ * (nameChar.language * (blanks.language * ((char ':').language
          * ((many1 (except [';', '\x7b', '\x7d'])).language * ((char ';').language
            * (blanks.language * ((many1 nameChar).language * (blanks.language
              * ((char ':').language * ((except [';', '\x7b', '\x7d']).language * ⊤)))))))))) := by
    rw [around, declarationSequence, inOrder_mul]
    simp only [List.foldr, nameColon_mul, blanks_mul_value hsolid]
    rw [many1_mul_top, ← mul_assoc, top_mul_many1, mul_assoc]
  rw [occurs_iff_mem_around (by decide), hlanguage]
  simp only [mem_top_mul_iff, mem_nameChar_mul_iff, mem_blanks_mul_iff, mem_char_mul_iff,
    mem_value_mul_iff, mem_name_mul_iff, mem_except_mul_iff]
  constructor
  · intro h
    obtain ⟨front, _, rfl, c, _, rfl, hc, gap, _, rfl, hgap, _, rfl, value, _, rfl, hvalue, _,
      rfl, gap₁, _, rfl, hgap₁, name, _, rfl, hname, gap₂, _, rfl, hgap₂, _, rfl, d, rest, rfl,
      hd, -⟩ := h
    exact ⟨front, c, gap, value, gap₁, name, gap₂, d, rest, by simp only [List.append_assoc], hc,
      hgap, hvalue, hgap₁, hname, hgap₂, hd⟩
  · intro h
    obtain ⟨front, c, gap, value, gap₁, name, gap₂, d, rest, rfl, hc, hgap, hvalue, hgap₁, hname,
      hgap₂, hd⟩ := h
    exact ⟨front, _, rfl, c, _, rfl, hc, gap, _, rfl, hgap, _, rfl, value, _, rfl, hvalue, _, rfl,
      gap₁, _, by simp only [List.append_assoc], hgap₁, name, _, rfl, hname, gap₂, _, rfl, hgap₂,
      _, rfl, d, rest, rfl, hd, mem_top rest⟩

/-- An at-rule begins the text, after white space. -/
theorem occurs_atRule_iff :
    atRule.Occurs s ↔ ∃ c rest, Text.trimStart s = '@' :: c :: rest ∧ isWordChar c = true := by
  have hparts : atRule = inOrder [.textStart, blanks, inOrder [char '@', many1 wordChar]] := rfl
  have hword : ∀ white rest : List Char,
      (∃ b, Matches (inOrder [char '@', many1 wordChar]) ⟨white.getLast?, rest⟩ b)
        ↔ ∃ c tail, rest = '@' :: c :: tail ∧ isWordChar c = true := by
    intro white rest
    rw [exists_matches_iff (by decide), inOrder_mul]
    simp only [List.foldr, many1_mul_top, mem_char_mul_iff, wordChar, mem_oneOf_mul_iff]
    simp [mem_top]
  rw [hparts, occurs_start_blanks_iff]
  simp only [exists_and_left, hword]
  constructor
  · intro h
    obtain ⟨white, _, rfl, hwhite, c, tail, rfl, hc⟩ := h
    refine ⟨c, tail, ?_, hc⟩
    rw [Text.trimStart_blank_append hwhite]
    exact List.dropWhile_cons_of_neg (by decide)
  · intro h
    obtain ⟨c, rest, htrim, hc⟩ := h
    refine ⟨s.takeWhile Text.isBlank, _, ?_, ?_, c, rest, htrim, hc⟩
    · exact List.takeWhile_append_dropWhile.symm
    · intro x hx
      exact List.mem_takeWhile_imp hx

-- =============================================================== main

/-- What the four structural signals of a stylesheet mean, in every text. A
declaration begins at the start of a line, after white space that may run over lines,
and needs one more character behind its colon, which is no semicolon. A closing brace
stands in a line alone. An at-rule begins the text, after white space. A sequence is
a declaration with a value and a semicolon, and the beginning of a second one. -/
theorem structural_signals_exact (s : List Char) :
    ("declaration" ∈ matchingSignals s
        ↔ ∃ front white name gap d rest,
            s = front ++ white ++ name ++ gap ++ ':' :: d :: rest
            ∧ (∀ c ∈ front.getLast?, c = '\n')
            ∧ IsGap white ∧ IsName name ∧ IsGap gap ∧ d ≠ ';')
      ∧ ("closing-brace" ∈ matchingSignals s
        ↔ ∃ line ∈ Text.splitLines s, Text.trim line = ['\x7d'])
      ∧ ("at-rule" ∈ matchingSignals s
        ↔ ∃ c rest, Text.trimStart s = '@' :: c :: rest ∧ isWordChar c = true)
      ∧ ("declaration-sequence" ∈ matchingSignals s
        ↔ ∃ front c gap value gap₁ name gap₂ d rest,
            s = front ++ c :: (gap ++ ':' :: (value ++ ';' :: (gap₁ ++ name ++ gap₂ ++ ':' :: d
              :: rest)))
            ∧ isNameChar c = true ∧ IsGap gap
            ∧ (value ≠ [] ∧ ∀ x ∈ value, x ∉ [';', '\x7b', '\x7d'])
            ∧ IsGap gap₁ ∧ IsName name ∧ IsGap gap₂ ∧ d ∉ [';', '\x7b', '\x7d']) := by
  have hrow : ∀ {name : String} {p : Pattern} (i : Nat), signals[i]? = some ⟨name, [p]⟩ →
      (name ∈ matchingSignals s ↔ p.Occurs s) :=
    fun i hi => mem_matchingSignals_row (List.mem_of_getElem? hi)
  refine ⟨?_, ?_, ?_, ?_⟩
  · rw [hrow 0 rfl, occurs_declaration_iff]
  · rw [hrow 4 rfl, occurs_closingBrace_iff]
  · rw [hrow 2 rfl, occurs_atRule_iff]
  · rw [hrow 1 rfl, occurs_declarationSequence_iff]

end Marginalia.Css
