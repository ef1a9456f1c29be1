/-
Texts around a pattern. The texts in which a pattern occurs are themselves a
language: anything, then a text of the pattern, then anything
(`occurs_iff_mem_around`). What surrounds it takes in whatever the pattern could
be read longer by: of repetitions at either end one is enough, white space at the
end is no condition, and what must come somewhere later may come at its first
place (`until_mul_top`). So the patterns of a table can be brought to a short form
by equations between languages, and the form is then read off in words.
-/
import Marginalia.Proofs.Pattern.Language
import Marginalia.Proofs.Text.Occurrence

namespace Marginalia.Pattern

open Computability

variable {p : Pattern} {s : List Char} {holds : Char → Bool} {L : Language Char}

/-- The texts with a stretch in a language. -/
def around (L : Language Char) : Language Char :=
  ⊤ * (L * ⊤)

theorem mem_top (s : List Char) : s ∈ (⊤ : Language Char) :=
  Set.mem_univ s

theorem mem_around_iff : s ∈ around L ↔ ∃ t ∈ L, t <:+: s := by
  constructor
  · intro h
    obtain ⟨front, -, _, ⟨t, ht, back, -, rfl⟩, rfl⟩ := h
    refine ⟨t, ht, front, back, ?_⟩
    rw [List.append_assoc]
  · intro h
    obtain ⟨t, ht, front, back, rfl⟩ := h
    rw [List.append_assoc]
    exact Language.append_mem_mul (mem_top front) (Language.append_mem_mul ht (mem_top back))

theorem occurs_iff_mem_around (hp : p.Unanchored) : p.Occurs s ↔ s ∈ around p.language := by
  rw [occurs_iff_language hp, mem_around_iff]

/-- A pattern reads from a place on where one of its texts stands. -/
theorem exists_matches_iff {a : Cursor} (hp : p.Unanchored) :
    (∃ b, Matches p a b) ↔ a.rest ∈ p.language * ⊤ := by
  constructor
  · intro h
    obtain ⟨b, hm⟩ := h
    obtain ⟨t, ht, hrest, -⟩ := hm.exists_mem_language hp
    rw [hrest]
    exact Language.append_mem_mul ht (mem_top b.rest)
  · intro h
    obtain ⟨t, ht, rest, -, hrest⟩ := h
    have hm := matches_of_mem_language ht a.before rest
    obtain ⟨before, all⟩ := a
    simp only at hrest
    rw [hrest] at hm
    exact ⟨_, hm⟩

-- ============================================================== laws

theorem top_mul_kstar (L : Language Char) : ⊤ * L∗ = (⊤ : Language Char) := by
  apply top_unique
  calc (⊤ : Language Char) = ⊤ * 1 := (mul_one _).symm
    _ ≤ ⊤ * L∗ := mul_le_mul_right one_le_kstar ⊤

theorem kstar_mul_top (L : Language Char) : L∗ * ⊤ = (⊤ : Language Char) := by
  apply top_unique
  calc (⊤ : Language Char) = 1 * ⊤ := (one_mul _).symm
    _ ≤ L∗ * ⊤ := mul_le_mul_left one_le_kstar ⊤

theorem language_many1 (p : Pattern) : (many1 p).language = p.language * p.language∗ := rfl

/-- In front of anything one repetition is enough. -/
theorem many1_mul_top (p : Pattern) : (many1 p).language * ⊤ = p.language * ⊤ := by
  rw [language_many1, mul_assoc, kstar_mul_top]

/-- Behind anything one repetition is enough. -/
theorem top_mul_many1 (p : Pattern) : ⊤ * (many1 p).language = ⊤ * p.language := by
  rw [language_many1, ← Language.mul_self_kstar_comm, ← mul_assoc, top_mul_kstar]

theorem blanks_mul_top : blanks.language * ⊤ = ⊤ :=
  kstar_mul_top _

/-- White space in front of what may be white space itself is part of it. -/
theorem blanks_mul_many1_except {listed : List Char}
    (h : ∀ c ∈ listed, Text.isBlank c = false) :
    blanks.language * (many1 (except listed)).language = (many1 (except listed)).language := by
  ext t
  rw [Language.mem_mul]
  simp only [except, mem_language_blanks, mem_language_many1_oneOf]
  constructor
  · intro ht
    obtain ⟨white, hwhite, u, ⟨hne, hu⟩, rfl⟩ := ht
    refine ⟨List.append_ne_nil_of_right_ne_nil white hne, ?_⟩
    intro c hc
    rcases List.mem_append.1 hc with hc | hc
    · have hother : c ∉ listed := by
        intro hlisted
        have hsolid := h c hlisted
        rw [hwhite c hc] at hsolid
        cases hsolid
      simpa using hother
    · exact hu c hc
  · intro ht
    exact ⟨[], List.forall_mem_nil _, t, ht, rfl⟩

theorem blanks_mul_value {listed : List Char} (h : ∀ c ∈ listed, Text.isBlank c = false)
    (L : Language Char) :
    blanks.language * ((many1 (except listed)).language * L)
      = (many1 (except listed)).language * L := by
  rw [← mul_assoc, blanks_mul_many1_except h]

/-- The texts that have a character. -/
def having (x : Char) : Language Char :=
  {s | x ∈ s}

theorem mem_having_iff {x : Char} : s ∈ having x ↔ x ∈ s := Iff.rfl

/-- Up to a character and on is anything that has the character. -/
theorem until_mul_top (x : Char) :
    (many (except [x])).language * ((char x).language * ⊤) = having x := by
  ext t
  constructor
  · intro h
    obtain ⟨front, -, _, ⟨_, hx, back, -, rfl⟩, rfl⟩ := h
    obtain rfl := mem_language_char.1 hx
    exact mem_having_iff.2 (by simp)
  · intro h
    obtain ⟨head, tail, rfl, hhead⟩ := List.eq_append_cons_of_mem (mem_having_iff.1 h)
    have hbefore : head ∈ (many (except [x])).language := by
      apply mem_language_many_oneOf.2
      intro c hc
      have hother : c ≠ x := ne_of_mem_of_not_mem hc hhead
      simp [hother]
    have hbehind : x :: tail ∈ (char x).language * ⊤ :=
      Language.append_mem_mul (mem_language_char.2 rfl) (mem_top tail)
    exact Language.append_mem_mul hbefore hbehind

/-- A stretch up to a character that is not the first is there if the character
comes anywhere behind another one; white space in front of it makes no
difference. -/
theorem upTo_mul_top {x : Char} (hx : Text.isBlank x = false) :
    blanks.language * ((many1 (except [x])).language * ((char x).language * ⊤))
      = (except [x]).language * having x := by
  have hsolid : ∀ c ∈ [x], Text.isBlank c = false := List.forall_mem_singleton.2 hx
  rw [blanks_mul_value hsolid, language_many1, mul_assoc]
  exact congrArg _ (until_mul_top x)

/-- Patterns in order, in front of a language. -/
theorem inOrder_mul (ps : List Pattern) (L : Language Char) :
    (inOrder ps).language * L = ps.foldr (fun p M => p.language * M) L := by
  induction ps with
  | nil => exact one_mul L
  | cons p more ih =>
      rw [language_inOrder, List.map_cons, List.prod_cons, ← language_inOrder, mul_assoc, ih,
        List.foldr_cons]

theorem nameColon_mul (L : Language Char) :
    nameColon.language * L
      = (many1 nameChar).language * (blanks.language * ((char ':').language * L)) :=
  inOrder_mul _ L

theorem wordColon_mul (word : String) (L : Language Char) :
    (wordColon word).language * L
      = (text word).language * (blanks.language * ((char ':').language * L)) :=
  inOrder_mul _ L

-- ================================================== read off in words

/-- White space only. -/
def IsGap (t : List Char) : Prop :=
  ∀ c ∈ t, Text.isBlank c = true

/-- One or more characters of a stylesheet name. -/
def IsName (t : List Char) : Prop :=
  t ≠ [] ∧ ∀ c ∈ t, isNameChar c = true

theorem mem_top_mul_iff : s ∈ ⊤ * L ↔ ∃ front rest, s = front ++ rest ∧ rest ∈ L := by
  rw [Language.mem_mul]
  constructor
  · intro h
    obtain ⟨front, -, rest, hrest, rfl⟩ := h
    exact ⟨front, rest, rfl, hrest⟩
  · intro h
    obtain ⟨front, rest, rfl, hrest⟩ := h
    exact ⟨front, mem_top front, rest, hrest, rfl⟩

theorem mem_oneOf_mul_iff :
    s ∈ (oneOf holds).language * L ↔ ∃ c rest, s = c :: rest ∧ holds c = true ∧ rest ∈ L := by
  rw [Language.mem_mul]
  constructor
  · intro h
    obtain ⟨_, ⟨c, hc, rfl⟩, rest, hrest, rfl⟩ := h
    exact ⟨c, rest, rfl, hc, hrest⟩
  · intro h
    obtain ⟨c, rest, rfl, hc, hrest⟩ := h
    exact ⟨[c], ⟨c, hc, rfl⟩, rest, hrest, rfl⟩

theorem mem_nameChar_mul_iff :
    s ∈ nameChar.language * L ↔ ∃ c rest, s = c :: rest ∧ isNameChar c = true ∧ rest ∈ L :=
  mem_oneOf_mul_iff

theorem mem_char_mul_iff {x : Char} :
    s ∈ (char x).language * L ↔ ∃ rest, s = x :: rest ∧ rest ∈ L := by
  rw [char, mem_oneOf_mul_iff]
  simp

theorem mem_except_mul_iff {listed : List Char} :
    s ∈ (except listed).language * L ↔ ∃ c rest, s = c :: rest ∧ c ∉ listed ∧ rest ∈ L := by
  rw [except, mem_oneOf_mul_iff]
  simp

/-- The stretches of a language with a language behind them. -/
theorem mem_mul_iff {M : Language Char} {good : List Char → Prop}
    (hM : ∀ t, t ∈ M ↔ good t) :
    s ∈ M * L ↔ ∃ t rest, s = t ++ rest ∧ good t ∧ rest ∈ L := by
  rw [Language.mem_mul]
  simp only [hM]
  constructor
  · intro h
    obtain ⟨t, ht, rest, hrest, rfl⟩ := h
    exact ⟨t, rest, rfl, ht, hrest⟩
  · intro h
    obtain ⟨t, rest, rfl, ht, hrest⟩ := h
    exact ⟨t, ht, rest, hrest, rfl⟩

theorem mem_blanks_mul_iff :
    s ∈ blanks.language * L ↔ ∃ gap rest, s = gap ++ rest ∧ IsGap gap ∧ rest ∈ L :=
  mem_mul_iff fun _ => mem_language_blanks

theorem mem_name_mul_iff :
    s ∈ (many1 nameChar).language * L ↔ ∃ name rest, s = name ++ rest ∧ IsName name ∧ rest ∈ L :=
  mem_mul_iff fun _ => mem_language_many1_oneOf

theorem mem_value_mul_iff {listed : List Char} :
    s ∈ (many1 (except listed)).language * L
      ↔ ∃ value rest, s = value ++ rest ∧ (value ≠ [] ∧ ∀ c ∈ value, c ∉ listed) ∧ rest ∈ L := by
  refine mem_mul_iff fun t => ?_
  rw [except, mem_language_many1_oneOf]
  simp

theorem mem_text_mul_iff {word : String} :
    s ∈ (text word).language * L ↔ ∃ rest, s = word.toList ++ rest ∧ rest ∈ L := by
  rw [mem_mul_iff fun _ => mem_language_text]
  simp

/-- A word and a colon, with white space between them at most. -/
theorem occurs_wordColon_iff {word : String} :
    (wordColon word).Occurs s
      ↔ ∃ front gap rest, s = front ++ word.toList ++ gap ++ ':' :: rest ∧ IsGap gap := by
  rw [occurs_iff_mem_around (unanchored_wordColon word), around, wordColon_mul]
  simp only [mem_top_mul_iff, mem_text_mul_iff, mem_blanks_mul_iff, mem_char_mul_iff]
  constructor
  · intro h
    obtain ⟨front, _, rfl, _, rfl, gap, _, rfl, hgap, rest, rfl, -⟩ := h
    exact ⟨front, gap, rest, by simp, hgap⟩
  · intro h
    obtain ⟨front, gap, rest, rfl, hgap⟩ := h
    exact ⟨front, _, by simp only [List.append_assoc], _, rfl, gap, _, rfl, hgap, rest, rfl,
      mem_top rest⟩

/-- White space at the end of a pattern is no condition. -/
theorem occurs_before_blanks_iff (hp : p.Unanchored) :
    (inOrder [p, blanks]).Occurs s ↔ p.Occurs s := by
  have hboth : (inOrder [p, blanks]).Unanchored := by
    apply unanchored_inOrder
    simp only [List.forall_mem_cons, List.not_mem_nil, false_imp_iff, implies_true, and_true]
    exact ⟨hp, rfl⟩
  rw [occurs_iff_mem_around hboth, occurs_iff_mem_around hp, around, inOrder_mul]
  simp only [List.foldr]
  rw [blanks_mul_top, around]

end Marginalia.Pattern
