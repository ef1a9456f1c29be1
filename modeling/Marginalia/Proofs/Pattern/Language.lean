/-
The language of a pattern. A pattern without anchors looks at nothing but the
characters it passes, so what it reads is told by a set of texts, and the sets
are put together as the patterns are (`Pattern.language`). It occurs in a text
exactly if one of its own texts is a stretch of it (`occurs_iff_language`).

This takes places out of the argument. What a pattern can do without is seen on
its texts: white space at the end, all but one of the repetitions at either end,
and white space in front of characters that may be white space.
-/
import Mathlib.Computability.Language
import Marginalia.Classify.Evidence
import Marginalia.Proofs.Pattern.Context

namespace Marginalia.Pattern

variable {p q : Pattern} {a b : Cursor} {s t : List Char} {holds : Char → Bool}

/-- The texts that a pattern reads. An anchor is no part of a text. -/
def language : Pattern → Language Char
  | .empty => 1
  | .oneOf holds => {t | ∃ c, holds c = true ∧ t = [c]}
  | .sequence p q => p.language * q.language
  | .either p q => p.language + q.language
  | .many p => KStar.kstar p.language
  | .textStart => 0
  | .textEnd => 0
  | .lineStart => 0
  | .lineEnd => 0

-- =========================================================== readings

/-- What has been passed last, over two stretches. -/
theorem getLast?_append_or (u v : List Char) (before : Option Char) :
    (u ++ v).getLast?.or before = v.getLast?.or (u.getLast?.or before) := by
  rw [List.getLast?_append, Option.or_assoc]

/-- A reading without anchors passes a text of the language. -/
theorem Matches.exists_mem_language (h : Matches p a b) (hp : p.Unanchored) :
    ∃ t ∈ p.language, a.rest = t ++ b.rest ∧ b.before = t.getLast?.or a.before := by
  induction h with
  | empty a => exact ⟨[], Language.nil_mem_one, rfl, rfl⟩
  | oneOf hc => exact ⟨[_], ⟨_, hc, rfl⟩, rfl, rfl⟩
  | sequence _ _ ihp ihq =>
      obtain ⟨hp, hq⟩ := List.append_eq_nil_iff.1 hp
      obtain ⟨u, hu, harest, hcbefore⟩ := ihp hp
      obtain ⟨v, hv, hcrest, hbbefore⟩ := ihq hq
      refine ⟨u ++ v, Language.append_mem_mul hu hv, ?_, ?_⟩
      · rw [harest, hcrest, List.append_assoc]
      · rw [hbbefore, hcbefore, getLast?_append_or]
  | left _ ih =>
      obtain ⟨t, ht, hplace⟩ := ih (List.append_eq_nil_iff.1 hp).1
      exact ⟨t, Or.inl ht, hplace⟩
  | right _ ih =>
      obtain ⟨t, ht, hplace⟩ := ih (List.append_eq_nil_iff.1 hp).2
      exact ⟨t, Or.inr ht, hplace⟩
  | none a => exact ⟨[], Language.nil_mem_kstar _, rfl, rfl⟩
  | more _ _ ihp ihm =>
      obtain ⟨u, hu, harest, hcbefore⟩ := ihp hp
      obtain ⟨v, hv, hcrest, hbbefore⟩ := ihm hp
      refine ⟨u ++ v, ?_, ?_, ?_⟩
      · rw [language] at hv ⊢
        obtain ⟨pieces, rfl, hpieces⟩ := Language.mem_kstar.1 hv
        exact Language.mem_kstar.2 ⟨u :: pieces, rfl, List.forall_mem_cons.2 ⟨hu, hpieces⟩⟩
      · rw [harest, hcrest, List.append_assoc]
      · rw [hbbefore, hcbefore, getLast?_append_or]
  | textStart => cases hp
  | textEnd => cases hp
  | lineStart => cases hp
  | lineEnd => cases hp

/-- A text of the language is read wherever it stands. -/
theorem matches_of_mem_language (h : t ∈ p.language) (before : Option Char)
    (rest : List Char) :
    Matches p ⟨before, t ++ rest⟩ ⟨t.getLast?.or before, rest⟩ := by
  induction p generalizing t before rest with
  | empty =>
      obtain rfl := (Language.mem_one t).1 h
      exact .empty _
  | oneOf holds =>
      obtain ⟨c, hc, rfl⟩ := h
      exact .oneOf hc
  | sequence p q ihp ihq =>
      obtain ⟨u, hu, v, hv, rfl⟩ := Language.mem_mul.1 h
      rw [List.append_assoc, getLast?_append_or]
      exact .sequence (ihp hu _ _) (ihq hv _ _)
  | either p q ihp ihq =>
      rcases h with h | h
      · exact .left (ihp h _ _)
      · exact .right (ihq h _ _)
  | many p ih =>
      obtain ⟨pieces, rfl, hpieces⟩ := Language.mem_kstar.1 h
      clear h
      induction pieces generalizing before with
      | nil => exact .none _
      | cons u pieces ihpieces =>
          obtain ⟨hu, hpieces⟩ := List.forall_mem_cons.1 hpieces
          rw [List.flatten_cons, List.append_assoc, getLast?_append_or]
          exact .more (ih hu _ _) (ihpieces _ hpieces)
  | textStart => cases h
  | textEnd => cases h
  | lineStart => cases h
  | lineEnd => cases h

/-- A pattern occurs where one of its texts stands. -/
theorem occurs_iff_language (hp : p.Unanchored) :
    p.Occurs s ↔ ∃ t ∈ p.language, t <:+: s := by
  constructor
  · intro h
    obtain ⟨front, rest, b, rfl, hm⟩ := h
    obtain ⟨t, ht, hrest, -⟩ := hm.exists_mem_language hp
    simp only at hrest
    refine ⟨t, ht, front, b.rest, ?_⟩
    rw [hrest, List.append_assoc]
  · intro h
    obtain ⟨t, ht, front, back, rfl⟩ := h
    refine ⟨front, t ++ back, _, ?_, matches_of_mem_language ht _ back⟩
    rw [List.append_assoc]

-- ==================================================== written patterns

theorem anchors_inOrder (ps : List Pattern) : (inOrder ps).anchors = ps.flatMap anchors := by
  induction ps with
  | nil => rfl
  | cons p more ih =>
      cases more with
      | nil => simp [inOrder]
      | cons q more =>
          rw [List.flatMap_cons, ← ih]
          rfl

theorem unanchored_inOrder {ps : List Pattern} (h : ∀ p ∈ ps, p.Unanchored) :
    (inOrder ps).Unanchored := by
  rw [Unanchored, anchors_inOrder]
  exact List.flatMap_eq_nil_iff.2 h

theorem unanchored_text (w : String) : (text w).Unanchored := by
  apply unanchored_inOrder
  intro p hp
  obtain ⟨c, -, rfl⟩ := List.mem_map.1 hp
  rfl

theorem unanchored_wordColon (w : String) : (wordColon w).Unanchored := by
  apply unanchored_inOrder
  simp only [List.forall_mem_cons, List.not_mem_nil, false_imp_iff, implies_true, and_true]
  exact ⟨unanchored_text w, rfl, rfl⟩

theorem language_inOrder (ps : List Pattern) :
    (inOrder ps).language = (ps.map language).prod := by
  induction ps with
  | nil => rfl
  | cons p more ih =>
      cases more with
      | nil => simp [inOrder]
      | cons q more =>
          rw [List.map_cons, List.prod_cons, ← ih]
          rfl

theorem mem_language_inOrder_nil : t ∈ (inOrder []).language ↔ t = [] :=
  Language.mem_one t

theorem mem_language_inOrder_cons {more : List Pattern} :
    t ∈ (inOrder (p :: more)).language
      ↔ ∃ u ∈ p.language, ∃ v ∈ (inOrder more).language, u ++ v = t := by
  rw [language_inOrder, List.map_cons, List.prod_cons, ← language_inOrder]
  exact Language.mem_mul

theorem mem_language_oneOf : t ∈ (oneOf holds).language ↔ ∃ c, holds c = true ∧ t = [c] :=
  Iff.rfl

@[simp]
theorem mem_language_char {c : Char} : t ∈ (char c).language ↔ t = [c] := by
  simp [char, mem_language_oneOf]

@[simp]
theorem mem_language_text {w : String} : t ∈ (text w).language ↔ t = w.toList := by
  rw [text]
  generalize w.toList = chars
  induction chars generalizing t with
  | nil => exact mem_language_inOrder_nil
  | cons c chars ih =>
      rw [List.map_cons, mem_language_inOrder_cons]
      simp [ih, eq_comm]

/-- Repetitions of a class read the texts of its characters. -/
theorem mem_language_many_oneOf :
    t ∈ (many (.oneOf holds)).language ↔ ∀ c ∈ t, holds c = true := by
  constructor
  · intro h
    obtain ⟨pieces, rfl, hpieces⟩ := Language.mem_kstar.1 h
    intro c hc
    obtain ⟨piece, hpiece, hc⟩ := List.mem_flatten.1 hc
    obtain ⟨d, hd, rfl⟩ := hpieces piece hpiece
    rw [List.mem_singleton.1 hc]
    exact hd
  · intro h
    refine Language.mem_kstar.2 ⟨t.map fun c => [c], ?_, ?_⟩
    · rw [← List.flatMap_def, List.flatMap_singleton']
    · intro piece hpiece
      obtain ⟨c, hc, rfl⟩ := List.mem_map.1 hpiece
      exact ⟨c, h c hc, rfl⟩

theorem mem_language_many1_oneOf :
    t ∈ (many1 (.oneOf holds)).language ↔ t ≠ [] ∧ ∀ c ∈ t, holds c = true := by
  have hcut : t ∈ (many1 (.oneOf holds)).language
      ↔ ∃ u ∈ (oneOf holds).language, ∃ v ∈ (many (.oneOf holds)).language, u ++ v = t :=
    Language.mem_mul
  rw [hcut]
  constructor
  · intro h
    obtain ⟨u, hu, v, hv, rfl⟩ := h
    obtain ⟨c, hc, rfl⟩ := hu
    exact ⟨List.cons_ne_nil c v, List.forall_mem_cons.2 ⟨hc, mem_language_many_oneOf.1 hv⟩⟩
  · intro h
    obtain ⟨hne, hall⟩ := h
    obtain ⟨c, v, rfl⟩ := List.exists_cons_of_ne_nil hne
    obtain ⟨hc, hv⟩ := List.forall_mem_cons.1 hall
    exact ⟨[c], ⟨c, hc, rfl⟩, v, mem_language_many_oneOf.2 hv, rfl⟩

@[simp]
theorem mem_language_blanks : t ∈ blanks.language ↔ ∀ c ∈ t, Text.isBlank c = true :=
  mem_language_many_oneOf

/-- What is read in order holds a text of each of the patterns. -/
theorem exists_infix_of_mem_inOrder {ps : List Pattern} (h : t ∈ (inOrder ps).language)
    (hp : p ∈ ps) : ∃ u ∈ p.language, u <:+: t := by
  induction ps generalizing t with
  | nil => cases hp
  | cons q more ih =>
      obtain ⟨u, hu, v, hv, rfl⟩ := mem_language_inOrder_cons.1 h
      rcases List.mem_cons.1 hp with rfl | hp
      · exact ⟨u, hu, (List.prefix_append u v).isInfix⟩
      · obtain ⟨w, hw, hinfix⟩ := ih hv hp
        exact ⟨w, hw, hinfix.trans (List.suffix_append u v).isInfix⟩

-- ========================================================= occurrences

theorem occurs_text_iff {w : String} : (text w).Occurs s ↔ w.toList <:+: s := by
  rw [occurs_iff_language (unanchored_text w)]
  simp

theorem occurs_either_iff : (either p q).Occurs s ↔ p.Occurs s ∨ q.Occurs s := by
  constructor
  · intro h
    obtain ⟨front, rest, b, hs, hm⟩ := h
    cases hm with
    | left hm => exact Or.inl ⟨front, rest, b, hs, hm⟩
    | right hm => exact Or.inr ⟨front, rest, b, hs, hm⟩
  · intro h
    rcases h with h | h
    · obtain ⟨front, rest, b, hs, hm⟩ := h
      exact ⟨front, rest, b, hs, .left hm⟩
    · obtain ⟨front, rest, b, hs, hm⟩ := h
      exact ⟨front, rest, b, hs, .right hm⟩

theorem occurs_anyOf_iff {first : Pattern} {more : List Pattern} :
    (anyOf first more).Occurs s ↔ ∃ p ∈ first :: more, p.Occurs s := by
  induction more generalizing first with
  | nil => simp [anyOf]
  | cons q more ih => rw [anyOf, occurs_either_iff, ih, List.exists_mem_cons_iff _ first]

theorem occurs_anyText_iff {first : String} {others : List String} :
    (anyText first others).Occurs s ↔ ∃ w ∈ first :: others, w.toList <:+: s := by
  rw [anyText, occurs_anyOf_iff]
  simp [occurs_text_iff]

end Marginalia.Pattern
