/-
What is taken out of a text is an occurrence. `Pattern.reach` follows one
reading among several, and the order in which it tries them is not needed
here: it ends where some reading ends (`matches_of_reach`), and it fails only
where there is none (`isSome_reach`, by comparison with the search that only
tells whether there is an occurrence). So the removal of a pattern leaves
out a stretch that the pattern reads, or it leaves the text as it is because
the pattern does not occur (`remove_cases`).
-/
import Marginalia.Pattern.Removal
import Marginalia.Proofs.Pattern.Matching

namespace Marginalia.Pattern

variable {p : Pattern} {a b c : Cursor} {next : Cursor → Option Cursor}

-- ======================================================== the search

theorem matches_of_repeatedMost {step : (Cursor → Option Cursor) → Cursor → Option Cursor}
    (hstep : ∀ {next a c}, step next a = some c → ∃ b, Matches p a b ∧ next b = some c)
    {fuel : Nat} (h : repeatedMost step next fuel a = some c) :
    ∃ b, Matches (.many p) a b ∧ next b = some c := by
  induction fuel generalizing a with
  | zero => exact ⟨a, .none a, h⟩
  | succ fuel ih =>
      rw [repeatedMost, Option.or_eq_some_iff] at h
      rcases h with h | ⟨-, h⟩
      · obtain ⟨d, hp, hd⟩ := hstep h
        obtain ⟨b, hm, hb⟩ := ih hd
        exact ⟨b, .more hp hm, hb⟩
      · exact ⟨a, .none a, h⟩

/-- The place that is reached is one that a reading leads to. -/
theorem matches_of_reach (h : p.reach next a = some c) :
    ∃ b, Matches p a b ∧ next b = some c := by
  induction p generalizing next a c with
  | empty => exact ⟨a, .empty a, h⟩
  | oneOf holds =>
      obtain ⟨before, rest⟩ := a
      cases rest with
      | nil => cases h
      | cons d rest =>
          obtain ⟨hd, hc⟩ := Option.ite_none_right_eq_some.1 h
          exact ⟨_, .oneOf hd, hc⟩
  | sequence p q ihp ihq =>
      obtain ⟨d, hp, hd⟩ := ihp h
      obtain ⟨b, hq, hb⟩ := ihq hd
      exact ⟨b, .sequence hp hq, hb⟩
  | either p q ihp ihq =>
      rw [reach, Option.or_eq_some_iff] at h
      rcases h with h | ⟨-, h⟩
      · obtain ⟨b, hp, hb⟩ := ihp h
        exact ⟨b, .left hp, hb⟩
      · obtain ⟨b, hq, hb⟩ := ihq h
        exact ⟨b, .right hq, hb⟩
  | many p ih => exact matches_of_repeatedMost ih h
  | textStart =>
      obtain ⟨ha, hc⟩ := Option.ite_none_right_eq_some.1 h
      exact ⟨a, .textStart (Option.isNone_iff_eq_none.1 ha), hc⟩
  | textEnd =>
      obtain ⟨ha, hc⟩ := Option.ite_none_right_eq_some.1 h
      exact ⟨a, .textEnd (List.isEmpty_iff.1 ha), hc⟩
  | lineStart =>
      obtain ⟨ha, hc⟩ := Option.ite_none_right_eq_some.1 h
      exact ⟨a, .lineStart ha, hc⟩
  | lineEnd =>
      obtain ⟨ha, hc⟩ := Option.ite_none_right_eq_some.1 h
      exact ⟨a, .lineEnd ha, hc⟩

theorem isSome_repeatedMost {step : (Cursor → Option Cursor) → Cursor → Option Cursor}
    {test : (Cursor → Bool) → Cursor → Bool}
    (hstep : ∀ next a, (step next a).isSome = test (fun b => (next b).isSome) a)
    (next : Cursor → Option Cursor) (fuel : Nat) (a : Cursor) :
    (repeatedMost step next fuel a).isSome
      = repeated test (fun b => (next b).isSome) fuel a := by
  induction fuel generalizing a with
  | zero => rfl
  | succ fuel ih =>
      rw [repeatedMost, repeated, Option.isSome_or, hstep, Bool.or_comm]
      simp only [ih]

/-- A place is reached exactly where the search finds a reading. -/
theorem isSome_reach (p : Pattern) (next : Cursor → Option Cursor) (a : Cursor) :
    (p.reach next a).isSome = p.accepts (fun b => (next b).isSome) a := by
  induction p generalizing next a with
  | empty => rfl
  | oneOf holds =>
      obtain ⟨before, rest⟩ := a
      cases rest with
      | nil => rfl
      | cons d rest =>
          rw [reach, accepts]
          cases hd : holds d with
          | false => simp [hd]
          | true => simp [hd]
  | sequence p q ihp ihq =>
      rw [reach, accepts, ihp]
      simp only [ihq]
  | either p q ihp ihq => rw [reach, accepts, Option.isSome_or, ihp, ihq]
  | many p ih => exact isSome_repeatedMost ih next _ a
  | textStart =>
      rw [reach, accepts]
      cases a.before.isNone <;> rfl
  | textEnd =>
      rw [reach, accepts]
      cases a.rest.isEmpty <;> rfl
  | lineStart =>
      rw [reach, accepts]
      cases a.atLineStart <;> rfl
  | lineEnd =>
      rw [reach, accepts]
      cases a.atLineEnd <;> rfl

theorem not_matches_of_reach_eq_none (h : p.reach some a = none) (b : Cursor) :
    ¬ Matches p a b := by
  intro hm
  have haccepts : p.accepts (fun b => (some b).isSome) a = true :=
    (accepts_iff p _ a).2 ⟨b, hm, rfl⟩
  rw [← isSome_reach, h] at haccepts
  cases haccepts

-- ========================================================= the removal

theorem removeFrom_cases (p : Pattern) (before : Option Char) (s : List Char) :
    ((¬ ∃ front rest b, s = front ++ rest ∧ Matches p ⟨front.getLast?.or before, rest⟩ b)
        ∧ p.removeFrom before s = s)
      ∨ ∃ front rest b, s = front ++ rest ∧ Matches p ⟨front.getLast?.or before, rest⟩ b
          ∧ p.removeFrom before s = front ++ b.rest := by
  induction s generalizing before with
  | nil =>
      by_cases hocc : ∃ b, Matches p ⟨before, []⟩ b
      · obtain ⟨b, hm⟩ := hocc
        refine Or.inr ⟨[], [], b, rfl, hm, ?_⟩
        rw [removeFrom, List.eq_nil_of_suffix_nil hm.rest_suffix]
        rfl
      · refine Or.inl ⟨?_, rfl⟩
        rintro ⟨front, rest, b, hs, hm⟩
        obtain ⟨rfl, rfl⟩ := List.append_eq_nil_iff.1 hs.symm
        exact hocc ⟨b, hm⟩
  | cons d s ih =>
      rw [removeFrom]
      cases hreach : p.reach some ⟨before, d :: s⟩ with
      | some b =>
          obtain ⟨b', hm, hb⟩ := matches_of_reach hreach
          injection hb with hb
          subst hb
          exact Or.inr ⟨[], d :: s, b', rfl, hm, rfl⟩
      | none =>
          rcases ih (some d) with ⟨hnone, hsame⟩ | ⟨front, rest, b, rfl, hm, hcut⟩
          · refine Or.inl ⟨?_, congrArg (d :: ·) hsame⟩
            rintro ⟨front, rest, b, hs, hm⟩
            cases front with
            | nil =>
                rw [List.nil_append] at hs
                subst hs
                exact not_matches_of_reach_eq_none hreach b hm
            | cons e front =>
                injection hs with he hs
                rw [getLast?_cons_or, ← he] at hm
                exact hnone ⟨front, rest, b, hs, hm⟩
          · refine Or.inr ⟨d :: front, rest, b, rfl, ?_, congrArg (d :: ·) hcut⟩
            rwa [getLast?_cons_or]

/-- Removing a pattern leaves out what some occurrence of it reads, and
changes nothing only if there is no occurrence. -/
theorem remove_cases (p : Pattern) (s : List Char) :
    (¬ p.Occurs s ∧ p.remove s = s)
      ∨ ∃ front rest b, s = front ++ rest ∧ Matches p ⟨front.getLast?, rest⟩ b
          ∧ p.remove s = front ++ b.rest := by
  have h := removeFrom_cases p none s
  simp only [Option.or_none] at h
  exact h

-- ===================================================== fixed characters

/-- Given characters are read one by one, before whatever comes after
them. -/
theorem matches_chars_iff {chars : List Char} {more : List Pattern} :
    Matches (inOrder (chars.map char ++ more)) a b
      ↔ ∃ rest, a.rest = chars ++ rest
          ∧ Matches (inOrder more) ⟨chars.getLast?.or a.before, rest⟩ b := by
  induction chars generalizing a with
  | nil => simp
  | cons d chars ih =>
      rw [List.map_cons, List.cons_append, matches_inOrder_cons_iff]
      constructor
      · rintro ⟨e, hd, hrest⟩
        obtain ⟨f, rest, ha, hf, rfl⟩ := matches_oneOf_iff.1 hd
        obtain rfl := beq_iff_eq.1 hf
        obtain ⟨tail, rfl, hmore⟩ := ih.1 hrest
        refine ⟨tail, ha, ?_⟩
        rwa [getLast?_cons_or]
      · rintro ⟨tail, ha, hmore⟩
        rw [getLast?_cons_or] at hmore
        have hd : Matches (char d) a ⟨some d, chars ++ tail⟩ :=
          matches_oneOf_iff.2 ⟨d, chars ++ tail, ha, beq_self_eq_true d, rfl⟩
        exact ⟨_, hd, ih.2 ⟨tail, rfl, hmore⟩⟩

end Marginalia.Pattern
