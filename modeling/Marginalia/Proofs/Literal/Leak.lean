/-
Passes over texts in two parts. A pass treats the parts one after the
other unless it *leaks*: a mark in the first part opens no literal
there, but finds its partner in the second part (`leaks`,
`pass_append`).

# Reading a pass backwards

What a pass leaves out cannot be told from its result, but where it did
not leave anything out can. A character other than the mark was there
before (`of_pass_eq_append`). Two marks in a row are what is left of a
literal, for a mark that opens none would have opened one with the mark
after it (`of_pass_eq_marks`). And a cut of the result at the mark of
another sort comes from a cut of the source, across which the pass did
not leak (`of_pass_eq_body`): a pass that leaks takes such a mark away.
-/
import Marginalia.Proofs.Literal.Pass

namespace Marginalia.Literal

open Extract

/-- Whether a pass through a text that goes on with `after` finds a mark
in the text whose partner is in `after`. -/
def leaks (q : Quote) (after : List Char) : List Char → Bool
  | [] => false
  | c :: r =>
    if c = q.mark then
      match _closed : afterLiteral? q.delimiter r with
      | some rest => leaks q after rest
      | none => (afterLiteral? q.delimiter (r ++ after)).isSome || leaks q after r
    else leaks q after r
termination_by s => s.length
decreasing_by
  all_goals first
    | have shorter := length_afterLiteral? _closed
      simp
      omega
    | simp

variable {q k : Quote} {s t after : List Char}

-- ============================================================ one step

@[simp]
theorem leaks_nil (q : Quote) (after : List Char) : leaks q after [] = false := by
  rw [leaks]

theorem leaks_cons {c : Char} (h : c ≠ q.mark) :
    leaks q after (c :: s) = leaks q after s := by
  rw [leaks, if_neg h]

theorem leaks_literal {y : List Char} (h : Body q y) :
    leaks q after (q.mark :: (y ++ q.mark :: s)) = leaks q after s := by
  have hclosed := afterLiteral?_body h s
  rw [leaks, if_pos rfl]
  split
  · next r hr =>
    rw [hclosed] at hr
    injection hr with hr
    rw [hr]
  · next hr =>
    rw [hclosed] at hr
    cases hr

theorem leaks_unclosed (h : Unclosed q s) :
    leaks q after (q.mark :: s) = false
      ↔ Unclosed q (s ++ after) ∧ leaks q after s = false := by
  have hopen := unclosed_iff.1 h
  rw [leaks, if_pos rfl, unclosed_iff]
  split
  · next r hr =>
    rw [hopen] at hr
    cases hr
  · rw [Bool.or_eq_false_iff, Option.isSome_eq_false_iff, Option.isNone_iff_eq_none]

/-- Where the mark does not stand, nothing leaks. -/
theorem leaks_of_notMem (h : q.mark ∉ s) : leaks q after s = false := by
  induction s with
  | nil => exact leaks_nil q after
  | cons c s ih =>
      obtain ⟨hc, hs⟩ := not_or.1 (mt List.mem_cons.2 h)
      rw [leaks_cons (Ne.symm hc), ih hs]

-- ============================================================ forwards

/-- A pass that does not leak treats the parts one after the other. -/
theorem pass_append (h : leaks q after s = false) :
    pass q (s ++ after) = pass q s ++ pass q after := by
  induction s using pass_induction (q := q) with
  | nil => rw [pass_nil, List.nil_append, List.nil_append]
  | other c s hc ih =>
      rw [leaks_cons hc] at h
      rw [List.cons_append, pass_cons hc, pass_cons hc, ih h, List.cons_append]
  | literal y rest hy ih =>
      rw [leaks_literal hy] at h
      rw [List.cons_append, List.append_assoc, List.cons_append, pass_literal hy,
        pass_literal hy, ih h, List.cons_append, List.cons_append]
  | unclosed s hs ih =>
      obtain ⟨hopen, hrest⟩ := (leaks_unclosed hs).1 h
      rw [List.cons_append, pass_unclosed hopen, pass_unclosed hs, ih hrest,
        List.cons_append]

-- =========================================================== backwards

theorem of_pass_eq_cons {c : Char} (hc : c ≠ q.mark) (h : pass q s = c :: t) :
    ∃ r, s = c :: r ∧ pass q r = t := by
  obtain ⟨r, rfl⟩ := head_of_pass h
  rw [pass_cons hc] at h
  exact ⟨r, rfl, (List.cons.inj h).2⟩

theorem of_pass_eq_append {u : List Char} (hu : q.mark ∉ u) (h : pass q s = u ++ t) :
    ∃ r, s = u ++ r ∧ pass q r = t := by
  induction u generalizing s with
  | nil => exact ⟨s, rfl, h⟩
  | cons c u ih =>
      obtain ⟨hc, hu⟩ := not_or.1 (mt List.mem_cons.2 hu)
      obtain ⟨s', rfl, hs⟩ := of_pass_eq_cons (Ne.symm hc) h
      obtain ⟨r, rfl, hr⟩ := ih hu hs
      exact ⟨r, rfl, hr⟩

theorem of_pass_eq_marks (h : pass q s = q.mark :: q.mark :: t) :
    ∃ y rest, Body q y ∧ s = q.mark :: (y ++ q.mark :: rest) ∧ pass q rest = t := by
  induction s using pass_induction (q := q) with
  | nil =>
      rw [pass_nil] at h
      cases h
  | other c s hc _ =>
      rw [pass_cons hc] at h
      exact absurd (List.cons.inj h).1 hc
  | literal y rest hy _ =>
      rw [pass_literal hy] at h
      exact ⟨y, rest, hy, rfl, (List.cons.inj (List.cons.inj h).2).2⟩
  | unclosed s hs _ =>
      -- the second mark would close the first
      rw [pass_unclosed hs] at h
      obtain ⟨r, hr⟩ := head_of_pass (List.cons.inj h).2
      exact absurd hr (hs [] r .nil)

theorem of_pass_eq_body {b : List Char} (hk : k ≠ q)
    (h : pass q s = b ++ k.mark :: t) :
    ∃ b' r, s = b' ++ k.mark :: r ∧ pass q b' = b
      ∧ leaks q (k.mark :: r) b' = false ∧ pass q r = t := by
  have hmark : k.mark ≠ q.mark := fun he => hk (Quote.mark_inj.1 he)
  induction s using pass_induction (q := q) generalizing b with
  | nil =>
      rw [pass_nil] at h
      exact absurd h (by simp)
  | other c s hc ih =>
      rw [pass_cons hc] at h
      cases b with
      | nil =>
          obtain ⟨hck, hs⟩ := List.cons.inj h
          exact ⟨[], s, by rw [hck]; rfl, pass_nil q, leaks_nil _ _, hs⟩
      | cons d b =>
          obtain ⟨rfl, hs⟩ := List.cons.inj h
          obtain ⟨b', r, rfl, hb, hleak, hr⟩ := ih hs
          exact ⟨c :: b', r, rfl, by rw [pass_cons hc, hb],
            by rw [leaks_cons hc, hleak], hr⟩
  | literal y rest hy ih =>
      rw [pass_literal hy] at h
      rcases b with - | ⟨d, - | ⟨e, b⟩⟩
      · exact absurd (List.cons.inj h).1.symm hmark
      · exact absurd (List.cons.inj (List.cons.inj h).2).1.symm hmark
      · simp only [List.cons_append, List.cons.injEq] at h
        obtain ⟨rfl, rfl, hs⟩ := h
        obtain ⟨b', r, rfl, hb, hleak, hr⟩ := ih hs
        refine ⟨q.mark :: (y ++ q.mark :: b'), r, ?_, ?_, ?_, hr⟩
        · simp only [List.cons_append, List.append_assoc]
        · rw [pass_literal hy, hb]
        · rw [leaks_literal hy, hleak]
  | unclosed s hs ih =>
      rw [pass_unclosed hs] at h
      cases b with
      | nil => exact absurd (List.cons.inj h).1.symm hmark
      | cons d b =>
          simp only [List.cons_append, List.cons.injEq] at h
          obtain ⟨rfl, h⟩ := h
          obtain ⟨b', r, rfl, hb, hleak, hr⟩ := ih h
          have hopen : Unclosed q b' := by
            rintro y rest hy rfl
            exact hs y (rest ++ k.mark :: r) hy (by simp)
          exact ⟨q.mark :: b', r, rfl, by rw [pass_unclosed hopen, hb],
            (leaks_unclosed hopen).2 ⟨hs, hleak⟩, hr⟩

end Marginalia.Literal
