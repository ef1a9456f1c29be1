/-
What stands between the marks of a string literal. A body is read in
units: a backslash together with the character after it, or any other
single character. The mark of the literal, and for the quotes a line
feed, may stand in a body only as the second half of a unit.

# Pending backslashes

Whether a character is the second half of a unit depends on everything
before it, but only through one bit (`pending`): whether the text so far
ends in a backslash that still waits for its character. The bit is what
two readings of the same text have to agree on, and it gives a body its
two properties:

- a body ends with nothing pending (`Body.pending`), so that the mark
  after it is a unit of its own;
- wherever the mark stands in a body, a backslash is pending
  (`Body.pending_mark`), and so the character before it is that
  backslash.

The function that looks for the end of a literal finds exactly the
bodies (`afterLiteral?_eq_some_iff`).
-/
import Mathlib.Data.List.Induction
import Marginalia.Extract.Literal

namespace Marginalia.Literal

open Extract

/-- The sorts of string literals. -/
inductive Quote where
  | single
  | double
  | template
deriving DecidableEq, Repr

namespace Quote

/-- How literals of a sort are delimited. -/
def delimiter : Quote → Delimiter
  | single => singleQuoted
  | double => doubleQuoted
  | template => Extract.template

/-- The mark at both ends of a literal. -/
def mark (q : Quote) : Char :=
  q.delimiter.mark

theorem delimiter_mark (q : Quote) : q.delimiter.mark = q.mark := rfl

theorem mark_inj {p q : Quote} : p.mark = q.mark ↔ p = q := by
  cases p <;> cases q <;> decide

theorem mark_ne_backslash (q : Quote) : q.mark ≠ '\\' := by
  cases q <;> decide

theorem mark_ne_newline (q : Quote) : q.mark ≠ '\n' := by
  cases q <;> decide

end Quote

/-- The texts that may stand between the marks of a literal. -/
inductive Body (q : Quote) : List Char → Prop
  | nil : Body q []
  /-- A backslash takes any character along. -/
  | escape (c : Char) {r : List Char} : Body q r → Body q ('\\' :: c :: r)
  /-- Any other character, unless it would end the literal or may not
  stand in it. -/
  | plain {c : Char} {r : List Char} : c ≠ '\\' → c ≠ q.mark →
      (c = '\n' → q.delimiter.spansLines = true) → Body q r → Body q (c :: r)

-- ================================================ pending backslashes

/-- Whether a backslash waits for its character after a text, given
whether one did before. -/
def pending (before : Bool) : List Char → Bool
  | [] => before
  | c :: r => pending (!before && c == '\\') r

theorem pending_append (before : Bool) (s t : List Char) :
    pending before (s ++ t) = pending (pending before s) t := by
  induction s generalizing before with
  | nil => rfl
  | cons c s ih => exact ih _

/-- After a mark nothing is pending. -/
theorem pending_mark (before : Bool) (q : Quote) (s : List Char) :
    pending before (q.mark :: s) = pending false s := by
  have h : (q.mark == '\\') = false := by
    simpa using q.mark_ne_backslash
  rw [pending, h, Bool.and_false]

theorem pending_escape (c : Char) (s : List Char) :
    pending false ('\\' :: c :: s) = pending false s := rfl

theorem pending_plain {c : Char} (h : c ≠ '\\') (s : List Char) :
    pending false (c :: s) = pending false s := by
  have h : (c == '\\') = false := by simpa using h
  rw [pending, h, Bool.and_false]

/-- What leaves a backslash pending ends with one. -/
theorem getLast?_of_pending {s : List Char} (h : pending false s = true) :
    s.getLast? = some '\\' := by
  induction s using List.reverseRecOn with
  | nil => cases h
  | append_singleton s c _ =>
      rw [pending_append] at h
      rw [List.getLast?_concat]
      cases hs : pending false s with
      | true => rw [hs] at h; cases h
      | false =>
          rw [hs] at h
          simpa [pending] using h

-- ============================================================= bodies

namespace Body

variable {q : Quote} {s t : List Char}

theorem pending (h : Body q s) : pending false s = false := by
  induction h with
  | nil => rfl
  | escape c _ ih => rw [pending_escape, ih]
  | plain hc _ _ _ ih => rw [pending_plain hc, ih]

/-- What follows some whole units of a body is a body. -/
theorem of_append (h : Body q (s ++ t)) (hs : Literal.pending false s = false) :
    Body q t := by
  generalize hb : s ++ t = b at h
  induction h generalizing s with
  | nil =>
      rw [(List.append_eq_nil_iff.1 hb).2]
      exact .nil
  | escape c hr ih =>
      rcases s with - | ⟨d, - | ⟨e, s⟩⟩
      · rw [List.nil_append] at hb
        rw [hb]
        exact .escape c hr
      · rw [(List.cons.inj hb).1] at hs
        cases hs
      · simp only [List.cons_append, List.cons.injEq] at hb
        obtain ⟨rfl, rfl, hb⟩ := hb
        rw [pending_escape] at hs
        exact ih hs hb
  | plain hc hmark hline hr ih =>
      rcases s with - | ⟨d, s⟩
      · rw [List.nil_append] at hb
        rw [hb]
        exact .plain hc hmark hline hr
      · simp only [List.cons_append, List.cons.injEq] at hb
        obtain ⟨rfl, hb⟩ := hb
        rw [pending_plain hc] at hs
        exact ih hs hb

theorem not_cons_self : ¬ Body q (q.mark :: s) := by
  intro h
  generalize hb : q.mark :: s = b at h
  cases h with
  | nil => cases hb
  | escape c _ => exact q.mark_ne_backslash (List.cons.inj hb).1
  | plain _ hmark _ _ => exact hmark (List.cons.inj hb).1.symm

/-- Inside a body the mark is always escaped: as the beginning of a unit
it could not stand there. -/
theorem pending_mark (h : Body q (s ++ q.mark :: t)) : Literal.pending false s = true := by
  cases hs : Literal.pending false s with
  | true => rfl
  | false => exact absurd (h.of_append hs) not_cons_self

/-- The mark of another sort is an ordinary character. -/
theorem cons_mark {p : Quote} (hp : p ≠ q) (h : Body q s) : Body q (p.mark :: s) :=
  .plain p.mark_ne_backslash (fun he => hp (Quote.mark_inj.1 he))
    (fun he => absurd he p.mark_ne_newline) h

/-- What follows an unescaped mark of another sort is a body. -/
theorem of_cons_mark {p : Quote} (h : Body q (p.mark :: s)) : Body q s := by
  generalize hb : p.mark :: s = b at h
  cases h with
  | nil => cases hb
  | escape c _ => exact absurd (List.cons.inj hb).1 p.mark_ne_backslash
  | plain _ _ _ hr =>
      rw [(List.cons.inj hb).2]
      exact hr

end Body

-- =================================================== the end of a literal

theorem afterLiteral?_body {q : Quote} {y : List Char} (h : Body q y)
    (rest : List Char) :
    afterLiteral? q.delimiter (y ++ q.mark :: rest) = some rest := by
  induction h with
  | nil =>
      cases rest with
      | nil => exact if_pos rfl
      | cons e r =>
          rw [List.nil_append, afterLiteral?, if_neg q.mark_ne_backslash]
          exact if_pos rfl
  | @escape c r _ ih =>
      rw [List.cons_append, List.cons_append, afterLiteral?, if_pos rfl, ih]
  | @plain c r hc hmark hline _ ih =>
      have hcons : ∃ e more, r ++ q.mark :: rest = e :: more := by
        cases r with
        | nil => exact ⟨_, _, rfl⟩
        | cons e more => exact ⟨_, _, rfl⟩
      obtain ⟨e, more, hmore⟩ := hcons
      have hstop : ¬ (c = '\n' && !q.delimiter.spansLines) = true := by
        intro hstop
        simp only [Bool.and_eq_true, decide_eq_true_eq, Bool.not_eq_true'] at hstop
        rw [hline hstop.1] at hstop
        cases hstop.2
      rw [List.cons_append, hmore, afterLiteral?, if_neg hc, q.delimiter_mark,
        if_neg hmark, if_neg hstop, ← hmore, ih]

theorem body_of_afterLiteral? {q : Quote} {s rest : List Char}
    (h : afterLiteral? q.delimiter s = some rest) :
    ∃ y, Body q y ∧ s = y ++ q.mark :: rest := by
  fun_induction afterLiteral? q.delimiter s with
  | case1 => cases h
  | case2 =>
      injection h with h
      exact ⟨[], .nil, by rw [← h]; rfl⟩
  | case3 => cases h
  | case4 e r ih =>
      obtain ⟨y, hy, hr⟩ := ih h
      exact ⟨'\\' :: e :: y, .escape e hy, by rw [hr]; rfl⟩
  | case5 =>
      injection h with h
      exact ⟨[], .nil, by rw [← h]; rfl⟩
  | case6 => cases h
  | case7 c e r hc hmark hstop ih =>
      obtain ⟨y, hy, hr⟩ := ih h
      refine ⟨c :: y, .plain hc hmark ?_ hy, by rw [hr]; rfl⟩
      intro hline
      simpa [hline] using hstop

/-- A literal ends after a body and a mark, and nowhere else. -/
theorem afterLiteral?_eq_some_iff {q : Quote} {s rest : List Char} :
    afterLiteral? q.delimiter s = some rest
      ↔ ∃ y, Body q y ∧ s = y ++ q.mark :: rest := by
  constructor
  · exact body_of_afterLiteral?
  · rintro ⟨y, hy, rfl⟩
    exact afterLiteral?_body hy rest

/-- A body is what a literal ends after, when nothing follows. -/
theorem body_iff {q : Quote} {b : List Char} :
    Body q b ↔ afterLiteral? q.delimiter (b ++ [q.mark]) = some [] := by
  rw [afterLiteral?_eq_some_iff]
  constructor
  · intro h
    exact ⟨b, h, rfl⟩
  · rintro ⟨y, hy, hcut⟩
    rwa [List.append_cancel_right hcut]

instance (q : Quote) (b : List Char) : Decidable (Body q b) :=
  decidable_of_iff _ body_iff.symm

end Marginalia.Literal
