/-
One pass of elision, taken by itself. A pass reads a text from left to
right and is always in one of four situations: at the end, at a
character other than its mark, at a mark that opens a literal, or at a
mark that opens none. `pass_induction` is the induction along these
situations, and every fact about a pass is proved along it.
-/
import Marginalia.Proofs.Literal.Body

namespace Marginalia.Literal

open Extract

/-- Empties the literals of one sort. -/
def pass (q : Quote) (s : List Char) : List Char :=
  elideDelimited q.delimiter s

theorem elideStrings_eq_passes (s : List Char) :
    elideStrings s = pass .template (pass .double (pass .single s)) := rfl

variable {q : Quote}

-- ============================================================ one step

@[simp]
theorem pass_nil (q : Quote) : pass q [] = [] := by
  rw [pass, elideDelimited]

theorem pass_cons {c : Char} (h : c ≠ q.mark) (s : List Char) :
    pass q (c :: s) = c :: pass q s := by
  rw [pass, elideDelimited, q.delimiter_mark, if_neg h]
  rfl

/-- No literal of the sort ends in the text. -/
def Unclosed (q : Quote) (s : List Char) : Prop :=
  ∀ y rest, Body q y → s ≠ y ++ q.mark :: rest

theorem unclosed_iff {s : List Char} :
    Unclosed q s ↔ afterLiteral? q.delimiter s = none := by
  constructor
  · intro h
    cases hs : afterLiteral? q.delimiter s with
    | none => rfl
    | some rest =>
        obtain ⟨y, hy, hcut⟩ := afterLiteral?_eq_some_iff.1 hs
        exact absurd hcut (h y rest hy)
  · rintro h y rest hy rfl
    rw [afterLiteral?_body hy] at h
    cases h

theorem pass_literal {y : List Char} (h : Body q y) (rest : List Char) :
    pass q (q.mark :: (y ++ q.mark :: rest)) = q.mark :: q.mark :: pass q rest := by
  have hclosed := afterLiteral?_body h rest
  rw [pass, elideDelimited, q.delimiter_mark, if_pos rfl]
  split
  · next r hr =>
    rw [hclosed] at hr
    injection hr with hr
    rw [hr]
    rfl
  · next hr =>
    rw [hclosed] at hr
    cases hr

theorem pass_unclosed {s : List Char} (h : Unclosed q s) :
    pass q (q.mark :: s) = q.mark :: pass q s := by
  have hopen := unclosed_iff.1 h
  rw [pass, elideDelimited, q.delimiter_mark, if_pos rfl]
  split
  · next r hr =>
    rw [hopen] at hr
    cases hr
  · rfl

/-- Induction along a pass. -/
theorem pass_induction {motive : List Char → Prop} (nil : motive [])
    (other : ∀ c s, c ≠ q.mark → motive s → motive (c :: s))
    (literal : ∀ y rest, Body q y → motive rest →
      motive (q.mark :: (y ++ q.mark :: rest)))
    (unclosed : ∀ s, Unclosed q s → motive s → motive (q.mark :: s)) :
    ∀ s, motive s := by
  intro s
  induction hn : s.length using Nat.strongRecOn generalizing s with
  | ind n ih =>
      cases s with
      | nil => exact nil
      | cons c s =>
          rw [List.length_cons] at hn
          by_cases hc : c = q.mark
          · subst hc
            cases hs : afterLiteral? q.delimiter s with
            | none => exact unclosed s (unclosed_iff.2 hs) (ih _ (by omega) s rfl)
            | some rest =>
                obtain ⟨y, hy, rfl⟩ := afterLiteral?_eq_some_iff.1 hs
                rw [List.length_append, List.length_cons] at hn
                exact literal y rest hy (ih _ (by omega) rest rfl)
          · exact other c s hc (ih _ (by omega) s rfl)

-- ====================================================== what is kept

/-- A pass leaves nothing out of a text without its mark. -/
theorem pass_append_of_notMem {s : List Char} (h : q.mark ∉ s) (t : List Char) :
    pass q (s ++ t) = s ++ pass q t := by
  induction s with
  | nil => rfl
  | cons c s ih =>
      obtain ⟨hc, hs⟩ := not_or.1 (mt List.mem_cons.2 h)
      rw [List.cons_append, pass_cons (Ne.symm hc), ih hs, List.cons_append]

theorem pass_of_notMem {s : List Char} (h : q.mark ∉ s) : pass q s = s := by
  have hs := pass_append_of_notMem h []
  rwa [List.append_nil, pass_nil, List.append_nil] at hs

/-- A pass changes nothing about pending backslashes: it takes out whole
bodies, and a body leaves nothing pending. -/
theorem pending_pass (before : Bool) (s : List Char) :
    pending before (pass q s) = pending before s := by
  induction s using pass_induction (q := q) generalizing before with
  | nil => rw [pass_nil]
  | other c s hc ih =>
      rw [pass_cons hc]
      exact ih _
  | literal y rest hy ih =>
      rw [pass_literal hy, pending_mark, pending_mark, ih, pending_mark,
        pending_append, hy.pending, pending_mark]
  | unclosed s hs ih =>
      rw [pass_unclosed hs, pending_mark, pending_mark, ih]

/-- The first character stays first. -/
theorem eq_nil_of_pass_eq_nil {s : List Char} (h : pass q s = []) : s = [] := by
  induction s using pass_induction (q := q) with
  | nil => rfl
  | other c s hc _ => rw [pass_cons hc] at h; cases h
  | literal y rest hy _ => rw [pass_literal hy] at h; cases h
  | unclosed s hs _ => rw [pass_unclosed hs] at h; cases h

theorem head_of_pass {s t : List Char} {c : Char} (h : pass q s = c :: t) :
    ∃ r, s = c :: r := by
  induction s using pass_induction (q := q) with
  | nil => rw [pass_nil] at h; cases h
  | other d s hd _ =>
      rw [pass_cons hd] at h
      rw [(List.cons.inj h).1]
      exact ⟨_, rfl⟩
  | literal y rest hy _ =>
      rw [pass_literal hy] at h
      rw [(List.cons.inj h).1]
      exact ⟨_, rfl⟩
  | unclosed s hs _ =>
      rw [pass_unclosed hs] at h
      rw [(List.cons.inj h).1]
      exact ⟨_, rfl⟩

/-- A pass makes a body of another sort into a body again. The second
half, where a backslash is pending, is for the induction: the two halves
of a unit can fall on either side of a step. -/
theorem body_pass_aux {p : Quote} (hp : p ≠ q) (s : List Char) :
    (Body q s → Body q (pass p s))
      ∧ (Body q ('\\' :: s) → Body q ('\\' :: pass p s)) := by
  have hrest : ∀ {y rest : List Char}, Body p y →
      Body q (y ++ p.mark :: rest) → Body q rest := by
    intro y rest hy h
    exact (h.of_append hy.pending).of_cons_mark
  have hunit : ∀ {c : Char} {r : List Char}, Body q ('\\' :: c :: r) → Body q r := by
    intro c r h
    exact h.of_append (s := ['\\', c]) rfl
  induction s using pass_induction (q := p) with
  | nil =>
      rw [pass_nil]
      exact ⟨id, id⟩
  | other c s hc ih =>
      rw [pass_cons hc]
      constructor
      · intro h
        by_cases hb : c = '\\'
        · subst hb
          exact ih.2 h
        · have hs := h.of_append (s := [c]) (by rw [pending_plain hb]; rfl)
          cases h with
          | escape => exact absurd rfl hb
          | plain _ hmark hline _ => exact .plain hb hmark hline (ih.1 hs)
      · intro h
        exact .escape c (ih.1 (hunit h))
  | literal y rest hy ih =>
      rw [pass_literal hy]
      constructor
      · intro h
        exact .cons_mark hp (.cons_mark hp (ih.1 (hrest hy h.of_cons_mark)))
      · intro h
        exact .escape _ (.cons_mark hp (ih.1 (hrest hy (hunit h))))
  | unclosed s hs ih =>
      rw [pass_unclosed hs]
      constructor
      · intro h
        exact .cons_mark hp (ih.1 h.of_cons_mark)
      · intro h
        exact .escape _ (ih.1 (hunit h))

theorem Body.pass {p : Quote} (hp : p ≠ q) {s : List Char} (h : Body q s) :
    Body q (pass p s) :=
  (body_pass_aux hp s).1 h

end Marginalia.Literal
