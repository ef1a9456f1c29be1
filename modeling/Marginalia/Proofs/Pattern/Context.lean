/-
Patterns in a longer text. A reading passes the same characters wherever
they stand; what can change when a text is put between others is only what
an anchor sees. A place of the inner text is a place of the longer one with
other neighbours (`Cursor.within`), and a reading carries over as soon as
each of the pattern's anchors does (`Matches.within`).

Three uses of it. A pattern without anchors occurs wherever the text is put.
Anchors for lines hold as before where whole lines are put around a text. The
anchor for the start of the text does not; but a pattern that begins there
and goes on with white space still occurs when nothing but white space has
been put in front.
-/
import Marginalia.Proofs.Pattern.Matching

namespace Marginalia

/-- A condition on a place, which passes no character. -/
inductive Anchor where
  | textStart
  | textEnd
  | lineStart
  | lineEnd
deriving DecidableEq, Repr

/-- Whether the condition holds at a place. -/
def Anchor.Holds (c : Cursor) : Anchor → Prop
  | textStart => c.before = none
  | textEnd => c.rest = []
  | lineStart => c.atLineStart = true
  | lineEnd => c.atLineEnd = true

/-- A place of a text as a place of the text between `front` and `back`. -/
def Cursor.within (front back : List Char) (c : Cursor) : Cursor :=
  ⟨c.before.or front.getLast?, c.rest ++ back⟩

namespace Pattern

/-- The anchors in a pattern. -/
def anchors : Pattern → List Anchor
  | .empty => []
  | .oneOf _ => []
  | .sequence p q => p.anchors ++ q.anchors
  | .either p q => p.anchors ++ q.anchors
  | .many p => p.anchors
  | .textStart => [Anchor.textStart]
  | .textEnd => [Anchor.textEnd]
  | .lineStart => [Anchor.lineStart]
  | .lineEnd => [Anchor.lineEnd]

variable {p q : Pattern} {a b : Cursor} {s front back : List Char}

/-- Whether every anchor of a pattern that holds in a text holds as well
when the text stands between `front` and `back`. -/
def Keeps (p : Pattern) (front back : List Char) : Prop :=
  ∀ x ∈ p.anchors, ∀ c : Cursor, x.Holds c → x.Holds (c.within front back)

/-- A reading is one in the longer text if its anchors hold there. -/
theorem Matches.within (h : Matches p a b) (hkeeps : p.Keeps front back) :
    Matches p (a.within front back) (b.within front back) := by
  induction h with
  | empty => exact .empty _
  | oneOf hc => exact .oneOf hc
  | sequence _ _ ihp ihq =>
      refine .sequence (ihp fun x hx => ?_) (ihq fun x hx => ?_)
      · exact hkeeps x (List.mem_append_left _ hx)
      · exact hkeeps x (List.mem_append_right _ hx)
  | left _ ih => exact .left (ih fun x hx => hkeeps x (List.mem_append_left _ hx))
  | right _ ih => exact .right (ih fun x hx => hkeeps x (List.mem_append_right _ hx))
  | none => exact .none _
  | more _ _ ihp ihm => exact .more (ihp hkeeps) (ihm hkeeps)
  | textStart ha => exact .textStart (hkeeps .textStart List.mem_cons_self _ ha)
  | textEnd ha => exact .textEnd (hkeeps .textEnd List.mem_cons_self _ ha)
  | lineStart ha => exact .lineStart (hkeeps .lineStart List.mem_cons_self _ ha)
  | lineEnd ha => exact .lineEnd (hkeeps .lineEnd List.mem_cons_self _ ha)

theorem within_getLast? (front back before rest : List Char) :
    (⟨before.getLast?, rest⟩ : Cursor).within front back
      = ⟨(front ++ before).getLast?, rest ++ back⟩ := by
  rw [Cursor.within, List.getLast?_append]

theorem Occurs.within (h : p.Occurs s) (hkeeps : p.Keeps front back) :
    p.Occurs (front ++ s ++ back) := by
  obtain ⟨before, rest, b, rfl, hm⟩ := h
  have hwithin := hm.within hkeeps
  rw [within_getLast?] at hwithin
  refine ⟨front ++ before, rest ++ back, _, ?_, hwithin⟩
  simp only [List.append_assoc]

-- ======================================================== no anchors

/-- Whether a pattern looks at nothing but the characters it passes. -/
def Unanchored (p : Pattern) : Prop :=
  p.anchors = []

instance (p : Pattern) : Decidable p.Unanchored :=
  inferInstanceAs (Decidable (p.anchors = []))

/-- A pattern without anchors occurs whatever is put around a text. -/
theorem Occurs.embedded (h : p.Occurs s) (hp : p.Unanchored) (front back : List Char) :
    p.Occurs (front ++ s ++ back) := by
  apply h.within
  intro x hx
  unfold Unanchored at hp
  rw [hp] at hx
  cases hx

-- ============================================================= lines

/-- Whether a pattern looks at no more than the line it is in. -/
def LineAnchored (p : Pattern) : Prop :=
  ∀ x ∈ p.anchors, x = .lineStart ∨ x = .lineEnd

instance (p : Pattern) : Decidable p.LineAnchored :=
  List.decidableBAll _ _

/-- Lines stay lines where other lines are put around them. -/
theorem LineAnchored.keeps (h : p.LineAnchored) (hfront : front.getLast? = some '\n')
    (hback : back.head? = some '\n') : p.Keeps front back := by
  intro x hx c hc
  rcases h x hx with rfl | rfl
  · show (c.within front back).atLineStart = true
    rw [atLineStart_iff]
    intro d hd
    rcases Option.or_eq_some_iff.1 hd with hbefore | ⟨-, hlast⟩
    · exact atLineStart_iff.1 hc d hbefore
    · exact Option.some.inj (hlast.symm.trans hfront)
  · show (c.within front back).atLineEnd = true
    rw [atLineEnd_iff, Cursor.within, List.head?_append]
    intro d hd
    rcases Option.or_eq_some_iff.1 hd with hnext | ⟨-, hnext⟩
    · exact atLineEnd_iff.1 hc d hnext
    · exact Option.some.inj (hnext.symm.trans hback)

/-- A pattern for lines occurs among other lines. -/
theorem Occurs.among_lines (h : p.Occurs s) (hp : p.LineAnchored) (pre post : List Char) :
    p.Occurs ((pre ++ ['\n']) ++ s ++ '\n' :: post) := by
  refine h.within (hp.keeps ?_ rfl)
  rw [List.getLast?_concat]

-- ======================================================= white space

/-- A reading from the start of the text on, over white space. -/
theorem occurs_start_blanks_iff :
    (inOrder [.textStart, blanks, q]).Occurs s
      ↔ ∃ white rest b, s = white ++ rest ∧ (∀ c ∈ white, Text.isBlank c = true)
          ∧ Matches q ⟨white.getLast?, rest⟩ b := by
  constructor
  · rintro ⟨before, rest, b, rfl, hm⟩
    simp only [matches_inOrder_cons_iff, matches_inOrder_nil_iff, matches_textStart_iff,
      matches_blanks_iff] at hm
    obtain ⟨_, ⟨hbefore, rfl⟩, _, ⟨white, rest, rfl, hwhite, rfl⟩, b, hq, rfl⟩ := hm
    obtain rfl := List.getLast?_eq_none_iff.1 hbefore
    rw [List.getLast?_nil, Option.or_none] at hq
    exact ⟨white, rest, b, rfl, hwhite, hq⟩
  · rintro ⟨white, rest, b, rfl, hwhite, hq⟩
    refine ⟨[], white ++ rest, b, rfl, .sequence (.textStart rfl) (.sequence ?_ hq)⟩
    refine matches_blanks_iff.2 ⟨white, rest, rfl, hwhite, ?_⟩
    rw [List.getLast?_nil, Option.or_none]

/-- What begins a text after white space still does so after more of it. -/
theorem occurs_after_blanks (hq : q.Keeps front back)
    (hfront : ∀ c ∈ front, Text.isBlank c = true)
    (h : (inOrder [.textStart, blanks, q]).Occurs s) :
    (inOrder [.textStart, blanks, q]).Occurs (front ++ s ++ back) := by
  obtain ⟨white, rest, b, rfl, hwhite, hm⟩ := occurs_start_blanks_iff.1 h
  have hwithin := hm.within hq
  rw [within_getLast?] at hwithin
  refine occurs_start_blanks_iff.2 ⟨front ++ white, rest ++ back, _, ?_, ?_, hwithin⟩
  · simp only [List.append_assoc]
  · intro c hc
    rcases List.mem_append.1 hc with hc | hc
    · exact hfront c hc
    · exact hwhite c hc

end Pattern

end Marginalia
