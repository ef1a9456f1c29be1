/-
Characters a pattern cannot do without. Whether a pattern needs a sort of
character is read off its form: a class needs what all of its characters
are, one part of a sequence is enough, and both sides of a choice have to.
A repetition and an anchor need nothing, since they can be read without
passing any character.

Where a text has no character of the sort, no pattern that needs one occurs
(`Occurs.exists_of_needs`). That rules out whole tables of patterns with no
look at where in the text they could stand.
-/
import Marginalia.Proofs.Pattern.Matching

namespace Marginalia.Pattern

variable {p q : Pattern} {a b : Cursor} {s : List Char} {sort : Char → Bool}

/-- Whether the pattern has a part for characters of the sort that no
reading can leave out. -/
def Needs (sort : Char → Bool) : Pattern → Prop
  | .oneOf holds => ∀ c, holds c = true → sort c = true
  | .sequence p q => p.Needs sort ∨ q.Needs sort
  | .either p q => p.Needs sort ∧ q.Needs sort
  | _ => False

/-- Every reading passes what the pattern needs. -/
theorem Matches.exists_of_needs (h : Matches p a b) (hp : p.Needs sort) :
    ∃ c ∈ a.rest, sort c = true := by
  induction h with
  | oneOf hc => exact ⟨_, List.mem_cons_self, hp _ hc⟩
  | sequence hm _ ihp ihq =>
      rcases hp with hp | hq
      · exact ihp hp
      · obtain ⟨c, hc, hsort⟩ := ihq hq
        exact ⟨c, hm.rest_suffix.subset hc, hsort⟩
  | left _ ih => exact ih hp.1
  | right _ ih => exact ih hp.2
  | _ => cases hp

/-- What a pattern needs is in every text in which it occurs. -/
theorem Occurs.exists_of_needs (h : p.Occurs s) (hp : p.Needs sort) :
    ∃ c ∈ s, sort c = true := by
  obtain ⟨front, rest, b, rfl, hm⟩ := h
  obtain ⟨c, hc, hsort⟩ := hm.exists_of_needs hp
  exact ⟨c, List.mem_append_right front hc, hsort⟩

-- ================================================= written patterns

-- For the characters of a text and of a list these say `any` and `all`:
-- what is asked of a character there can be evaluated.

@[simp]
theorem needs_char {c : Char} : (char c).Needs sort ↔ sort c = true := by
  simp [char, Needs]

@[simp]
theorem needs_among {listed : List Char} :
    (among listed).Needs sort ↔ listed.all sort = true := by
  simp [among, Needs]

@[simp]
theorem needs_inOrder {ps : List Pattern} :
    (inOrder ps).Needs sort ↔ ∃ p ∈ ps, p.Needs sort := by
  induction ps with
  | nil => simp [inOrder, Needs]
  | cons p more ih =>
      cases more with
      | nil => simp [inOrder]
      | cons q more =>
          show p.Needs sort ∨ (inOrder (q :: more)).Needs sort ↔ _
          rw [ih, List.exists_mem_cons_iff _ p]

@[simp]
theorem needs_anyOf {first : Pattern} {more : List Pattern} :
    (anyOf first more).Needs sort ↔ ∀ p ∈ first :: more, p.Needs sort := by
  induction more generalizing first with
  | nil => simp [anyOf]
  | cons q more ih => rw [anyOf, Needs, ih, List.forall_mem_cons (a := first)]

@[simp]
theorem needs_text {t : String} : (text t).Needs sort ↔ t.toList.any sort = true := by
  simp [text]

@[simp]
theorem needs_anyText {first : String} {others : List String} :
    (anyText first others).Needs sort
      ↔ ∀ t ∈ first :: others, t.toList.any sort = true := by
  simp [anyText]

@[simp]
theorem needs_many1 : (many1 p).Needs sort ↔ p.Needs sort := by
  simp [many1, Needs]

@[simp]
theorem needs_times_succ {n : Nat} : (times (n + 1) p).Needs sort ↔ p.Needs sort := by
  induction n with
  | zero => simp [times, Needs]
  | succ n ih => rw [times, Needs, ih, or_self]

end Marginalia.Pattern
