/-
First occurrences. `splitFirst` is the one function that looks for a
separator; this file says what it finds in terms of infixes, so that no
later proof opens it.

# Straddling

A cut between `head` and `tail` is at the first occurrence exactly when
the separator does not occur in `head` followed by all of the separator
but its last character (`splitFirst_eq_some_iff`). The extra characters
are the point: an occurrence that begins in `head` may end in the
separator itself, and looking through `head` alone would miss it.
`splitFirst_append_iff` is the same fact for a text that has been put
together from a head, a separator and a tail.
-/
import Mathlib.Data.List.Infix
import Marginalia.Text.Split

namespace Marginalia.Text

-- ======================================================= beginnings

theorem dropHead?_eq_none_iff {head s : List Char} :
    dropHead? head s = none ↔ ¬ head <+: s := by
  constructor
  · intro h hpre
    obtain ⟨tail, htail⟩ := hpre
    rw [dropHead?_eq_some.2 htail.symm] at h
    cases h
  · intro h
    cases hd : dropHead? head s with
    | none => rfl
    | some tail => exact absurd ⟨tail, (dropHead?_eq_some.1 hd).symm⟩ h

/-- A text that goes on with the separator is cut right there. -/
theorem splitFirst_sep_append {sep s tail : List Char} (hsep : sep ≠ [])
    (h : s = sep ++ tail) : splitFirst sep s = some ([], tail) := by
  cases s with
  | nil => exact absurd (List.append_eq_nil_iff.1 h.symm).1 hsep
  | cons c r => rw [splitFirst, dropHead?_eq_some.2 h]

/-- A text that does not go on with the separator is cut in what follows
its first character. -/
theorem splitFirst_cons {sep : List Char} {c : Char} {r : List Char}
    (h : ¬ sep <+: c :: r) :
    splitFirst sep (c :: r)
      = (splitFirst sep r).map fun (head, tail) => (c :: head, tail) := by
  rw [splitFirst, dropHead?_eq_none_iff.2 h]

-- ====================================================== occurrences

theorem splitFirst_eq_none_iff {sep s : List Char} :
    splitFirst sep s = none ↔ ¬ sep <:+: s := by
  induction s with
  | nil =>
      rw [splitFirst]
      by_cases h : sep = []
      · simp [h]
      · simp [h]
  | cons c r ih =>
      rw [List.infix_cons_iff]
      by_cases h : sep <+: c :: r
      · obtain ⟨tail, htail⟩ := h
        rw [splitFirst, dropHead?_eq_some.2 htail.symm]
        simp [← htail]
      · rw [splitFirst_cons h, Option.map_eq_none_iff, ih]
        simp [h]

/-- A separator is not found where one of its characters is missing. -/
theorem splitFirst_eq_none_of_notMem {sep s : List Char} {c : Char} (hc : c ∈ sep)
    (h : c ∉ s) : splitFirst sep s = none := by
  rw [splitFirst_eq_none_iff]
  intro hsub
  exact h (hsub.subset hc)

/-- The cut of a text put together around a separator is at that
separator, unless an occurrence begins earlier: in the head, and maybe
reaching into the separator. -/
theorem splitFirst_append_iff {sep head tail : List Char} (hsep : sep ≠ []) :
    splitFirst sep (head ++ sep ++ tail) = some (head, tail)
      ↔ ¬ sep <:+: head ++ sep.dropLast := by
  induction head with
  | nil =>
      have hlen : sep.dropLast.length < sep.length := by
        have := List.length_pos_iff.2 hsep
        rw [List.length_dropLast]
        omega
      constructor
      · intro _ hin
        have := hin.length_le
        simp only [List.nil_append] at this
        omega
      · intro _
        exact splitFirst_sep_append hsep (by simp)
  | cons c head ih =>
      -- the first character either begins an occurrence or can be put aside
      have hshort : sep <+: c :: (head ++ sep.dropLast)
          ↔ sep <+: c :: (head ++ sep ++ tail) := by
        have hext : c :: (head ++ sep.dropLast) <+: c :: (head ++ sep ++ tail) := by
          rw [List.append_assoc, List.cons_prefix_cons]
          refine ⟨rfl, (List.prefix_append_right_inj head).2 ?_⟩
          exact (List.dropLast_prefix sep).trans (List.prefix_append sep tail)
        constructor
        · intro h
          exact h.trans hext
        · intro h
          refine List.prefix_of_prefix_length_le h hext ?_
          simp only [List.length_cons, List.length_append, List.length_dropLast]
          omega
      simp only [List.cons_append]
      rw [List.infix_cons_iff, hshort]
      by_cases h : sep <+: c :: (head ++ sep ++ tail)
      · obtain ⟨rest, hrest⟩ := id h
        rw [splitFirst_sep_append hsep hrest.symm]
        simp only [h, true_or, not_true_eq_false, iff_false]
        intro he
        cases he
      · rw [splitFirst_cons h, Option.map_eq_some_iff]
        simp only [h, false_or, ← ih]
        constructor
        · rintro ⟨⟨a, b⟩, hab, he⟩
          simp only [Prod.mk.injEq, List.cons.injEq, true_and] at he
          rw [hab, he.1, he.2]
        · intro hcut
          exact ⟨(head, tail), hcut, rfl⟩

theorem splitFirst_eq_some_iff {sep s head tail : List Char} (hsep : sep ≠ []) :
    splitFirst sep s = some (head, tail)
      ↔ s = head ++ sep ++ tail ∧ ¬ sep <:+: head ++ sep.dropLast := by
  constructor
  · intro h
    have hs := eq_of_splitFirst h
    rw [hs, splitFirst_append_iff hsep] at h
    exact ⟨hs, h⟩
  · rintro ⟨rfl, h⟩
    exact (splitFirst_append_iff hsep).2 h

/-- What comes after a text does not move its first cut. -/
theorem splitFirst_append {sep s head tail : List Char} (hsep : sep ≠ [])
    (h : splitFirst sep s = some (head, tail)) (after : List Char) :
    splitFirst sep (s ++ after) = some (head, tail ++ after) := by
  obtain ⟨rfl, hfirst⟩ := (splitFirst_eq_some_iff hsep).1 h
  rw [List.append_assoc, splitFirst_append_iff hsep]
  exact hfirst

-- ==================================================== short separators

/-- A single character is found where it stands first. -/
theorem splitFirst_singleton {c : Char} {head : List Char} (h : c ∉ head)
    (tail : List Char) : splitFirst [c] (head ++ c :: tail) = some (head, tail) := by
  have hfirst : ¬ [c] <:+: head ++ [c].dropLast := by
    rw [List.dropLast_singleton, List.append_nil]
    intro hin
    exact h (hin.subset List.mem_cons_self)
  have hcut : splitFirst [c] (head ++ [c] ++ tail) = some (head, tail) :=
    (splitFirst_append_iff (List.cons_ne_nil c [])).2 hfirst
  rwa [List.append_assoc] at hcut

/-- Two different marks cannot straddle a place where only the first of
them is added. -/
theorem pair_infix_concat_iff {a b : Char} (hab : a ≠ b) {s : List Char} :
    [a, b] <:+: s ++ [a] ↔ [a, b] <:+: s := by
  rw [List.infix_concat_iff]
  constructor
  · rintro (⟨front, hfront⟩ | h)
    · have hlast := congrArg List.getLast? hfront
      rw [show front ++ [a, b] = (front ++ [a]) ++ [b] by simp, List.getLast?_concat,
        List.getLast?_concat, Option.some.injEq] at hlast
      exact absurd hlast.symm hab
    · exact h
  · exact Or.inr

/-- With two different marks for a separator, the first cut is the one
with no separator in its head. -/
theorem splitFirst_pair_iff {a b : Char} (hab : a ≠ b) {s head tail : List Char} :
    splitFirst [a, b] s = some (head, tail)
      ↔ s = head ++ [a, b] ++ tail ∧ ¬ [a, b] <:+: head := by
  have hinfix : [a, b] <:+: head ++ [a, b].dropLast ↔ [a, b] <:+: head :=
    pair_infix_concat_iff hab
  rw [splitFirst_eq_some_iff (List.cons_ne_nil a [b]), hinfix]

-- =============================================================== ends

@[simp]
theorem dropHead?_append (head tail : List Char) :
    dropHead? head (head ++ tail) = some tail :=
  dropHead?_eq_some.2 rfl

@[simp]
theorem dropTail?_append (head tail : List Char) :
    dropTail? tail (head ++ tail) = some head := by
  rw [dropTail?, List.reverse_append, dropHead?_append, Option.map_some,
    List.reverse_reverse]

-- ============================================================= pieces

/-- Cutting at a character is the library's own splitting. -/
theorem splitOnChar_eq_splitOn (sep : Char) (s : List Char) :
    splitOnChar sep s = s.splitOn sep := by
  induction s with
  | nil => rw [splitOnChar, List.splitOn_nil]
  | cons c s ih =>
      rw [splitOnChar, List.splitOn_cons_eq_if_modifyHead, ih]
      by_cases hc : c = sep
      · rw [if_pos hc, if_pos (beq_iff_eq.2 hc)]
      · rw [if_neg hc, if_neg (by simpa using hc)]
        cases hs : s.splitOn sep with
        | nil => exact absurd hs (List.splitOn_ne_nil sep s)
        | cons first more => rfl

theorem splitOnChar_append_cons (sep : Char) (s t : List Char) :
    splitOnChar sep (s ++ sep :: t) = splitOnChar sep s ++ splitOnChar sep t := by
  simp only [splitOnChar_eq_splitOn]
  exact List.splitOn_append_cons_self s t

theorem splitOnChar_of_notMem {sep : Char} {s : List Char} (h : sep ∉ s) :
    splitOnChar sep s = [s] := by
  rw [splitOnChar_eq_splitOn, List.splitOn_eq_singleton h]

/-- And so is putting pieces together. -/
theorem joinWith_eq_intercalate (sep : List Char) (pieces : List (List Char)) :
    joinWith sep pieces = sep.intercalate pieces := by
  induction pieces with
  | nil => rfl
  | cons piece more ih =>
      cases more with
      | nil => rw [joinWith, List.intercalate_singleton]
      | cons second more =>
          rw [joinWith, ih, List.intercalate_cons_cons]
          exact List.cons_ne_nil second more

theorem sep_notMem_of_mem_splitOnChar {sep : Char} {s piece : List Char}
    (hpiece : piece ∈ splitOnChar sep s) : sep ∉ piece := by
  induction s generalizing piece with
  | nil =>
      rw [splitOnChar, List.mem_singleton] at hpiece
      rw [hpiece]
      exact List.not_mem_nil
  | cons c s ih =>
      rw [splitOnChar] at hpiece
      split at hpiece
      · rcases List.mem_cons.1 hpiece with rfl | hpiece
        · exact List.not_mem_nil
        · exact ih hpiece
      · next hc =>
        have hfirst : ∀ {first : List Char}, sep ∉ first → sep ∉ c :: first := by
          intro first hfirst
          exact List.not_mem_cons_of_ne_of_not_mem (Ne.symm hc) hfirst
        split at hpiece
        · rw [List.mem_singleton.1 hpiece]
          exact hfirst List.not_mem_nil
        · next first more hs =>
          rw [hs] at ih
          rcases List.mem_cons.1 hpiece with rfl | hpiece
          · exact hfirst (ih List.mem_cons_self)
          · exact ih (List.mem_cons_of_mem first hpiece)

/-- Apart from the separator, pieces put together have the characters of
the pieces. -/
theorem mem_intercalate_iff {c sep : Char} (hsep : c ≠ sep) {pieces : List (List Char)} :
    c ∈ [sep].intercalate pieces ↔ ∃ piece ∈ pieces, c ∈ piece := by
  induction pieces with
  | nil => simp
  | cons piece more ih =>
      cases more with
      | nil => simp
      | cons second more =>
          rw [List.intercalate_cons_cons, List.mem_append, List.mem_append,
            List.mem_singleton, or_iff_left hsep, ih, List.exists_mem_cons_iff _ piece]

theorem mem_of_mem_splitOnChar {sep c : Char} {s piece : List Char}
    (hpiece : piece ∈ splitOnChar sep s) (hc : c ∈ piece) : c ∈ s := by
  have hsep : c ≠ sep := by
    rintro rfl
    exact sep_notMem_of_mem_splitOnChar hpiece hc
  have hwhole : [sep].intercalate (splitOnChar sep s) = s := by
    rw [splitOnChar_eq_splitOn, List.intercalate_splitOn]
  rw [← hwhole]
  exact (mem_intercalate_iff hsep).2 ⟨piece, hpiece, hc⟩

-- ============================================= where pieces stand

/-- Two stretches that each end in the separator, if at all, do so
together. -/
theorem getLast?_append_eq {sep : Char} {s t : List Char} (hs : ∀ c ∈ s.getLast?, c = sep)
    (ht : ∀ c ∈ t.getLast?, c = sep) : ∀ c ∈ (s ++ t).getLast?, c = sep := by
  intro c hc
  rw [List.getLast?_append, Option.mem_def, Option.or_eq_some_iff] at hc
  rcases hc with hc | ⟨-, hc⟩
  · exact ht c hc
  · exact hs c hc

/-- The same for their beginnings. -/
theorem head?_append_eq {sep : Char} {s t : List Char} (hs : ∀ c ∈ s.head?, c = sep)
    (ht : ∀ c ∈ t.head?, c = sep) : ∀ c ∈ (s ++ t).head?, c = sep := by
  intro c hc
  rw [List.head?_append, Option.mem_def, Option.or_eq_some_iff] at hc
  rcases hc with hc | ⟨-, hc⟩
  · exact hs c hc
  · exact ht c hc

/-- A piece is a stretch without the separator that has it, or an end of
the text, on both sides. -/
theorem mem_splitOnChar_iff {sep : Char} {s piece : List Char} :
    piece ∈ splitOnChar sep s
      ↔ sep ∉ piece ∧ ∃ front back, s = front ++ piece ++ back
          ∧ (∀ c ∈ front.getLast?, c = sep) ∧ ∀ c ∈ back.head?, c = sep := by
  constructor
  · intro hpiece
    refine ⟨sep_notMem_of_mem_splitOnChar hpiece, ?_⟩
    rw [splitOnChar_eq_splitOn] at hpiece
    -- on the length: what follows the first separator is cut in its turn
    induction hn : s.length using Nat.strongRecOn generalizing s with
    | ind n ih =>
    by_cases hsep : sep ∈ s
    · obtain ⟨first, more, rfl, hfirst⟩ := List.eq_append_cons_of_mem hsep
      rw [List.splitOn_append_cons_self_of_not_mem hfirst] at hpiece
      rcases List.mem_cons.1 hpiece with rfl | hpiece
      · exact ⟨[], sep :: more, rfl, by simp, by simp⟩
      · have hshorter : more.length < n := by
          rw [← hn, List.length_append, List.length_cons]
          omega
        obtain ⟨front, back, rfl, hfront, hback⟩ := ih more.length hshorter hpiece rfl
        refine ⟨(first ++ [sep]) ++ front, back, ?_, ?_, hback⟩
        · simp only [List.append_assoc, List.cons_append, List.nil_append]
        · exact getLast?_append_eq (by simp) hfront
    · rw [List.splitOn_eq_singleton hsep, List.mem_singleton] at hpiece
      subst hpiece
      exact ⟨[], [], by simp, by simp, by simp⟩
  · rintro ⟨hnone, front, back, rfl, hfront, hback⟩
    rw [splitOnChar_eq_splitOn, List.append_assoc]
    have hfirst : piece ∈ (piece ++ back).splitOn sep := by
      cases back with
      | nil =>
          rw [List.append_nil, List.splitOn_eq_singleton hnone]
          exact List.mem_cons_self
      | cons c back =>
          obtain rfl := hback c rfl
          rw [List.splitOn_append_cons_self_of_not_mem hnone]
          exact List.mem_cons_self
    cases hlast : front.getLast? with
    | none =>
        obtain rfl := List.getLast?_eq_none_iff.1 hlast
        exact hfirst
    | some c =>
        obtain ⟨front, rfl⟩ := List.getLast?_eq_some_iff.1 hlast
        obtain rfl := hfront c hlast
        rw [List.append_assoc, List.singleton_append, List.splitOn_append_cons_self]
        exact List.mem_append_right _ hfirst

/-- A text is cut right before the first separator in it. -/
theorem exists_cut_first (sep : Char) (s : List Char) :
    ∃ head tail, s = head ++ tail ∧ sep ∉ head ∧ ∀ c ∈ tail.head?, c = sep := by
  by_cases hsep : sep ∈ s
  · obtain ⟨head, tail, rfl, hhead⟩ := List.eq_append_cons_of_mem hsep
    exact ⟨head, sep :: tail, rfl, hhead, by simp⟩
  · exact ⟨s, [], by simp, hsep, by simp⟩

/-- A text with a separator is cut at the last one. -/
theorem exists_cut_at_last {sep : Char} {s : List Char} (hsep : sep ∈ s) :
    ∃ head tail, s = head ++ sep :: tail ∧ sep ∉ tail := by
  obtain ⟨tail, head, hs, htail⟩ := List.eq_append_cons_of_mem (List.mem_reverse.2 hsep)
  refine ⟨head.reverse, tail.reverse, ?_, ?_⟩
  · rw [← List.reverse_reverse s, hs]
    simp
  · rwa [List.mem_reverse]

/-- A text is cut right after the last separator in it. -/
theorem exists_cut_last (sep : Char) (s : List Char) :
    ∃ head tail, s = head ++ tail ∧ (∀ c ∈ head.getLast?, c = sep) ∧ sep ∉ tail := by
  obtain ⟨tail, head, hs, htail, hhead⟩ := exists_cut_first sep s.reverse
  refine ⟨head.reverse, tail.reverse, ?_, ?_, ?_⟩
  · rw [← List.reverse_append, ← hs, List.reverse_reverse]
  · rwa [List.getLast?_reverse]
  · rwa [List.mem_reverse]

end Marginalia.Text
