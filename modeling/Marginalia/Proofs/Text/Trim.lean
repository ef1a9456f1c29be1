/-
Trimming. Everything that is known about a trim follows from two facts:
white space put around a text does not change its trim, and white space
around it is all that a trim takes away. `trim_eq_iff` puts the two
together: a text is trimmed to another one exactly if it is that one
between stretches of white space. Trimmed itself is a text that neither
begins nor ends with white space (`trim_eq_self_iff`).
-/
import Mathlib.Data.List.DropRight
import Marginalia.Text.Split

namespace Marginalia.Text

variable {l s t r : List Char}

theorem trimStart_blank_append (hl : ∀ c ∈ l, isBlank c = true) (s : List Char) :
    trimStart (l ++ s) = trimStart s :=
  List.dropWhile_append_of_pos hl

theorem trimEnd_append_blank (hr : ∀ c ∈ r, isBlank c = true) (s : List Char) :
    trimEnd (s ++ r) = trimEnd s := by
  have hreversed : ∀ c ∈ r.reverse, isBlank c = true := by
    intro c hc
    exact hr c (List.mem_reverse.1 hc)
  rw [trimEnd, trimEnd, List.reverse_append, List.dropWhile_append_of_pos hreversed]

/-- White space around a text makes no difference to its trim. -/
theorem trim_append_blank (hl : ∀ c ∈ l, isBlank c = true) (hr : ∀ c ∈ r, isBlank c = true) :
    trim (l ++ s ++ r) = trim s := by
  rw [trim, trim, List.append_assoc, trimStart_blank_append hl]
  cases hs : trimStart s with
  | nil =>
      have hblank : ∀ c ∈ s, isBlank c = true := List.dropWhile_eq_nil_iff.1 hs
      have hrest : trimStart r = [] := List.dropWhile_eq_nil_iff.2 hr
      rw [trimStart_blank_append hblank, hrest]
  | cons c u =>
      have hwhole : trimStart (s ++ r) = trimStart s ++ r := by
        rw [trimStart, List.dropWhile_append, ← trimStart, hs]
        rfl
      rw [hwhole, trimEnd_append_blank hr, hs]

/-- What trimming takes away is white space. -/
theorem exists_eq_append_trim (s : List Char) :
    ∃ l r, s = l ++ trim s ++ r ∧ (∀ c ∈ l, isBlank c = true)
      ∧ ∀ c ∈ r, isBlank c = true := by
  have hstart : s = s.takeWhile isBlank ++ trimStart s :=
    List.takeWhile_append_dropWhile.symm
  have hend : trimStart s = trim s ++ (trimStart s).rtakeWhile isBlank :=
    List.rdropWhile_append_rtakeWhile.symm
  refine ⟨s.takeWhile isBlank, (trimStart s).rtakeWhile isBlank, ?_, ?_, ?_⟩
  · rw [List.append_assoc, ← hend, ← hstart]
  · intro c hc
    exact List.mem_takeWhile_imp hc
  · intro c hc
    exact List.mem_rtakeWhile_imp hc

theorem trim_isInfix (s : List Char) : trim s <:+: s := by
  obtain ⟨l, r, hs, -, -⟩ := exists_eq_append_trim s
  exact ⟨l, r, hs.symm⟩

/-- A trimmed text is trimmed already. -/
theorem trim_trim (s : List Char) : trim (trim s) = trim s := by
  obtain ⟨l, r, hs, hl, hr⟩ := exists_eq_append_trim s
  conv => rhs; rw [hs, trim_append_blank hl hr]

theorem trim_eq_iff (ht : trim t = t) :
    trim s = t ↔ ∃ l r, s = l ++ t ++ r ∧ (∀ c ∈ l, isBlank c = true)
      ∧ ∀ c ∈ r, isBlank c = true := by
  constructor
  · rintro rfl
    exact exists_eq_append_trim s
  · rintro ⟨l, r, rfl, hl, hr⟩
    rw [trim_append_blank hl hr, ht]

-- =============================================================== ends

theorem trim_eq_nil_iff : trim s = [] ↔ ∀ c ∈ s, isBlank c = true := by
  rw [trim_eq_iff rfl]
  constructor
  · rintro ⟨l, r, rfl, hl, hr⟩
    rw [List.append_nil, List.forall_mem_append]
    exact ⟨hl, hr⟩
  · intro h
    exact ⟨s, [], by simp, h, by simp⟩

/-- A text is trimmed if there is no white space at its ends, and only then. -/
theorem trim_eq_self_iff :
    trim t = t ↔ t.head?.any isBlank = false ∧ t.getLast?.any isBlank = false := by
  constructor
  · intro h
    -- white space at an end is taken away, and what is left is shorter
    have hshort : ∀ l s r : List Char, t = l ++ s ++ r → (∀ c ∈ l, isBlank c = true) →
        (∀ c ∈ r, isBlank c = true) → t.length ≤ s.length := by
      intro l s r ht hl hr
      rw [← h, ht, trim_append_blank hl hr]
      exact (trim_isInfix s).length_le
    constructor
    · cases hfirst : t.head? with
      | none => rfl
      | some c =>
          obtain ⟨s, rfl⟩ := List.head?_eq_some_iff.1 hfirst
          rw [Option.any_some, Bool.eq_false_iff]
          intro hc
          have hle := hshort [c] s [] (by simp) (by simpa using hc) (by simp)
          rw [List.length_cons] at hle
          omega
    · cases hlast : t.getLast? with
      | none => rfl
      | some c =>
          obtain ⟨s, rfl⟩ := List.getLast?_eq_some_iff.1 hlast
          rw [Option.any_some, Bool.eq_false_iff]
          intro hc
          have hle := hshort [] s [c] (by simp) (by simp) (by simpa using hc)
          rw [List.length_append, List.length_singleton] at hle
          omega
  · rintro ⟨hfirst, hlast⟩
    obtain ⟨l, r, ht, hl, hr⟩ := exists_eq_append_trim t
    cases l with
    | cons c l =>
        rw [ht] at hfirst
        simp [hl c] at hfirst
    | nil =>
        cases r using List.reverseRecOn with
        | nil => simpa using ht.symm
        | append_singleton r c =>
            rw [ht] at hlast
            simp [hr c] at hlast

/-- Two trimmed texts are a trimmed text, whatever stands between them. -/
theorem trim_append_append (hs : s ≠ []) (ht : t ≠ []) (hstrim : trim s = s)
    (httrim : trim t = t) (m : List Char) : trim (s ++ m ++ t) = s ++ m ++ t := by
  rw [trim_eq_self_iff] at hstrim httrim ⊢
  rw [List.getLast?_append_of_ne_nil _ ht, List.append_assoc, List.head?_append_of_ne_nil _ hs]
  exact ⟨hstrim.1, httrim.2⟩

end Marginalia.Text
