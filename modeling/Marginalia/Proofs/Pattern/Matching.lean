/-
Patterns do what they mean. `Pattern.occursIn` looks for an occurrence by
reading and backing up, with a bound on repetitions; `Pattern.Occurs` says
what an occurrence is, by the relation `Matches` and with no bound at all.
`occursIn_iff` says that the two agree for every pattern and every text,
so that what is judged about a text by its patterns can be stated without
the search.

# Repetitions

The search tries a repetition at most once for each character ahead. That
is enough because a reading moves forward (`Matches.rest_suffix`), and one
that does not move at all ends where it began (`Matches.eq_of_length_eq`)
and can be left out.
-/
import Mathlib.Data.List.Infix
import Marginalia.Pattern

namespace Marginalia.Pattern

variable {p q : Pattern} {a b : Cursor} {holds : Char → Bool}

/-- An occurrence of the pattern: it reads a stretch of the text from some
place on. -/
def Occurs (p : Pattern) (s : List Char) : Prop :=
  ∃ front rest b, s = front ++ rest ∧ Matches p ⟨front.getLast?, rest⟩ b

-- ========================================================= readings

/-- Induction along the repetitions in a reading, from the last one
back. -/
theorem many_induction {motive : Cursor → Prop} (stop : motive b)
    (more : ∀ a c, Matches p a c → motive c → motive a)
    (h : Matches (.many p) a b) : motive a := by
  generalize hm : Pattern.many p = m at h
  induction h with
  | none => exact stop
  | more hp _ _ ih =>
      injection hm with hm
      subst hm
      exact more _ _ hp (ih stop rfl)
  | _ => cases hm

/-- A reading moves forward. -/
theorem Matches.rest_suffix (h : Matches p a b) : b.rest <:+ a.rest := by
  induction h with
  | oneOf => exact List.suffix_cons _ _
  | sequence _ _ ihp ihq => exact ihq.trans ihp
  | left _ ih => exact ih
  | right _ ih => exact ih
  | more _ _ ihp ihm => exact ihm.trans ihp
  | _ => exact List.suffix_refl _

/-- A reading that passes no character stays where it is. -/
theorem Matches.eq_of_length_eq (h : Matches p a b) (hlen : b.rest.length = a.rest.length) :
    b = a := by
  induction h with
  | oneOf => simp at hlen
  | sequence hp hq ihp ihq =>
      have := hp.rest_suffix.length_le
      have := hq.rest_suffix.length_le
      rw [ihq (by omega), ihp (by omega)]
  | left _ ih => exact ih hlen
  | right _ ih => exact ih hlen
  | more hp hm ihp ihm =>
      have := hp.rest_suffix.length_le
      have := hm.rest_suffix.length_le
      rw [ihm (by omega), ihp (by omega)]
  | _ => rfl

-- ================================================ parts of a reading

theorem matches_oneOf_iff :
    Matches (.oneOf holds) a b
      ↔ ∃ c rest, a.rest = c :: rest ∧ holds c = true ∧ b = ⟨some c, rest⟩ := by
  obtain ⟨before, rest⟩ := a
  constructor
  · intro h
    cases h with
    | oneOf hc => exact ⟨_, _, rfl, hc, rfl⟩
  · rintro ⟨c, rest, rfl, hc, rfl⟩
    exact .oneOf hc

theorem matches_inOrder_nil_iff : Matches (inOrder []) a b ↔ b = a := by
  constructor
  · intro h
    cases h with
    | empty => rfl
  · rintro rfl
    exact .empty b

/-- Patterns in order are read one after the other. -/
theorem matches_inOrder_cons_iff {more : List Pattern} :
    Matches (inOrder (p :: more)) a b
      ↔ ∃ c, Matches p a c ∧ Matches (inOrder more) c b := by
  cases more with
  | nil =>
      constructor
      · intro hp
        exact ⟨b, hp, .empty b⟩
      · rintro ⟨c, hp, hrest⟩
        rw [matches_inOrder_nil_iff.1 hrest]
        exact hp
  | cons q more =>
      constructor
      · intro h
        cases h with
        | sequence hp hmore => exact ⟨_, hp, hmore⟩
      · rintro ⟨c, hp, hmore⟩
        exact .sequence hp hmore

theorem matches_inOrder_append_iff {ps qs : List Pattern} :
    Matches (inOrder (ps ++ qs)) a b
      ↔ ∃ c, Matches (inOrder ps) a c ∧ Matches (inOrder qs) c b := by
  induction ps generalizing a with
  | nil => simp [matches_inOrder_nil_iff]
  | cons p more ih =>
      simp only [List.cons_append, matches_inOrder_cons_iff, ih]
      constructor
      · intro h
        obtain ⟨d, hp, c, hmore, hqs⟩ := h
        exact ⟨c, ⟨d, hp, hmore⟩, hqs⟩
      · intro h
        obtain ⟨c, ⟨d, hp, hmore⟩, hqs⟩ := h
        exact ⟨d, hp, c, hmore, hqs⟩

theorem matches_textStart_iff : Matches .textStart a b ↔ a.before = none ∧ b = a := by
  constructor
  · intro h
    cases h with
    | textStart ha => exact ⟨ha, rfl⟩
  · rintro ⟨ha, rfl⟩
    exact .textStart ha

theorem atLineStart_iff : a.atLineStart = true ↔ ∀ c ∈ a.before, c = '\n' := by
  rw [Cursor.atLineStart]
  cases a.before with
  | none => simp
  | some c => simp

theorem atLineEnd_iff : a.atLineEnd = true ↔ ∀ c ∈ a.rest.head?, c = '\n' := by
  rw [Cursor.atLineEnd]
  cases a.rest with
  | nil => simp
  | cons c rest => simp

theorem matches_lineStart_iff :
    Matches .lineStart a b ↔ (∀ c ∈ a.before, c = '\n') ∧ b = a := by
  rw [← atLineStart_iff]
  constructor
  · intro h
    cases h with
    | lineStart ha => exact ⟨ha, rfl⟩
  · rintro ⟨ha, rfl⟩
    exact .lineStart ha

theorem matches_lineEnd_iff :
    Matches .lineEnd a b ↔ (∀ c ∈ a.rest.head?, c = '\n') ∧ b = a := by
  rw [← atLineEnd_iff]
  constructor
  · intro h
    cases h with
    | lineEnd ha => exact ⟨ha, rfl⟩
  · rintro ⟨ha, rfl⟩
    exact .lineEnd ha

-- ======================================================= the search

/-- What a step that tells readings of `p` apart makes of repetitions. -/
theorem repeated_iff {step : (Cursor → Bool) → Cursor → Bool}
    (hstep : ∀ accept a, step accept a = true ↔ ∃ b, Matches p a b ∧ accept b = true)
    {accept : Cursor → Bool} {fuel : Nat} (hfuel : a.rest.length ≤ fuel) :
    repeated step accept fuel a = true
      ↔ ∃ b, Matches (.many p) a b ∧ accept b = true := by
  constructor
  · clear hfuel
    intro h
    induction fuel generalizing a with
    | zero => exact ⟨a, .none a, h⟩
    | succ fuel ih =>
        rw [repeated, Bool.or_eq_true] at h
        rcases h with h | h
        · exact ⟨a, .none a, h⟩
        · obtain ⟨c, hp, hc⟩ := (hstep _ _).1 h
          obtain ⟨b, hm, hb⟩ := ih hc
          exact ⟨b, .more hp hm, hb⟩
  · rintro ⟨b, hm, hb⟩
    refine many_induction
      (motive := fun a => ∀ fuel, a.rest.length ≤ fuel → repeated step accept fuel a = true)
      ?_ ?_ hm fuel hfuel
    · intro fuel _
      cases fuel with
      | zero => exact hb
      | succ fuel => rw [repeated, hb, Bool.true_or]
    · intro a c hp ih fuel hfuel
      have hle := hp.rest_suffix.length_le
      by_cases hlen : c.rest.length = a.rest.length
      · -- the repetition reads nothing and is left out
        rw [← hp.eq_of_length_eq hlen]
        exact ih fuel (by omega)
      · cases fuel with
        | zero => omega
        | succ fuel =>
            have hmore := (hstep (repeated step accept fuel) a).2 ⟨c, hp, ih fuel (by omega)⟩
            rw [repeated, hmore, Bool.or_true]

/-- The search from one place on finds exactly the readings from there. -/
theorem accepts_iff (p : Pattern) (accept : Cursor → Bool) (a : Cursor) :
    p.accepts accept a = true ↔ ∃ b, Matches p a b ∧ accept b = true := by
  induction p generalizing accept a with
  | empty =>
      constructor
      · intro h
        exact ⟨a, .empty a, h⟩
      · rintro ⟨b, ⟨⟩, hb⟩
        exact hb
  | oneOf holds =>
      obtain ⟨before, rest⟩ := a
      cases rest with
      | nil =>
          constructor
          · intro h
            cases h
          · rintro ⟨b, hm, -⟩
            cases hm
      | cons c rest =>
          show (holds c && accept ⟨some c, rest⟩) = true ↔ _
          rw [Bool.and_eq_true]
          constructor
          · rintro ⟨hc, hb⟩
            exact ⟨_, .oneOf hc, hb⟩
          · rintro ⟨b, hm, hb⟩
            cases hm with
            | oneOf hc => exact ⟨hc, hb⟩
  | sequence p q ihp ihq =>
      rw [accepts, ihp]
      constructor
      · rintro ⟨c, hp, hc⟩
        obtain ⟨b, hq, hb⟩ := (ihq _ _).1 hc
        exact ⟨b, .sequence hp hq, hb⟩
      · rintro ⟨b, hm, hb⟩
        cases hm with
        | sequence hp hq => exact ⟨_, hp, (ihq _ _).2 ⟨b, hq, hb⟩⟩
  | either p q ihp ihq =>
      rw [accepts, Bool.or_eq_true, ihp, ihq]
      constructor
      · rintro (⟨b, hp, hb⟩ | ⟨b, hq, hb⟩)
        · exact ⟨b, .left hp, hb⟩
        · exact ⟨b, .right hq, hb⟩
      · rintro ⟨b, hm, hb⟩
        cases hm with
        | left hp => exact Or.inl ⟨b, hp, hb⟩
        | right hq => exact Or.inr ⟨b, hq, hb⟩
  | many p ih =>
      rw [accepts]
      exact repeated_iff ih le_rfl
  | textStart =>
      rw [accepts, Bool.and_eq_true, Option.isNone_iff_eq_none]
      constructor
      · rintro ⟨ha, hb⟩
        exact ⟨a, .textStart ha, hb⟩
      · rintro ⟨b, hm, hb⟩
        cases hm with
        | textStart ha => exact ⟨ha, hb⟩
  | textEnd =>
      rw [accepts, Bool.and_eq_true, List.isEmpty_iff]
      constructor
      · rintro ⟨ha, hb⟩
        exact ⟨a, .textEnd ha, hb⟩
      · rintro ⟨b, hm, hb⟩
        cases hm with
        | textEnd ha => exact ⟨ha, hb⟩
  | lineStart =>
      rw [accepts, Bool.and_eq_true]
      constructor
      · rintro ⟨ha, hb⟩
        exact ⟨a, .lineStart ha, hb⟩
      · rintro ⟨b, hm, hb⟩
        cases hm with
        | lineStart ha => exact ⟨ha, hb⟩
  | lineEnd =>
      rw [accepts, Bool.and_eq_true]
      constructor
      · rintro ⟨ha, hb⟩
        exact ⟨a, .lineEnd ha, hb⟩
      · rintro ⟨b, hm, hb⟩
        cases hm with
        | lineEnd ha => exact ⟨ha, hb⟩

/-- What has been passed before some characters are read, and after. -/
theorem getLast?_cons_or (c : Char) (front : List Char) (before : Option Char) :
    (c :: front).getLast?.or before = front.getLast?.or (some c) := by
  rw [List.getLast?_cons]
  cases front.getLast? with
  | none => rfl
  | some d => rfl

theorem occursFrom_iff (p : Pattern) (before : Option Char) (s : List Char) :
    p.occursFrom before s = true
      ↔ ∃ front rest b, s = front ++ rest
          ∧ Matches p ⟨front.getLast?.or before, rest⟩ b := by
  induction s generalizing before with
  | nil =>
      rw [occursFrom, accepts_iff]
      constructor
      · rintro ⟨b, hm, -⟩
        exact ⟨[], [], b, rfl, hm⟩
      · rintro ⟨front, rest, b, hs, hm⟩
        obtain ⟨rfl, rfl⟩ := List.append_eq_nil_iff.1 hs.symm
        exact ⟨b, hm, rfl⟩
  | cons c s ih =>
      rw [occursFrom, Bool.or_eq_true, accepts_iff, ih]
      constructor
      · rintro (⟨b, hm, -⟩ | ⟨front, rest, b, rfl, hm⟩)
        · exact ⟨[], c :: s, b, rfl, hm⟩
        · refine ⟨c :: front, rest, b, rfl, ?_⟩
          rwa [getLast?_cons_or]
      · rintro ⟨front, rest, b, hs, hm⟩
        cases front with
        | nil =>
            rw [List.nil_append] at hs
            rw [← hs] at hm
            exact Or.inl ⟨b, hm, rfl⟩
        | cons d front =>
            injection hs with hd hs
            rw [getLast?_cons_or, ← hd] at hm
            exact Or.inr ⟨front, rest, b, hs, hm⟩

/-- The search finds an occurrence exactly where there is one. -/
theorem occursIn_iff (p : Pattern) (s : List Char) : p.occursIn s = true ↔ p.Occurs s := by
  rw [occursIn, occursFrom_iff]
  simp only [Option.or_none, Occurs]

instance (p : Pattern) (s : List Char) : Decidable (p.Occurs s) :=
  decidable_of_iff _ (occursIn_iff p s)

-- ===================================================== whole texts

/-- Repetitions of a character class read characters of the class. -/
theorem matches_many_oneOf_iff {before : Option Char} {s : List Char} :
    Matches (.many (.oneOf holds)) ⟨before, s⟩ b
      ↔ ∃ read rest, s = read ++ rest ∧ (∀ c ∈ read, holds c = true)
          ∧ b = ⟨read.getLast?.or before, rest⟩ := by
  induction s generalizing before with
  | nil =>
      constructor
      · intro h
        cases h with
        | none => exact ⟨[], [], rfl, by simp, rfl⟩
        | more hp _ => cases hp
      · rintro ⟨read, rest, hs, -, rfl⟩
        obtain ⟨rfl, rfl⟩ := List.append_eq_nil_iff.1 hs.symm
        exact .none _
  | cons c s ih =>
      constructor
      · intro h
        cases h with
        | none => exact ⟨[], c :: s, rfl, by simp, rfl⟩
        | more hp hm =>
            cases hp with
            | oneOf hc =>
                obtain ⟨read, rest, rfl, hread, rfl⟩ := ih.1 hm
                refine ⟨c :: read, rest, rfl, List.forall_mem_cons.2 ⟨hc, hread⟩, ?_⟩
                rw [getLast?_cons_or]
      · rintro ⟨read, rest, hs, hread, rfl⟩
        cases read with
        | nil =>
            rw [List.nil_append] at hs
            rw [← hs]
            exact .none _
        | cons d read =>
            injection hs with hd hs
            subst hd
            obtain ⟨hc, hread⟩ := List.forall_mem_cons.1 hread
            exact .more (.oneOf hc)
              (ih.2 ⟨read, rest, hs, hread, by rw [getLast?_cons_or]⟩)

theorem matches_blanks_iff :
    Matches blanks a b
      ↔ ∃ white rest, a.rest = white ++ rest ∧ (∀ c ∈ white, Text.isBlank c = true)
          ∧ b = ⟨white.getLast?.or a.before, rest⟩ :=
  matches_many_oneOf_iff

/-- A pattern between the anchors for both ends of the text reads the
whole of it. -/
theorem occurs_whole_iff {s : List Char} :
    (inOrder [.textStart, p, .textEnd]).Occurs s
      ↔ ∃ last, Matches p (Cursor.start s) ⟨last, []⟩ := by
  constructor
  · rintro ⟨front, rest, b, rfl, hm⟩
    cases hm with
    | sequence hstart hm =>
        cases hstart with
        | textStart hfront =>
            cases hm with
            | sequence hp hend =>
                cases hend with
                | textEnd hrest =>
                    obtain rfl := List.getLast?_eq_none_iff.1 hfront
                    obtain ⟨last, rest⟩ := b
                    obtain rfl : rest = [] := hrest
                    exact ⟨last, hp⟩
  · rintro ⟨last, hp⟩
    exact ⟨[], s, _, rfl, .sequence (.textStart rfl) (.sequence hp (.textEnd rfl))⟩

/-- A text of one or more characters of a class. -/
theorem occurs_all_iff {s : List Char} :
    (inOrder [.textStart, many1 (.oneOf holds), .textEnd]).Occurs s
      ↔ s ≠ [] ∧ ∀ c ∈ s, holds c = true := by
  rw [occurs_whole_iff]
  cases s with
  | nil =>
      constructor
      · rintro ⟨last, hm⟩
        cases hm with
        | sequence hp _ => cases hp
      · rintro ⟨hne, -⟩
        exact absurd rfl hne
  | cons c s =>
      rw [List.forall_mem_cons]
      constructor
      · rintro ⟨last, hm⟩
        cases hm with
        | sequence hp hm =>
            cases hp with
            | oneOf hc =>
                obtain ⟨read, rest, rfl, hread, hlast⟩ := matches_many_oneOf_iff.1 hm
                injection hlast with _ hrest
                subst hrest
                rw [List.append_nil]
                exact ⟨List.cons_ne_nil c read, hc, hread⟩
      · rintro ⟨-, hc, hs⟩
        refine ⟨_, .sequence (.oneOf hc) (matches_many_oneOf_iff.2 ⟨s, [], ?_, hs, rfl⟩)⟩
        rw [List.append_nil]

end Marginalia.Pattern
