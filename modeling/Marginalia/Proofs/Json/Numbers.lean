/-
Numbers are read as what they stand for (`readUnsigned_append`). They have no
closing mark: they are read up to the first character that cannot go on with
one, so what follows may not go on with a number (`Delimited`).
-/
import Marginalia.Proofs.Json.Grammar

namespace Marginalia.Json

-- =========================================================== the end

/-- Whether a text cannot go on with a number. -/
def Delimited (s : List Char) : Prop :=
  ∀ c ∈ s.head?, c.isDigit = false ∧ c ≠ '.' ∧ c ≠ 'e' ∧ c ≠ 'E'

/-- Whether a text does not begin with a digit. -/
def NoDigit (s : List Char) : Prop :=
  ∀ c ∈ s.head?, c.isDigit = false

theorem takeWhile_digits {ds : List Char} (hds : ∀ c ∈ ds, c.isDigit = true) {s : List Char}
    (hs : NoDigit s) : (ds ++ s).takeWhile Char.isDigit = ds := by
  rw [List.takeWhile_append_of_pos hds]
  cases s with
  | nil => exact List.append_nil ds
  | cons c s => rw [List.takeWhile_cons_of_neg (by rw [hs c rfl]; exact Bool.false_ne_true),
      List.append_nil]

theorem noDigit_of_delimited {s : List Char} (h : Delimited s) : NoDigit s :=
  fun c hc => (h c hc).1

theorem exists_mark {mark : List Char} {exponent : Option Int} (h : Exponent mark exponent) :
    mark = [] ∨ ∃ c r, mark = c :: r ∧ (c = 'e' ∨ c = 'E') := by
  cases h with
  | none => exact .inl rfl
  | unsigned hmark => exact .inr ⟨_, _, rfl, hmark⟩
  | positive hmark => exact .inr ⟨_, _, rfl, hmark⟩
  | negative hmark => exact .inr ⟨_, _, rfl, hmark⟩

-- ============================================================= parts

theorem isEmpty_eq_false {ds : List Char} (h : Digits ds) : ¬ ds.isEmpty = true := by
  rw [List.isEmpty_iff]
  exact h.1

/-- A run of digits does not begin with a sign. -/
theorem digits_append_ne {ds : List Char} (h : Digits ds) {sign : Char}
    (hsign : sign.isDigit = false) (s r : List Char) : ds ++ s ≠ sign :: r := by
  cases ds with
  | nil => exact absurd rfl h.1
  | cons d ds =>
      intro heq
      obtain ⟨rfl, -⟩ := List.cons.inj heq
      rw [h.2 d List.mem_cons_self] at hsign
      cases hsign

/-- An exponent is read up to what cannot go on with it. -/
theorem readExponent_append {mark : List Char} {exponent : Option Int} (h : Exponent mark exponent)
    {rest : List Char} (hrest : Delimited rest) :
    readExponent (mark ++ rest) = .ok (exponent, rest) := by
  have hmarked {c : Char} (hc : c = 'e' ∨ c = 'E') : (c = 'e' || c = 'E') = true := by
    rcases hc with rfl | rfl
    · rfl
    · rfl
  have hdigits {ds : List Char} (hds : Digits ds) :
      (ds ++ rest).takeWhile Char.isDigit = ds :=
    takeWhile_digits hds.2 (noDigit_of_delimited hrest)
  cases h with
  | none =>
      cases rest with
      | nil => rfl
      | cons c rest =>
          obtain ⟨-, -, he, hE⟩ := hrest c rfl
          exact if_neg (by simp [he, hE])
  | unsigned hmark hds =>
      rw [List.cons_append, readExponent]
      · rw [if_pos (hmarked hmark), hdigits hds, if_neg (isEmpty_eq_false hds), List.drop_left]
        rfl
      · exact digits_append_ne hds (by decide) rest
      · exact digits_append_ne hds (by decide) rest
  | positive hmark hds =>
      rw [List.cons_append, List.cons_append, readExponent, if_pos (hmarked hmark), hdigits hds,
        if_neg (isEmpty_eq_false hds), List.drop_left]
      rfl
  | negative hmark hds =>
      rw [List.cons_append, List.cons_append, readExponent, if_pos (hmarked hmark), hdigits hds,
        if_neg (isEmpty_eq_false hds), List.drop_left]
      rfl

theorem noDigit_mark {mark : List Char} {exponent : Option Int} (h : Exponent mark exponent)
    {rest : List Char} (hrest : Delimited rest) :
    ∀ c ∈ (mark ++ rest).head?, c.isDigit = false ∧ c ≠ '.' := by
  rcases exists_mark h with rfl | ⟨c, r, rfl, hc⟩
  · exact fun c hc => ⟨(hrest c hc).1, (hrest c hc).2.1⟩
  · intro d hd
    obtain rfl : c = d := Option.some.inj hd
    rcases hc with rfl | rfl
    · decide
    · decide

/-- The digits behind a point are read up to what cannot go on with them. -/
theorem readFraction_append {point fraction : List Char} (h : Fraction point fraction)
    {s : List Char} (hs : ∀ c ∈ s.head?, c.isDigit = false ∧ c ≠ '.') :
    readFraction (point ++ s) = .ok (fraction, s) := by
  cases h with
  | none =>
      rw [List.nil_append, readFraction]
      rintro r rfl
      exact (hs '.' rfl).2 rfl
  | some hds =>
      rw [List.cons_append, readFraction, takeWhile_digits hds.2 fun c hc => (hs c hc).1,
        if_neg (isEmpty_eq_false hds), List.drop_left]

theorem noDigit_point {point fraction : List Char} (h : Fraction point fraction) {s : List Char}
    (hs : ∀ c ∈ s.head?, c.isDigit = false ∧ c ≠ '.') : NoDigit (point ++ s) := by
  cases h with
  | none => exact fun c hc => (hs c hc).1
  | some hds =>
      intro c hc
      obtain rfl : '.' = c := Option.some.inj hc
      rfl

/-- A number is read as its parts, up to what cannot go on with it. -/
theorem readUnsigned_append (negated : Bool) {whole point fraction mark : List Char}
    {exponent : Option Int} (hwhole : Whole whole) (hpoint : Fraction point fraction)
    (hmark : Exponent mark exponent) {rest : List Char} (hrest : Delimited rest) :
    readUnsigned negated (whole ++ point ++ mark ++ rest)
      = .ok (numberOf negated whole fraction exponent, rest) := by
  have htail := noDigit_mark hmark hrest
  have htaken : (whole ++ (point ++ (mark ++ rest))).takeWhile Char.isDigit = whole :=
    takeWhile_digits hwhole.1.2 (noDigit_point hpoint htail)
  rw [List.append_assoc, List.append_assoc, readUnsigned, htaken, List.drop_left]
  cases hcut : whole with
  | nil => exact absurd hcut hwhole.1.1
  | cons d more =>
      have hzero : ¬ (d = '0' ∧ more ≠ []) := by
        rintro ⟨rfl, hmore⟩
        have := hwhole.2 (by rw [hcut]; rfl)
        rw [hcut] at this
        exact hmore (List.cons.inj this).2
      dsimp only
      rw [if_neg hzero]
      show (readFraction (point ++ (mark ++ rest)) >>= fun p =>
        readExponent p.2 >>= fun q => Except.ok (numberOf negated (d :: more) p.1 q.1, q.2)) = _
      rw [readFraction_append hpoint htail]
      show (readExponent (mark ++ rest) >>= fun q =>
        Except.ok (numberOf negated (d :: more) fraction q.1, q.2)) = _
      rw [readExponent_append hmark hrest]
      rfl

end Marginalia.Json
