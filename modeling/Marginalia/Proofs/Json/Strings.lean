/-
Strings are read as the text they stand for, and as none where they stand for
none (`readString_of_quoted`). A character may be written in several ways, and
one escape may take the next along to make a character. What is read is settled
piece by piece from the end of the string (`ReadsAs`), since whether an escape
stands for something shows only in the piece behind it.
-/
import Marginalia.Proofs.Json.Grammar

namespace Marginalia.Json

variable {fuel : Nat}

theorem readUnit_append {u : List Char} {n : Nat} (h : CodeUnit u n) (s : List Char) :
    readUnit (u ++ s) = .ok (n, s) := by
  cases h with
  | mk ha hb hc hd =>
      simp only [List.cons_append, List.nil_append, readUnit, ha, hb, hc, hd]

theorem readChars_quote (s : List Char) : readChars (fuel + 1) ('\x22' :: s) = ⟨some [], .ok s⟩ :=
  if_pos rfl

theorem readChars_plain {c : Char} (hquote : c ≠ '\x22') (hslash : c ≠ '\\')
    (hcontrol : ¬ c.toNat < 0x20) (s : List Char) :
    readChars (fuel + 1) (c :: s) = (readChars fuel s).push c := by
  calc readChars (fuel + 1) (c :: s)
      = _ := if_neg hquote
    _ = _ := if_neg hcontrol
    _ = _ := if_pos hslash

theorem ne_u_of_unescaped? {e c : Char} (h : unescaped? e = some c) : e ≠ 'u' := by
  rintro rfl
  cases h

theorem readChars_letter {e c : Char} (h : unescaped? e = some c) (s : List Char) :
    readChars (fuel + 1) ('\\' :: e :: s) = (readChars fuel s).push c := by
  rw [readChars, if_neg (by decide), if_neg (by decide), if_neg (by decide), h]
  exact ne_u_of_unescaped? h

section

variable {u v : List Char} {m n : Nat}

theorem readChars_single (hu : CodeUnit u m) (hhigh : ¬ IsHigh m) (hlow : ¬ IsLow m)
    (s : List Char) :
    readChars (fuel + 1) ('\\' :: 'u' :: (u ++ s)) = (readChars fuel s).push (Char.ofNat m) := by
  unfold IsHigh at hhigh
  unfold IsLow at hlow
  rw [readChars, if_neg (by decide), if_neg (by decide), if_neg (by decide), readUnit_append hu]
  dsimp only
  rw [if_neg hlow, if_neg hhigh]

theorem readChars_low (hu : CodeUnit u m) (hlow : IsLow m) (s : List Char) :
    readChars (fuel + 1) ('\\' :: 'u' :: (u ++ s)) = { readChars fuel s with chars := none } := by
  rw [readChars, if_neg (by decide), if_neg (by decide), if_neg (by decide), readUnit_append hu]
  exact if_pos hlow

theorem not_isLow_of_isHigh (h : IsHigh m) : ¬ IsLow m := by
  unfold IsHigh at h
  unfold IsLow
  omega

theorem readChars_pair (hu : CodeUnit u m) (hv : CodeUnit v n) (hhigh : IsHigh m)
    (hlow : IsLow n) (s : List Char) :
    readChars (fuel + 1) ('\\' :: 'u' :: (u ++ '\\' :: 'u' :: (v ++ s)))
      = (readChars fuel s).push (Char.ofNat (pairValue m n)) := by
  have hnotLow := not_isLow_of_isHigh hhigh
  unfold IsHigh at hhigh
  unfold IsLow at hlow hnotLow
  rw [readChars, if_neg (by decide), if_neg (by decide), if_neg (by decide), readUnit_append hu]
  dsimp only
  rw [if_neg hnotLow, if_pos hhigh]
  simp only [readUnit_append hv]
  exact if_pos hlow

/-- Half a pair before something else than an escaped unit. -/
theorem readChars_high (hu : CodeUnit u m) (hhigh : IsHigh m) {s : List Char}
    (hs : ∀ more, s ≠ '\\' :: 'u' :: more) :
    readChars (fuel + 1) ('\\' :: 'u' :: (u ++ s)) = { readChars fuel s with chars := none } := by
  have hnotLow := not_isLow_of_isHigh hhigh
  unfold IsHigh at hhigh
  unfold IsLow at hnotLow
  rw [readChars, if_neg (by decide), if_neg (by decide), if_neg (by decide), readUnit_append hu]
  dsimp only
  rw [if_neg hnotLow, if_pos hhigh]
  split
  next more => exact absurd rfl (hs more)
  next => rfl

/-- Half a pair before a unit that is not the other half. -/
theorem readChars_high_unit (hu : CodeUnit u m) (hv : CodeUnit v n) (hhigh : IsHigh m)
    (hlow : ¬ IsLow n) (s : List Char) :
    readChars (fuel + 1) ('\\' :: 'u' :: (u ++ '\\' :: 'u' :: (v ++ s)))
      = { readChars fuel ('\\' :: 'u' :: (v ++ s)) with chars := none } := by
  have hnotLow := not_isLow_of_isHigh hhigh
  unfold IsHigh at hhigh
  unfold IsLow at hlow hnotLow
  rw [readChars, if_neg (by decide), if_neg (by decide), if_neg (by decide), readUnit_append hu]
  dsimp only
  rw [if_neg hnotLow, if_pos hhigh]
  simp only [readUnit_append hv]
  exact if_neg hlow

end

theorem readChars_spelled {p : List Char} {c : Char} (h : Spelled p c) (s : List Char) :
    readChars (fuel + 1) (p ++ s) = (readChars fuel s).push c := by
  cases h with
  | plain hquote hslash hcontrol => exact readChars_plain hquote hslash hcontrol s
  | letter h => exact readChars_letter h s
  | unit h hhigh hlow => exact readChars_single h hhigh hlow s
  | pair hu hv hhigh hlow =>
      rw [List.append_assoc]
      exact readChars_pair hu hv hhigh hlow s

theorem length_pos_of_spelled {p : List Char} {c : Char} (h : Spelled p c) : 0 < p.length := by
  cases h with
  | plain => exact Nat.succ_pos _
  | letter => exact Nat.succ_pos _
  | unit => exact Nat.succ_pos _
  | pair => exact Nat.succ_pos _

/-- A string that stands for a text is read as that text. -/
theorem readChars_of_denotes {s t : List Char} (h : Denotes s t) (hfuel : s.length < fuel)
    (rest : List Char) : readChars fuel (s ++ '\x22' :: rest) = ⟨some t, .ok rest⟩ := by
  induction h generalizing fuel with
  | nil =>
      obtain ⟨fuel, rfl⟩ := Nat.exists_eq_succ_of_ne_zero (Nat.ne_of_gt hfuel)
      exact readChars_quote rest
  | cons hp _ ih =>
      obtain ⟨fuel, rfl⟩ := Nat.exists_eq_succ_of_ne_zero (Nat.ne_of_gt (Nat.zero_lt_of_lt hfuel))
      have hpos := length_pos_of_spelled hp
      rw [List.length_append] at hfuel
      rw [List.append_assoc, readChars_spelled hp, ih (by omega)]
      rfl

/-- What the reader makes of the inside of a string, whatever stands behind
it. -/
def ReadsAs (s : List Char) (o : Option (List Char)) : Prop :=
  ∀ (fuel : Nat) (rest : List Char), s.length < fuel →
    readChars fuel (s ++ '\x22' :: rest) = ⟨o, .ok rest⟩

theorem ReadsAs.push {p s : List Char} {c : Char} {o : Option (List Char)} (hp : Spelled p c)
    (h : ReadsAs s o) : ReadsAs (p ++ s) (o.map (c :: ·)) := by
  intro fuel rest hfuel
  obtain ⟨fuel, rfl⟩ := Nat.exists_eq_succ_of_ne_zero (Nat.ne_of_gt (Nat.zero_lt_of_lt hfuel))
  have hpos := length_pos_of_spelled hp
  rw [List.length_append] at hfuel
  rw [List.append_assoc, readChars_spelled hp, h fuel rest (by omega)]
  rfl

/-- A unit that stands for nothing takes its value from the whole string. -/
theorem ReadsAs.lose {u s : List Char} {o : Option (List Char)} (h : ReadsAs s o)
    (hlose : ∀ (fuel : Nat) (rest : List Char),
      readChars (fuel + 1) ('\\' :: 'u' :: (u ++ (s ++ '\x22' :: rest)))
        = { readChars fuel (s ++ '\x22' :: rest) with chars := none }) :
    ReadsAs ('\\' :: 'u' :: u ++ s) none := by
  intro fuel rest hfuel
  obtain ⟨fuel, rfl⟩ := Nat.exists_eq_succ_of_ne_zero (Nat.ne_of_gt (Nat.zero_lt_of_lt hfuel))
  rw [List.length_append, List.length_cons] at hfuel
  rw [List.append_assoc]
  refine (hlose fuel rest).trans ?_
  rw [h fuel rest (by omega)]

theorem length_pos_of_piece {p : List Char} (h : Piece p) : 0 < p.length := by
  cases h with
  | plain => exact Nat.succ_pos _
  | letter => exact Nat.succ_pos _
  | unit => exact Nat.succ_pos _

/-- A string is read to its end, and as no text that it does not stand for. -/
theorem exists_readsAs {s : List Char} (h : Inside s) :
    ∃ o, ReadsAs s o ∧ ∀ t, o = some t → Denotes s t := by
  -- half a pair looks at the next piece, so the induction is on the length
  induction hlength : s.length using Nat.strongRecOn generalizing s with
  | ind length ih =>
  have hpush {p s' : List Char} {c : Char} (hp : Spelled p c) (hs' : Inside s')
      (hs : s = p ++ s') : ∃ o, ReadsAs s o ∧ ∀ t, o = some t → Denotes s t := by
    have hpos := length_pos_of_spelled hp
    have hshorter : s'.length < length := by
      rw [← hlength, hs, List.length_append]
      omega
    obtain ⟨o, ho, hdenotes⟩ := ih s'.length hshorter hs' rfl
    refine ⟨o.map (c :: ·), hs ▸ ho.push hp, fun t ht => ?_⟩
    obtain ⟨t, rfl, rfl⟩ := Option.map_eq_some_iff.1 ht
    exact hs ▸ .cons hp (hdenotes t rfl)
  cases h with
  | nil => exact ⟨some [], fun fuel rest hfuel => readChars_of_denotes .nil hfuel rest,
      fun t ht => Option.some.inj ht ▸ .nil⟩
  | @cons p s' hp hs' =>
      have hpos := length_pos_of_piece hp
      rw [List.length_append] at hlength
      obtain ⟨o, ho, -⟩ := ih s'.length (by omega) hs' rfl
      cases hp with
      | plain hquote hslash hcontrol => exact hpush (.plain hquote hslash hcontrol) hs' rfl
      | letter h => exact hpush (.letter h) hs' rfl
      | @unit u m hu =>
          by_cases hlow : IsLow m
          · exact ⟨none, ho.lose fun _ rest => readChars_low hu hlow _, nofun⟩
          by_cases hhigh : IsHigh m
          · cases hs' with
            | nil =>
                refine ⟨none, ho.lose fun _ rest => readChars_high hu hhigh ?_, nofun⟩
                exact fun more heq => nomatch (List.cons.inj heq).1
            | cons hq hs'' =>
                cases hq with
                | plain hquote hslash hcontrol =>
                    refine ⟨none, ho.lose fun _ rest => readChars_high hu hhigh ?_, nofun⟩
                    exact fun more heq => hslash (List.cons.inj heq).1
                | letter h =>
                    refine ⟨none, ho.lose fun _ rest => readChars_high hu hhigh ?_, nofun⟩
                    exact fun more heq =>
                      ne_u_of_unescaped? h (List.cons.inj (List.cons.inj heq).2).1
                | @unit v n hv =>
                    by_cases hpair : IsLow n
                    · exact hpush (.pair hu hv hhigh hpair) hs'' (by rw [List.append_assoc])
                    · refine ⟨none, ho.lose fun _ rest => ?_, nofun⟩
                      rw [List.append_assoc]
                      exact readChars_high_unit hu hv hhigh hpair _
          · exact hpush (.unit hu hhigh hlow) hs' rfl

/-- A string is read as its text, or as none where it stands for none. -/
theorem readString_of_quoted {s : List Char} {o : Option String} (h : Quoted s o)
    (rest : List Char) :
    ∃ inside, s = '\x22' :: inside ++ ['\x22']
      ∧ readString (inside ++ '\x22' :: rest) = (.ok (o, rest), true) := by
  cases h with
  | @text inside t h =>
      refine ⟨inside, rfl, ?_⟩
      rw [readString, readChars_of_denotes h]
      · rfl
      · rw [List.length_append, List.length_cons]
        omega
  | @unpaired inside h hno =>
      refine ⟨inside, rfl, ?_⟩
      obtain ⟨o, ho, hdenotes⟩ := exists_readsAs h
      cases o with
      | some t => exact absurd (hdenotes t rfl) (hno t)
      | none =>
          rw [readString, ho]
          · rfl
          · rw [List.length_append, List.length_cons]
            omega

end Marginalia.Json
