/-
Segments of a path as they are written in a URL. An encoded segment has only
characters that cannot end it (`isPlain_of_mem_encodedSegment`), and since it is
decoded to what it was, it is no step up unless it was one
(`isDoubleDot_encodedSegment`) and no drive letter unless it was one
(`isDriveLetter_encodedSegment`).
-/
import Marginalia.Proofs.Url.Percent

namespace Marginalia.Url

-- ========================================================= segments

/-- A segment of a path, with everything encoded that could end it. -/
def encodedSegment (s : List Char) : List Char :=
  percentEncode inSegmentSet s

/-- A character that an encoded segment may have. -/
def IsPlain (c : Char) : Prop :=
  inPathSet c = false ∧ c ≠ '/' ∧ c ≠ '\\' ∧ c.toNat < 0x80

theorem isPlain_upperHexDigit : ∀ n < 16, IsPlain (upperHexDigit n) := by
  unfold IsPlain
  decide

theorem isPlain_of_mem_encodedByte {b : UInt8} {c : Char} (h : c ∈ encodedByte b) : IsPlain c := by
  have hb : b.toNat < 256 := b.toNat_lt
  simp only [encodedByte, List.mem_cons, List.not_mem_nil, or_false] at h
  obtain rfl | rfl | rfl := h
  · unfold IsPlain
    decide
  · exact isPlain_upperHexDigit _ (by omega)
  · exact isPlain_upperHexDigit _ (by omega)

theorem isPlain_of_not {c : Char} (h : ¬ (inSegmentSet c || 0x80 ≤ c.toNat) = true) :
    IsPlain c := by
  have hparts : (inPathSet c = false ∧ c ≠ '/' ∧ c ≠ '%' ∧ c ≠ '\\') ∧ c.toNat < 0x80 := by
    simpa [inSegmentSet] using h
  obtain ⟨⟨hpath, hslash, -, hback⟩, hlt⟩ := hparts
  exact ⟨hpath, hslash, hback, hlt⟩

theorem isPlain_of_mem_encodedSegment {s : List Char} {c : Char} (h : c ∈ encodedSegment s) :
    IsPlain c := by
  obtain ⟨d, -, hd⟩ := List.mem_flatMap.1 h
  split at hd
  · obtain ⟨b, -, hb⟩ := List.mem_flatMap.1 hd
    exact isPlain_of_mem_encodedByte hb
  next hplain =>
    rw [List.mem_singleton.1 hd]
    exact isPlain_of_not hplain

-- ===================================================== plain characters

variable {c : Char}

theorem inPathSet_eq_false (h : inPathSet c = false) :
    0x20 < c.toNat ∧ c ≠ '?' ∧ c ≠ '#' := by
  simp only [inPathSet, inFragmentSet, isControl, Bool.or_eq_false_iff, decide_eq_false_iff_not,
    List.contains_eq_mem, List.mem_cons, not_or] at h
  obtain ⟨⟨⟨hcontrol, -⟩, hspace, -⟩, hhash, hquestion, -⟩ := h
  have hne : c.toNat ≠ 0x20 := fun h => hspace (Char.toNat_inj.1 h)
  exact ⟨by omega, hquestion, hhash⟩

theorem isEdge_of_isPlain (h : IsPlain c) : isEdge c = false :=
  decide_eq_false (Nat.not_le.2 (inPathSet_eq_false h.1).1)

theorem isDropped_of_isPlain (h : IsPlain c) : isDropped c = false := by
  have hlt := (inPathSet_eq_false h.1).1
  have hne (d : Char) (hd : d.toNat ≤ 0x20) : (c == d) = false :=
    beq_false_of_ne fun h => absurd hd (by rw [← h]; omega)
  rw [isDropped, hne '\t' (by decide), hne '\n' (by decide), hne '\r' (by decide)]
  rfl

theorem isInAuthority_of_isPlain (h : IsPlain c) : isInAuthority true c = true := by
  obtain ⟨hpath, hslash, hback, -⟩ := h
  obtain ⟨-, hquestion, hhash⟩ := inPathSet_eq_false hpath
  simp [isInAuthority, isSlash, endsPath, hslash, hback, hquestion, hhash]

-- ============================================================== dots

theorem percentDecode_encodedSegment (s : List Char) :
    percentDecode (encodedSegment s) = textBytes s :=
  percentDecode_percentEncode rfl s

theorem encodedSegment_injective {s t : List Char} (h : encodedSegment s = encodedSegment t) :
    s = t := by
  have hbytes := congrArg percentDecode h
  rw [percentDecode_encodedSegment, percentDecode_encodedSegment] at hbytes
  rw [← shownBytes_textBytes s, ← shownBytes_textBytes t, hbytes]

theorem toNat_toLower_ofNat :
    ∀ n < 91, 65 ≤ n → (Char.ofNat n).toLower.toNat = n + 32 := by
  decide

/-- In lower case, a character is the same or a letter further on. -/
theorem toLower_cases (c : Char) :
    c.toLower = c ∨ 65 ≤ c.toNat ∧ c.toNat ≤ 90 ∧ c.toLower.toNat = c.toNat + 32 := by
  by_cases hupper : 65 ≤ c.toNat ∧ c.toNat ≤ 90
  · have hlower := toNat_toLower_ofNat c.toNat (by omega) hupper.1
    rw [Char.ofNat_toNat] at hlower
    exact .inr ⟨hupper.1, hupper.2, hlower⟩
  · exact .inl (dif_neg hupper)

theorem eq_of_toLower {c d : Char} (h : c.toLower = d) (hd : d.toNat < 97) : c = d := by
  obtain hsame | ⟨hlow, -, hlower⟩ := toLower_cases c
  · rw [← hsame, h]
  · rw [h] at hlower
    omega

theorem eq_of_toLower_e {c : Char} (h : c.toLower = 'e') : c = 'e' ∨ c = 'E' := by
  obtain hsame | ⟨-, -, hlower⟩ := toLower_cases c
  · exact .inl (hsame.symm.trans h)
  · rw [h] at hlower
    have hnat : c.toNat = 69 := Nat.add_right_cancel hlower.symm
    exact .inr (Char.toNat_inj.1 hnat)

variable {s t rest : List Char}

theorem percentDecode_dot (h : t.map Char.toLower = '.' :: rest) :
    ∃ r, r.map Char.toLower = rest ∧ percentDecode t = 0x2E :: percentDecode r := by
  obtain ⟨c, r, rfl, hc, hr⟩ := List.map_eq_cons_iff.1 h
  obtain rfl := eq_of_toLower hc (by decide)
  exact ⟨r, hr, percentDecode_cons (by decide) r⟩

theorem percentDecode_encodedDot (h : t.map Char.toLower = '%' :: '2' :: 'e' :: rest) :
    ∃ r, r.map Char.toLower = rest ∧ percentDecode t = 0x2E :: percentDecode r := by
  obtain ⟨c, r, rfl, hc, hr⟩ := List.map_eq_cons_iff.1 h
  obtain ⟨c', r', rfl, hc', hr'⟩ := List.map_eq_cons_iff.1 hr
  obtain ⟨c'', r'', rfl, hc'', hr''⟩ := List.map_eq_cons_iff.1 hr'
  obtain rfl := eq_of_toLower hc (by decide)
  obtain rfl := eq_of_toLower hc' (by decide)
  refine ⟨r'', hr'', ?_⟩
  obtain rfl | rfl := eq_of_toLower_e hc''
  · rfl
  · rfl

theorem percentDecode_of_isDot (h : isDot t = true) : percentDecode t = [0x2E] := by
  rw [isDot, Bool.or_eq_true, beq_iff_eq, beq_iff_eq] at h
  obtain rfl | h := h
  · rfl
  · obtain ⟨r, hr, hdecode⟩ := percentDecode_encodedDot h
    rw [hdecode, List.map_eq_nil_iff.1 hr]
    rfl

theorem percentDecode_of_isDoubleDot (h : isDoubleDot t = true) :
    percentDecode t = [0x2E, 0x2E] := by
  have hdots : ∃ r, (r.map Char.toLower = ['.'] ∨ r.map Char.toLower = ['%', '2', 'e'])
      ∧ percentDecode t = 0x2E :: percentDecode r := by
    rw [isDoubleDot, List.contains_iff_mem] at h
    simp only [List.mem_cons, List.not_mem_nil, or_false] at h
    obtain h | h | h | h := h
    · obtain ⟨r, hr, hdecode⟩ := percentDecode_dot h
      exact ⟨r, .inl hr, hdecode⟩
    · obtain ⟨r, hr, hdecode⟩ := percentDecode_dot h
      exact ⟨r, .inr hr, hdecode⟩
    · obtain ⟨r, hr, hdecode⟩ := percentDecode_encodedDot h
      exact ⟨r, .inl hr, hdecode⟩
    · obtain ⟨r, hr, hdecode⟩ := percentDecode_encodedDot h
      exact ⟨r, .inr hr, hdecode⟩
  obtain ⟨r, hr, hdecode⟩ := hdots
  have hlast : ∃ r', r'.map Char.toLower = [] ∧ percentDecode r = 0x2E :: percentDecode r' :=
    hr.elim percentDecode_dot percentDecode_encodedDot
  obtain ⟨r', hr', hdecode'⟩ := hlast
  rw [hdecode, hdecode', List.map_eq_nil_iff.1 hr']
  rfl

/-- A name is not encoded as a step to where it stands. -/
theorem isDot_encodedSegment (h : s ≠ ['.']) : isDot (encodedSegment s) = false := by
  refine Bool.eq_false_iff.2 fun hdot => h ?_
  have hdecode := percentDecode_of_isDot hdot
  rw [percentDecode_encodedSegment] at hdecode
  rw [← shownBytes_textBytes s, hdecode]
  exact shownBytes_textBytes ['.']

/-- Nor as a step up. -/
theorem isDoubleDot_encodedSegment (h : s ≠ ['.', '.']) :
    isDoubleDot (encodedSegment s) = false := by
  refine Bool.eq_false_iff.2 fun hdot => h ?_
  have hdecode := percentDecode_of_isDoubleDot hdot
  rw [percentDecode_encodedSegment] at hdecode
  rw [← shownBytes_textBytes s, hdecode]
  exact shownBytes_textBytes ['.', '.']

-- ============================================================ drives

theorem inSegmentSet_ofNat : ∀ n < 123, (Char.ofNat n).isAlpha = true →
    inSegmentSet (Char.ofNat n) = false := by
  decide

theorem inSegmentSet_of_isAlpha {c : Char} (h : c.isAlpha = true) :
    inSegmentSet c = false ∧ c.toNat < 0x80 := by
  have hletter : c.toNat ≤ 122 := by
    have hcase : (c.isUpper || c.isLower) = true := h
    obtain hupper | hlower := Bool.or_eq_true_iff.1 hcase
    · have hrange : 65 ≤ c.toNat ∧ c.toNat ≤ 90 := of_decide_eq_true hupper
      omega
    · exact of_decide_eq_true (Bool.and_eq_true_iff.1 hlower).2
  have hset := inSegmentSet_ofNat c.toNat (by omega)
  rw [Char.ofNat_toNat] at hset
  exact ⟨hset h, by omega⟩

theorem exists_of_isDriveLetter (h : isDriveLetter s = true) :
    ∃ letter mark, s = [letter, mark] ∧ letter.isAlpha = true ∧ (mark = ':' ∨ mark = '|') := by
  unfold isDriveLetter at h
  split at h
  next letter mark =>
    rw [Bool.and_eq_true, Bool.or_eq_true, beq_iff_eq, beq_iff_eq] at h
    exact ⟨letter, mark, rfl, h⟩
  · cases h

/-- A drive letter is not encoded. -/
theorem encodedSegment_of_isDriveLetter (h : isDriveLetter s = true) : encodedSegment s = s := by
  obtain ⟨letter, mark, rfl, hletter, hmark⟩ := exists_of_isDriveLetter h
  have hplain : inSegmentSet mark = false ∧ mark.toNat < 0x80 := by
    obtain rfl | rfl := hmark
    · decide
    · decide
  exact percentEncode_of_forall (List.forall_mem_cons.2
    ⟨inSegmentSet_of_isAlpha hletter, List.forall_mem_singleton.2 hplain⟩)

theorem isDriveLetter_encodedSegment (s : List Char) :
    isDriveLetter (encodedSegment s) = isDriveLetter s := by
  by_cases h : isDriveLetter (encodedSegment s) = true
  · rw [encodedSegment_injective (encodedSegment_of_isDriveLetter h)]
  · by_cases hs : isDriveLetter s = true
    · rw [encodedSegment_of_isDriveLetter hs]
    · rw [Bool.eq_false_iff.2 h, Bool.eq_false_iff.2 hs]

/-- The first segment of a path as it is kept: a letter and a bar are taken for a
drive, which is a letter and a colon. -/
def driveSpelled (s : List Char) : List Char :=
  if isDriveLetter s then s.take 1 ++ [':'] else s

theorem encodedSegment_driveSpelled (s : List Char) :
    encodedSegment (driveSpelled s) = driveSpelled (encodedSegment s) := by
  by_cases h : isDriveLetter s = true
  · have hdrive : isDriveLetter (s.take 1 ++ [':']) = true := by
      obtain ⟨letter, mark, rfl, hletter, -⟩ := exists_of_isDriveLetter h
      show (letter.isAlpha && true) = true
      rw [hletter]
      rfl
    rw [encodedSegment_of_isDriveLetter h, driveSpelled, if_pos h,
      encodedSegment_of_isDriveLetter hdrive]
  · rw [driveSpelled, driveSpelled, isDriveLetter_encodedSegment, if_neg h, if_neg h]

end Marginalia.Url
