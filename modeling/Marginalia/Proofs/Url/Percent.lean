/-
Encoding and decoding of texts. What is encoded, be it as UTF-8
(`shownBytes_textBytes`) or with percent signs (`percentDecode_percentEncode`),
is decoded to what it was, whatever characters it holds; with percent signs this
takes that a percent sign itself is encoded.
-/
import Marginalia.Url.FilePath

namespace Marginalia.Url

-- ==================================================== UTF-8, written

theorem toNat_ofNat_of_lt {n : Nat} (h : n < 256) : (UInt8.ofNat n).toNat = n := by
  rw [UInt8.toNat_ofNat']
  exact Nat.mod_eq_of_lt h

theorem toNat_lt (c : Char) : c.toNat < 0xD800 ∨ 0xDFFF < c.toNat ∧ c.toNat < 0x110000 :=
  c.valid

/-- A byte that is not the first of a sequence. -/
def following (n : Nat) : UInt8 :=
  UInt8.ofNat (n % 64 + 128)

theorem toNat_following (n : Nat) : (following n).toNat = n % 64 + 128 :=
  toNat_ofNat_of_lt (by omega)

theorem following_bounds (n : Nat) : 0x80 ≤ (following n).toNat ∧ (following n).toNat ≤ 0xBF := by
  rw [toNat_following]
  omega

section

variable {c : Char}

theorem charBytes_one (h : c.toNat < 0x80) : charBytes c = [UInt8.ofNat c.toNat] :=
  if_pos (Nat.le_of_lt_succ h)

theorem charBytes_two (hlow : 0x80 ≤ c.toNat) (hhigh : c.toNat < 0x800) :
    charBytes c = [UInt8.ofNat (c.toNat / 64 + 192), following c.toNat] := by
  have hmod : c.toNat / 64 % 32 = c.toNat / 64 := by omega
  rw [← hmod]
  exact (if_neg (Nat.not_le.2 hlow)).trans (if_pos (Nat.le_of_lt_succ hhigh))

theorem charBytes_three (hlow : 0x800 ≤ c.toNat) (hhigh : c.toNat < 0x10000) :
    charBytes c
      = [UInt8.ofNat (c.toNat / 4096 + 224), following (c.toNat / 64), following c.toNat] := by
  have hone : ¬ c.toNat ≤ 0x7F := by omega
  have hmod : c.toNat / 4096 % 16 = c.toNat / 4096 := by omega
  rw [← hmod]
  exact (if_neg hone).trans
    ((if_neg (Nat.not_le.2 hlow)).trans (if_pos (Nat.le_of_lt_succ hhigh)))

theorem charBytes_four (hlow : 0x10000 ≤ c.toNat) :
    charBytes c
      = [UInt8.ofNat (c.toNat / 262144 + 240), following (c.toNat / 4096),
          following (c.toNat / 64), following c.toNat] := by
  have hvalid := toNat_lt c
  have hone : ¬ c.toNat ≤ 0x7F := by omega
  have htwo : ¬ c.toNat ≤ 0x7FF := by omega
  have hmod : c.toNat / 262144 % 8 = c.toNat / 262144 := by omega
  rw [← hmod]
  exact (if_neg hone).trans ((if_neg htwo).trans (if_neg (Nat.not_le.2 hlow)))

/-- The bytes of a character beyond ASCII are beyond ASCII. -/
theorem le_of_mem_charBytes (h : 0x80 ≤ c.toNat) {b : UInt8} (hb : b ∈ charBytes c) :
    0x80 ≤ b.toNat := by
  have hvalid := toNat_lt c
  have hfirst {n : Nat} (hn : 0x80 ≤ n) (hlt : n < 256) (hb : b = UInt8.ofNat n) :
      0x80 ≤ b.toNat := by
    rw [hb, toNat_ofNat_of_lt hlt]
    exact hn
  have hmore {n : Nat} (hb : b = following n) : 0x80 ≤ b.toNat := hb ▸ (following_bounds n).1
  by_cases htwo : c.toNat < 0x800
  · rw [charBytes_two h htwo] at hb
    simp only [List.mem_cons, List.not_mem_nil, or_false] at hb
    exact hb.elim (hfirst (by omega) (by omega)) hmore
  by_cases hthree : c.toNat < 0x10000
  · rw [charBytes_three (by omega) hthree] at hb
    simp only [List.mem_cons, List.not_mem_nil, or_false] at hb
    exact hb.elim (hfirst (by omega) (by omega)) fun hb => hb.elim hmore hmore
  · rw [charBytes_four (by omega)] at hb
    simp only [List.mem_cons, List.not_mem_nil, or_false] at hb
    exact hb.elim (hfirst (by omega) (by omega)) fun hb =>
      hb.elim hmore fun hb => hb.elim hmore hmore

end

-- ======================================================= UTF-8, read

theorem continued_zero (low high : Nat) (r : List UInt8) : continued 0 low high r = 0 := by
  cases r with
  | nil => rfl
  | cons b r => rfl

/-- Only the second byte of a sequence has a range of its own. -/
theorem continued_append {b : UInt8} {more : List UInt8} {low high : Nat} (hlow : low ≤ b.toNat)
    (hhigh : b.toNat ≤ high) (hmore : ∀ c ∈ more, 0x80 ≤ c.toNat ∧ c.toNat ≤ 0xBF)
    (r : List UInt8) :
    continued (more.length + 1) low high (b :: more ++ r) = more.length + 1 := by
  induction more generalizing b low high with
  | nil =>
      rw [List.singleton_append, continued, if_neg (Nat.succ_ne_zero _), if_pos ⟨hlow, hhigh⟩]
      exact congrArg (· + 1) (continued_zero ..)
  | cons c more ih =>
      obtain ⟨hc, hmore⟩ := List.forall_mem_cons.1 hmore
      rw [List.cons_append, continued, if_neg (Nat.succ_ne_zero _), if_pos ⟨hlow, hhigh⟩]
      exact congrArg (· + 1) (ih hc.1 hc.2 hmore)

theorem shownBytes_ascii {b : UInt8} (h : b.toNat < 0x80) (r : List UInt8) :
    shownBytes (b :: r) = Char.ofNat b.toNat :: shownBytes r := by
  rw [shownBytes]
  exact if_pos h

/-- The character that a sequence of bytes stands for. -/
def sequenceValue (b : UInt8) (tail : List UInt8) : Nat :=
  tail.foldl (fun m c => 64 * m + c.toNat % 64)
    (if tail.length = 1 then b.toNat % 32
      else if tail.length = 2 then b.toNat % 16 else b.toNat % 8)

/-- A whole sequence of bytes shows one character. -/
theorem shownBytes_sequence {b c : UInt8} {more : List UInt8} {low high : Nat}
    (hb : 0x80 ≤ b.toNat) (hfirst : sequence? b.toNat = some (more.length + 1, low, high))
    (hlow : low ≤ c.toNat) (hhigh : c.toNat ≤ high)
    (hmore : ∀ d ∈ more, 0x80 ≤ d.toNat ∧ d.toNat ≤ 0xBF) (r : List UInt8) :
    shownBytes (b :: c :: more ++ r) = Char.ofNat (sequenceValue b (c :: more)) :: shownBytes r := by
  rw [List.cons_append, shownBytes]
  dsimp only
  rw [if_neg (Nat.not_lt.2 hb), hfirst]
  dsimp only
  rw [continued_append hlow hhigh hmore, if_pos rfl]
  have htake : (c :: more ++ r).take (more.length + 1) = c :: more := List.take_left' rfl
  have hdrop : (c :: more ++ r).drop (more.length + 1) = r := List.drop_left' rfl
  rw [htake, hdrop]
  rfl

/-- Any first byte of three is followed by what it allows. -/
theorem sequence?_three {v : Nat} (hlow : 0x800 ≤ v)
    (hvalid : v < 0xD800 ∨ 0xDFFF < v ∧ v < 0x10000) :
    ∃ low high, sequence? (v / 4096 + 224) = some (2, low, high)
      ∧ low ≤ v / 64 % 64 + 128 ∧ v / 64 % 64 + 128 ≤ high := by
  unfold sequence?
  rw [if_neg (by omega)]
  by_cases hfirst : v / 4096 + 224 = 0xE0
  · exact ⟨_, _, if_pos hfirst, by omega, by omega⟩
  rw [if_neg hfirst]
  by_cases hlast : v / 4096 + 224 = 0xED
  · exact ⟨_, _, if_pos hlast, by omega, by omega⟩
  rw [if_neg hlast]
  exact ⟨_, _, if_pos (by omega), by omega, by omega⟩

theorem sequence?_four {v : Nat} (hlow : 0x10000 ≤ v) (hhigh : v < 0x110000) :
    ∃ low high, sequence? (v / 262144 + 240) = some (3, low, high)
      ∧ low ≤ v / 4096 % 64 + 128 ∧ v / 4096 % 64 + 128 ≤ high := by
  unfold sequence?
  rw [if_neg (by omega), if_neg (by omega), if_neg (by omega), if_neg (by omega)]
  by_cases hfirst : v / 262144 + 240 = 0xF0
  · exact ⟨_, _, if_pos hfirst, by omega, by omega⟩
  rw [if_neg hfirst]
  by_cases hmiddle : 0xF1 ≤ v / 262144 + 240 ∧ v / 262144 + 240 ≤ 0xF3
  · exact ⟨_, _, if_pos hmiddle, by omega, by omega⟩
  rw [if_neg hmiddle]
  exact ⟨_, _, if_pos (by omega), by omega, by omega⟩

theorem shownBytes_two {v : Nat} (hlow : 0x80 ≤ v) (hhigh : v < 0x800) (r : List UInt8) :
    shownBytes (UInt8.ofNat (v / 64 + 192) :: following v :: r) = Char.ofNat v :: shownBytes r := by
  have hbyte := toNat_ofNat_of_lt (n := v / 64 + 192) (by omega)
  have hfirst : sequence? (v / 64 + 192) = some (1, 0x80, 0xBF) := if_pos (by omega)
  rw [← hbyte] at hfirst
  have hvalue : sequenceValue (UInt8.ofNat (v / 64 + 192)) [following v] = v := by
    show 64 * (_ % 32) + _ % 64 = v
    rw [hbyte, toNat_following]
    omega
  have hbounds := following_bounds v
  have hshown := shownBytes_sequence (by omega) hfirst hbounds.1 hbounds.2 (List.forall_mem_nil _) r
  rwa [hvalue] at hshown

theorem shownBytes_three {v : Nat} (hlow : 0x800 ≤ v)
    (hvalid : v < 0xD800 ∨ 0xDFFF < v ∧ v < 0x10000) (r : List UInt8) :
    shownBytes (UInt8.ofNat (v / 4096 + 224) :: following (v / 64) :: following v :: r)
      = Char.ofNat v :: shownBytes r := by
  have hbyte := toNat_ofNat_of_lt (n := v / 4096 + 224) (by omega)
  obtain ⟨low, high, hfirst, hsecond⟩ := sequence?_three hlow hvalid
  rw [← hbyte] at hfirst
  rw [← toNat_following] at hsecond
  have hvalue : sequenceValue (UInt8.ofNat (v / 4096 + 224)) [following (v / 64), following v]
      = v := by
    show 64 * (64 * (_ % 16) + _ % 64) + _ % 64 = v
    rw [hbyte, toNat_following, toNat_following]
    omega
  have hshown := shownBytes_sequence (by omega) hfirst hsecond.1 hsecond.2
    (List.forall_mem_singleton.2 (following_bounds v)) r
  rwa [hvalue] at hshown

theorem shownBytes_four {v : Nat} (hlow : 0x10000 ≤ v) (hhigh : v < 0x110000) (r : List UInt8) :
    shownBytes (UInt8.ofNat (v / 262144 + 240) :: following (v / 4096) :: following (v / 64)
        :: following v :: r)
      = Char.ofNat v :: shownBytes r := by
  have hbyte := toNat_ofNat_of_lt (n := v / 262144 + 240) (by omega)
  obtain ⟨low, high, hfirst, hsecond⟩ := sequence?_four hlow hhigh
  rw [← hbyte] at hfirst
  rw [← toNat_following] at hsecond
  have hvalue : sequenceValue (UInt8.ofNat (v / 262144 + 240))
      [following (v / 4096), following (v / 64), following v] = v := by
    show 64 * (64 * (64 * (_ % 8) + _ % 64) + _ % 64) + _ % 64 = v
    rw [hbyte, toNat_following, toNat_following, toNat_following]
    omega
  have hmore : ∀ d ∈ [following (v / 64), following v], 0x80 ≤ d.toNat ∧ d.toNat ≤ 0xBF :=
    List.forall_mem_cons.2
      ⟨following_bounds _, List.forall_mem_singleton.2 (following_bounds v)⟩
  have hshown := shownBytes_sequence (by omega) hfirst hsecond.1 hsecond.2 hmore r
  rwa [hvalue] at hshown

/-- The bytes of a character show it. -/
theorem shownBytes_charBytes (c : Char) (r : List UInt8) :
    shownBytes (charBytes c ++ r) = c :: shownBytes r := by
  have hvalid := toNat_lt c
  have hchar : Char.ofNat c.toNat :: shownBytes r = c :: shownBytes r := by rw [Char.ofNat_toNat]
  refine Eq.trans ?_ hchar
  by_cases hone : c.toNat < 0x80
  · have hbyte := toNat_ofNat_of_lt (n := c.toNat) (by omega)
    rw [charBytes_one hone, List.singleton_append, shownBytes_ascii (by omega), hbyte]
  by_cases htwo : c.toNat < 0x800
  · rw [charBytes_two (by omega) htwo]
    exact shownBytes_two (by omega) htwo r
  by_cases hthree : c.toNat < 0x10000
  · rw [charBytes_three (by omega) hthree]
    exact shownBytes_three (by omega) (by omega) r
  · rw [charBytes_four (by omega)]
    exact shownBytes_four (by omega) (by omega) r

/-- The bytes of a text show it. -/
theorem shownBytes_textBytes (s : List Char) : shownBytes (textBytes s) = s := by
  induction s with
  | nil => rw [textBytes, List.flatMap_nil, shownBytes]
  | cons c s ih =>
      rw [textBytes, List.flatMap_cons, shownBytes_charBytes]
      exact congrArg (c :: ·) ih

/-- The bytes of a text are UTF-8, and those of that text. -/
theorem ofBytes?_textBytes (s : List Char) : ofBytes? (textBytes s) = some (String.ofList s) := by
  have hbytes : (⟨(textBytes s).toArray⟩ : ByteArray) = s.utf8Encode := by
    ext1
    simp only [List.utf8Encode, List.data_toByteArray]
    rfl
  rw [ofBytes?, hbytes, String.fromUTF8?, dif_pos ⟨s, rfl⟩]
  rfl

-- ==================================================== percent signs

theorem hexValue?_upperHexDigit : ∀ n < 16, hexValue? (upperHexDigit n) = some n := by
  decide

theorem percentDecode_encodedByte (b : UInt8) (r : List Char) :
    percentDecode (encodedByte b ++ r) = b :: percentDecode r := by
  have hb : b.toNat < 256 := b.toNat_lt
  have hvalue : 16 * (b.toNat / 16) + b.toNat % 16 = b.toNat := by omega
  show percentDecode ('%' :: upperHexDigit _ :: upperHexDigit _ :: r) = _
  rw [percentDecode, hexValue?_upperHexDigit _ (by omega), hexValue?_upperHexDigit _ (by omega)]
  dsimp only
  rw [hvalue, UInt8.ofNat_toNat]

theorem percentDecode_encodedBytes (bytes : List UInt8) (r : List Char) :
    percentDecode (bytes.flatMap encodedByte ++ r) = bytes ++ percentDecode r := by
  induction bytes with
  | nil => rfl
  | cons b bytes ih =>
      rw [List.flatMap_cons, List.append_assoc, percentDecode_encodedByte, ih]
      rfl

theorem percentDecode_cons {c : Char} (hc : c ≠ '%') (r : List Char) :
    percentDecode (c :: r) = charBytes c ++ percentDecode r := by
  rw [percentDecode]
  intro _ _ _ h
  exact absurd h hc

theorem percentEncode_cons (encoded : Char → Bool) (c : Char) (s : List Char) :
    percentEncode encoded (c :: s)
      = (if encoded c || 0x80 ≤ c.toNat then (charBytes c).flatMap encodedByte else [c])
        ++ percentEncode encoded s :=
  List.flatMap_cons

/-- What is encoded is decoded to its bytes, if a percent sign is encoded. -/
theorem percentDecode_percentEncode {encoded : Char → Bool} (hpercent : encoded '%' = true)
    (s : List Char) : percentDecode (percentEncode encoded s) = textBytes s := by
  induction s with
  | nil => rfl
  | cons c s ih =>
      have hbytes : textBytes (c :: s) = charBytes c ++ textBytes s := List.flatMap_cons
      rw [percentEncode_cons, hbytes, ← ih]
      by_cases hc : (encoded c || 0x80 ≤ c.toNat) = true
      · rw [if_pos hc]
        exact percentDecode_encodedBytes ..
      · rw [if_neg hc]
        refine percentDecode_cons ?_ _
        rintro rfl
        rw [hpercent] at hc
        exact hc rfl

theorem percentEncode_of_forall {encoded : Char → Bool} {s : List Char}
    (h : ∀ c ∈ s, encoded c = false ∧ c.toNat < 0x80) : percentEncode encoded s = s := by
  induction s with
  | nil => rfl
  | cons c s ih =>
      obtain ⟨hc, hs⟩ := List.forall_mem_cons.1 h
      have hnot : ¬ (encoded c || 0x80 ≤ c.toNat) = true := by
        simpa [hc.1] using hc.2
      rw [percentEncode_cons, if_neg hnot, ih hs]
      rfl

end Marginalia.Url
