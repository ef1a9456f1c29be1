/-
The number of terminal columns a text takes. Most characters count by
themselves: none, one or two columns. A few clusters count as a whole:
a line feed after a carriage return, emoji sequences, and the letter
pairs that are drawn as one ligature.
-/
import Marginalia.Text.WidthTable

namespace Marginalia.Text

/-- Columns of a character that stands for itself. -/
def charWidth (c : Char) : Nat :=
  if c.toNat ≤ 0xA0 then 1
  else if c.toNat = 0x17D8 then 3
  else if inRanges wideRanges c then 2
  else if inRanges zeroWidthRanges c then 0
  else 1

-- ================================================== emoji sequences

/-- Skin-tone modifiers. -/
def isEmojiModifier (c : Char) : Bool :=
  0x1F3FB ≤ c.toNat && c.toNat ≤ 0x1F3FF

/-- How many characters after `c` belong to one emoji that starts with
`c`: a variation selector with its keycap, or a skin tone. -/
def emojiTail? (c : Char) (r : List Char) : Option Nat :=
  match r with
  | d :: more =>
    if d.toNat = 0xFE0F && inRanges emojiVariationRanges c then
      match more with
      | e :: _ => some (if e.toNat = 0x20E3 then 2 else 1)
      | [] => some 1
    else if isEmojiModifier d && inRanges emojiModifierBaseRanges c then
      some 1
    else if inRanges emojiPresentationRanges c then some 0
    else none
  | [] => if inRanges emojiPresentationRanges c then some 0 else none

/-- How many characters of the text join further emoji to the one before
it, each by a zero width joiner. -/
def joinedLength : List Char → Nat
  | z :: c :: r =>
    if z.toNat = 0x200D then
      match emojiTail? c r with
      | some k => 2 + k + joinedLength (r.drop k)
      | none => 0
    else 0
  | _ => 0
termination_by s => s.length
decreasing_by simp only [List.length_drop, List.length_cons]; omega

-- ======================================================= ligatures

/-- Arabic letters of the joining group Lam. -/
def isLam (c : Char) : Bool :=
  let n := c.toNat
  n == 0x644 || (0x6B5 ≤ n && n ≤ 0x6B8) || n == 0x76A || n == 0x8A6
    || n == 0x8C7

/-- Arabic letters of the joining group Alef. -/
def isAlef (c : Char) : Bool :=
  let n := c.toNat
  n == 0x622 || n == 0x623 || n == 0x625 || n == 0x627
    || (0x671 ≤ n && n ≤ 0x673) || n == 0x675 || n == 0x773 || n == 0x774

/-- Khmer letters that lose their width after the sign coeng. -/
def isCoengLetter (c : Char) : Bool :=
  let n := c.toNat
  0x1780 ≤ n && n ≤ 0x17AF

/-- Tifinagh consonants, which a joiner fuses in pairs. -/
def isTifinaghConsonant (c : Char) : Bool :=
  let n := c.toNat
  (0x2D31 ≤ n && n ≤ 0x2D65) || n == 0x2D6F

/-- The length of the ligature's rest where `c` begins one, and the
columns of the whole. -/
def ligature? (c : Char) (r : List Char) : Option (Nat × Nat) :=
  let n := c.toNat
  if isLam c then
    let marks := r.takeWhile (inRanges graphemeExtending)
    match r.drop marks.length with
    | d :: _ => if isAlef d then some (1, marks.length + 1) else none
    | [] => none
  else
    match r with
    | d :: more =>
      if n = 0x17D2 && isCoengLetter d then some (0, 1)
      else if 0xA4F8 ≤ n && n ≤ 0xA4FB && (d.toNat = 0xA4FC || d.toNat = 0xA4FD)
      then some (1, 1)
      else
        match more with
        | e :: _ =>
          if n = 0x5D0 && d.toNat = 0x200D && e.toNat = 0x5DC then some (1, 2)
          else if n = 0x10C32 && d.toNat = 0x200D && e.toNat = 0x10C03 then
            some (1, 2)
          else if isTifinaghConsonant c && isTifinaghConsonant e
              && (d.toNat = 0x200D || d.toNat = 0x2D7F) then some (1, 2)
          else none
        | [] => none
    | [] => none
where
  /-- Marks that may stand inside a ligature. -/
  graphemeExtending : Array (Nat × Nat) :=
    #[(0x610, 0x61A), (0x64B, 0x65F), (0x670, 0x670), (0x6D6, 0x6DC),
      (0x6DF, 0x6E4), (0x6E7, 0x6E8), (0x6EA, 0x6ED), (0x8CA, 0x8E1),
      (0x8E3, 0x8FF)]

-- =========================================================== width

/-- The columns of the cluster that begins with `c`, and how many
characters after `c` belong to it. -/
def cluster (c : Char) (r : List Char) : Nat × Nat :=
  match ligature? c r with
  | some found => found
  | none =>
    match emojiTail? c r with
    | some k => (2, k + joinedLength (r.drop k))
    | none =>
      match r with
      | d :: _ =>
        if c = '\r' && d = '\n' then (1, 1)
        else (charWidth c, 0)
      | [] => (charWidth c, 0)

/-- Whether a text selector narrows the emoji `c` to one column. -/
def narrowedBySelector (c : Char) (r : List Char) : Bool :=
  match r with
  | d :: _ =>
    d.toNat = 0xFE0E && inRanges emojiPresentationRanges c
      && inRanges emojiVariationRanges c
      && !(0x1F200 ≤ c.toNat && c.toNat ≤ 0x1F2FF)
  | [] => false

/-- The number of terminal columns of a text. -/
def width : List Char → Nat
  | [] => 0
  | c :: r =>
    if narrowedBySelector c r then 1 + width r
    else
      let (columns, more) := cluster c r
      columns + width (r.drop more)
termination_by s => s.length
decreasing_by
  all_goals simp only [List.length_drop, List.length_cons]; omega

end Marginalia.Text
