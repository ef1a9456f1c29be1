/-
Character references: what an ampersand and the characters after it
stand for. A reference gives a code point in base ten or sixteen, or a
name; of the names that fit, the longest counts. In an attribute a name
without its semicolon is no reference where a letter, a digit or an equals
sign follows, so that the parameters of a URL stay as they are.
-/
import Marginalia.Html.Reference.Names
import Std.Data.HashMap

namespace Marginalia.Html

/-- What stands in for characters that cannot be there. -/
def replacement : Char :=
  Char.ofNat 0xFFFD

/-- Whether a character is an ASCII letter or digit. -/
def isAsciiAlphanumeric (c : Char) : Bool :=
  c.isAlpha || c.isDigit

namespace Reference

/-- The value of a digit of base sixteen. -/
def digitValue (c : Char) : Nat :=
  if c.isDigit then c.toNat - '0'.toNat
  else (c.toLower.toNat - 'a'.toNat) + 10

/-- Whether a character is a digit of base sixteen. -/
def isHexDigit (c : Char) : Bool :=
  c.isDigit || ('a' ≤ c.toLower && c.toLower ≤ 'f')

/-- The value of digits in a base. -/
def valueOf (base : Nat) (digits : List Char) : Nat :=
  digits.foldl (fun n c => base * n + digitValue c) 0

/-- What the code points from 80 to 9F stand for in references. Zero marks
one that stands for itself. -/
def legacyCodes : List Nat :=
  [0x20AC, 0, 0x201A, 0x192, 0x201E, 0x2026, 0x2020, 0x2021, 0x2C6, 0x2030,
   0x160, 0x2039, 0x152, 0, 0x17D, 0, 0, 0x2018, 0x2019, 0x201C, 0x201D,
   0x2022, 0x2013, 0x2014, 0x2DC, 0x2122, 0x161, 0x203A, 0x153, 0, 0x17E,
   0x178]

/-- The character that a numeric reference stands for. -/
def ofCode (n : Nat) : Char :=
  if n = 0 ∨ 0x10FFFF < n ∨ (0xD800 ≤ n ∧ n ≤ 0xDFFF) then replacement
  else
    match legacyCodes[n - 0x80]? with
    | some m => if n < 0x80 ∨ m = 0 then Char.ofNat n else Char.ofNat m
    | none => Char.ofNat n

/-- The pairs in a list of words. -/
def pairs : List String → List (String × List Char)
  | name :: codes :: more =>
    let chars := (codes.splitOn "+").map fun code =>
      Char.ofNat (valueOf 16 code.toList)
    (name, chars) :: pairs more
  | _ => []

/-- The characters that a name stands for. -/
def byName : Std.HashMap String (List Char) :=
  Std.HashMap.ofList (referenceNames.flatMap fun line => pairs (line.splitOn " "))

/-- The length of the longest name. -/
def longestName : Nat :=
  32

/-- The longest name of at most `n` characters that a text begins with. -/
def longestMatch (s : List Char) : Nat → Option (List Char × List Char × List Char)
  | 0 => none
  | n + 1 =>
    let name := s.take (n + 1)
    match byName[String.ofList name]? with
    | some chars => some (name, chars, s.drop (n + 1))
    | none => longestMatch s n

theorem length_longestMatch {s : List Char} {n : Nat} {a b rest : List Char}
    (h : longestMatch s n = some (a, b, rest)) : rest.length ≤ s.length := by
  induction n with
  | zero => simp [longestMatch] at h
  | succ n ih =>
    rw [longestMatch] at h
    split at h
    · simp only [Option.some.injEq, Prod.mk.injEq] at h
      simp [← h.2.2]
    · exact ih h

/-- The characters of a named reference, and what follows it. -/
def named? (inAttribute : Bool) (s : List Char) : Option (List Char × List Char) :=
  let run := (s.take longestName).takeWhile isAsciiAlphanumeric
  match longestMatch s (run.length + 1) with
  | none => none
  | some (name, chars, rest) =>
    let ends := name.getLast? = some ';'
    let runsOn := (rest.head?.map fun c => c = '=' || isAsciiAlphanumeric c).getD false
    if inAttribute ∧ ¬ ends ∧ runsOn then none else some (chars, rest)

theorem length_named? {inAttribute : Bool} {s a rest : List Char}
    (h : named? inAttribute s = some (a, rest)) : rest.length ≤ s.length := by
  simp only [named?] at h
  split at h
  · simp at h
  · next hm =>
    split at h
    · simp at h
    · simp only [Option.some.injEq, Prod.mk.injEq] at h
      exact h.2 ▸ length_longestMatch hm

/-- The rest of a numeric reference after its digits. -/
def dropSemicolon : List Char → List Char
  | ';' :: r => r
  | r => r

/-- The character of a numeric reference in a base, and what follows. -/
def numeric? (base : Nat) (isDigit : Char → Bool) (s : List Char) :
    Option (List Char × List Char) :=
  match s.takeWhile isDigit with
  | [] => none
  | digits =>
    some ([ofCode (valueOf base digits)], dropSemicolon (s.dropWhile isDigit))

theorem length_numeric? {base : Nat} {isDigit : Char → Bool} {s a rest : List Char}
    (h : numeric? base isDigit s = some (a, rest)) : rest.length ≤ s.length := by
  unfold numeric? at h
  have hd := (List.dropWhile_sublist isDigit (l := s)).length_le
  split at h
  · simp at h
  · simp only [Option.some.injEq, Prod.mk.injEq] at h
    have hs : (dropSemicolon (s.dropWhile isDigit)).length ≤ (s.dropWhile isDigit).length := by
      generalize s.dropWhile isDigit = t
      unfold dropSemicolon
      split <;> simp
    rw [← h.2]
    omega

/-- What the characters after an ampersand refer to, and what follows
them. -/
def ofText? (inAttribute : Bool) : List Char → Option (List Char × List Char)
  | '#' :: 'x' :: r => numeric? 16 isHexDigit r
  | '#' :: 'X' :: r => numeric? 16 isHexDigit r
  | '#' :: r => numeric? 10 Char.isDigit r
  | c :: r => if isAsciiAlphanumeric c then named? inAttribute (c :: r) else none
  | [] => none

theorem length_ofText? {inAttribute : Bool} {s a rest : List Char}
    (h : ofText? inAttribute s = some (a, rest)) : rest.length ≤ s.length := by
  unfold ofText? at h
  split at h
  · have := length_numeric? h
    simp; omega
  · have := length_numeric? h
    simp; omega
  · have := length_numeric? h
    simp; omega
  · split at h
    · exact length_named? h
    · simp at h
  · simp at h

end Reference

end Marginalia.Html
