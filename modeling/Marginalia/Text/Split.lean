/-
Cutting texts apart, joining them and trimming them. `splitFirst` cuts a
text around the first occurrence of a separator; everything that asks
"does it occur" or "what stands before it" goes through that one
function. `splitOnChar` cuts at every occurrence of one character, lines
being what stands between line feeds, and `joinWith` puts pieces
together. Trimming takes white space away, which means the Unicode
property White_Space, twenty-five characters, wherever the word is used
in this library.
-/
namespace Marginalia.Text

/-- What follows `head` in a text that begins with it. -/
def dropHead? (head s : List Char) : Option (List Char) :=
  head.isPrefixOf? s

/-- The text before and the text after the first occurrence of `sep`. -/
def splitFirst (sep : List Char) : List Char → Option (List Char × List Char)
  | [] => if sep = [] then some ([], []) else none
  | c :: r =>
    match dropHead? sep (c :: r) with
    | some tail => some ([], tail)
    | none => (splitFirst sep r).map fun (head, tail) => (c :: head, tail)

theorem dropHead?_eq_some {head s tail : List Char} :
    dropHead? head s = some tail ↔ s = head ++ tail := by
  induction head generalizing s with
  | nil =>
    show some s = some tail ↔ s = tail
    rw [Option.some.injEq]
  | cons a head ih =>
    cases s with
    | nil =>
      show none = some tail ↔ [] = a :: (head ++ tail)
      simp
    | cons b s =>
      show (if a == b then dropHead? head s else none) = some tail
        ↔ b :: s = a :: (head ++ tail)
      by_cases h : a = b
      · subst h; simp [ih]
      · simp [h, Ne.symm h]

/-- A cut loses nothing but the separator. -/
theorem eq_of_splitFirst {sep s head tail : List Char}
    (h : splitFirst sep s = some (head, tail)) : s = head ++ sep ++ tail := by
  induction s generalizing head with
  | nil =>
    by_cases hs : sep = []
    · simp [splitFirst, hs] at h; simp [h, hs]
    · simp [splitFirst, hs] at h
  | cons c r ih =>
    rw [splitFirst] at h
    split at h
    · next t ht =>
      simp only [Option.some.injEq, Prod.mk.injEq] at h
      obtain ⟨rfl, rfl⟩ := h
      simpa using dropHead?_eq_some.1 ht
    · obtain ⟨⟨a, b⟩, hab, he⟩ := Option.map_eq_some_iff.1 h
      simp only [Prod.mk.injEq] at he
      obtain ⟨rfl, rfl⟩ := he
      simp [ih hab]

/-- Whether the text begins with `head`. -/
def beginsWith (head s : List Char) : Bool :=
  (dropHead? head s).isSome

/-- The text without `tail` at its end, where it ends with it. -/
def dropTail? (tail s : List Char) : Option (List Char) :=
  (dropHead? tail.reverse s.reverse).map List.reverse

/-- The pieces between the occurrences of one character; a text without
it is one piece. -/
def splitOnChar (sep : Char) : List Char → List (List Char)
  | [] => [[]]
  | c :: r =>
    if c = sep then [] :: splitOnChar sep r
    else
      match splitOnChar sep r with
      | [] => [[c]]
      | piece :: more => (c :: piece) :: more

/-- The pieces between line feeds; a text without one is one piece. -/
def splitLines (s : List Char) : List (List Char) :=
  splitOnChar '\n' s

/-- The pieces in order with `sep` between neighbours. -/
def joinWith (sep : List Char) : List (List Char) → List Char
  | [] => []
  | [s] => s
  | s :: more => s ++ sep ++ joinWith sep more

-- ======================================================= white space

/-- The Unicode property White_Space. -/
def isBlank (c : Char) : Bool :=
  let n := c.toNat
  (0x9 ≤ n && n ≤ 0xD) || n == 0x20 || n == 0x85 || n == 0xA0
    || n == 0x1680 || (0x2000 ≤ n && n ≤ 0x200A) || n == 0x2028
    || n == 0x2029 || n == 0x202F || n == 0x205F || n == 0x3000

/-- The text without its leading white space. -/
def trimStart (s : List Char) : List Char :=
  s.dropWhile isBlank

/-- The text without its trailing white space. -/
def trimEnd (s : List Char) : List Char :=
  (s.reverse.dropWhile isBlank).reverse

/-- The text without white space at either end. -/
def trim (s : List Char) : List Char :=
  trimEnd (trimStart s)

end Marginalia.Text
