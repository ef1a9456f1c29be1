/-
JSON as text, in two layouts: compact, with no white space at all, and
indented by two spaces with one member or item on a line. Both write an
empty array or object as its two brackets.
-/
import Marginalia.Json.Basic

namespace Marginalia.Json

/-- A digit of base sixteen, lower case. -/
def hexDigit (n : Nat) : Char :=
  (Nat.digitChar (n % 16))

/-- A character as it stands in a JSON string: a quotation mark, a
backslash and the controls are escaped, every other stands for
itself. -/
def escapedChar (c : Char) : List Char :=
  if c = '\x22' then ['\\', '\x22']
  else if c = '\\' then ['\\', '\\']
  else if c = '\x08' then ['\\', 'b']
  else if c = '\t' then ['\\', 't']
  else if c = '\n' then ['\\', 'n']
  else if c = '\x0c' then ['\\', 'f']
  else if c = '\r' then ['\\', 'r']
  else if c.toNat < 0x20 then
    ['\\', 'u', '0', '0', hexDigit (c.toNat / 16), hexDigit c.toNat]
  else [c]

/-- A JSON string with its quotation marks. -/
def quoted (s : String) : List Char :=
  '\x22' :: s.toList.flatMap escapedChar ++ ['\x22']

/-- The digits of a whole number. -/
def digits (n : Nat) : List Char :=
  Nat.toDigits 10 n

/-- The text of a value that is neither an array nor an object. -/
def scalar : Json → List Char
  | .null => ['n', 'u', 'l', 'l']
  | .bool true => ['t', 'r', 'u', 'e']
  | .bool false => ['f', 'a', 'l', 's', 'e']
  | .natural n => digits n
  | .negative n => '-' :: digits n
  | .decimal shown => shown.toList
  | .string s => quoted s
  | .array _ => []
  | .object _ => []

-- ======================================================== compact

mutual

/-- A value without white space. -/
def compactChars : Json → List Char
  | .array items => '[' :: compactItems items
  | .object members => '{' :: compactMembers members
  | v => scalar v

/-- The items of an array and its closing bracket. -/
def compactItems : List Json → List Char
  | [] => [']']
  | [v] => compactChars v ++ [']']
  | v :: more => compactChars v ++ ',' :: compactItems more

/-- The members of an object and its closing bracket. -/
def compactMembers : List (String × Json) → List Char
  | [] => ['}']
  | [(k, v)] => quoted k ++ ':' :: compactChars v ++ ['}']
  | (k, v) :: more =>
    quoted k ++ ':' :: compactChars v ++ ',' :: compactMembers more

end

/-- The text of a value without white space. -/
def compact (v : Json) : String :=
  String.ofList v.compactChars

-- ======================================================= indented

/-- A line break and the indentation of the given depth. -/
def lineBreak (depth : Nat) : List Char :=
  '\n' :: List.replicate (2 * depth) ' '

mutual

/-- A value indented to the given depth. -/
def prettyChars (depth : Nat) : Json → List Char
  | .array [] => ['[', ']']
  | .array (v :: more) =>
    '[' :: lineBreak (depth + 1) ++ prettyChars (depth + 1) v
      ++ prettyItems depth more
  | .object [] => ['{', '}']
  | .object ((k, v) :: more) =>
    '{' :: lineBreak (depth + 1) ++ quoted k ++ ':' :: ' '
      :: prettyChars (depth + 1) v ++ prettyMembers depth more
  | v => scalar v

/-- The items after the first and the closing bracket. -/
def prettyItems (depth : Nat) : List Json → List Char
  | [] => lineBreak depth ++ [']']
  | v :: more =>
    ',' :: lineBreak (depth + 1) ++ prettyChars (depth + 1) v
      ++ prettyItems depth more

/-- The members after the first and the closing bracket. -/
def prettyMembers (depth : Nat) : List (String × Json) → List Char
  | [] => lineBreak depth ++ ['}']
  | (k, v) :: more =>
    ',' :: lineBreak (depth + 1) ++ quoted k ++ ':' :: ' '
      :: prettyChars (depth + 1) v ++ prettyMembers depth more

end

/-- The text of a value, indented. -/
def pretty (v : Json) : String :=
  String.ofList (v.prettyChars 0)

end Marginalia.Json
