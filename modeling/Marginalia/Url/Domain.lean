/-
Domain names in ASCII. Each character is put in lower case or mapped as
the Unicode standard for domain names has it, marks are composed with
the letters they stand on, and a label with characters beyond ASCII is
written in Punycode after the marker "xn--". A label that carries the
marker already has to stand for a valid one.
-/
import Marginalia.Text.Split
import Marginalia.Url.Domain.ComposeData
import Marginalia.Url.Domain.MappingData
import Marginalia.Url.Domain.ValidData
import Marginalia.Url.Punycode

namespace Marginalia.Url.Domain

-- ============================================================ tables

/-- The value of digits of base sixteen, lower case. -/
def hexNumber (s : List Char) : Nat :=
  s.foldl (fun n c =>
    16 * n + (if c.isDigit then c.toNat - '0'.toNat
      else c.toNat - 'a'.toNat + 10)) 0

/-- The entries of a table: numbers between commas, entries between
blanks. -/
def entries (table : String) : List (List Nat) :=
  let lines := Text.splitLines table.toList
  let words := lines.flatMap (Text.splitOnChar ' ')
  (words.filter (!·.isEmpty)).map fun word =>
    (Text.splitOnChar ',' word).map hexNumber

/-- The runs of characters that are mapped to one character each. -/
def runTable : Array (Nat × Nat × Nat × Nat) :=
  ((entries mappedRuns).filterMap fun
    | [first, last, step, target] => some (first, last, step, target)
    | _ => none).toArray

/-- The characters that are mapped to several. -/
def manyTable : Array (Nat × List Char) :=
  ((entries mappedToMany).filterMap fun
    | c :: target => some (c, target.map Char.ofNat)
    | [] => none).toArray

/-- A table of ranges. -/
def rangeTable (table : String) : Array (Nat × Nat) :=
  ((entries table).filterMap fun
    | [first, last] => some (first, last)
    | _ => none).toArray

/-- Characters that are dropped. -/
def ignoredTable : Array (Nat × Nat) :=
  rangeTable ignoredRanges

/-- Characters beyond ASCII that stay as they are. -/
def validTable : Array (Nat × Nat) :=
  rangeTable validRanges

/-- Pairs that compose. -/
def pairTable : Array (Nat × Nat × Nat) :=
  ((entries compositionPairs).filterMap fun
    | [a, b, c] => some (a, b, c)
    | _ => none).toArray

/-- Combining classes. -/
def classTable : Array (Nat × Nat × Nat) :=
  ((entries combiningClasses).filterMap fun
    | [first, last, k] => some (first, last, k)
    | _ => none).toArray

-- =========================================================== mapping

/-- Whether a character beyond ASCII may stand in a label. -/
def isValid (c : Char) : Bool :=
  validTable.any fun (first, last) => first ≤ c.toNat && c.toNat ≤ last

/-- What a character is mapped to; `none` if it may not occur. -/
def mapChar? (c : Char) : Option (List Char) :=
  let n := c.toNat
  if n < 0x80 then some [c.toLower]
  else if isValid c then some [c]
  else
    match runTable.find? fun (first, last, step, _) =>
        first ≤ n && n ≤ last && (n - first) % step == 0 with
    | some (first, _, _, target) => some [Char.ofNat (target + (n - first))]
    | none =>
      match manyTable.find? fun (d, _) => d == n with
      | some (_, target) => some target
      | none =>
        if ignoredTable.any fun (first, last) => first ≤ n && n ≤ last then
          some []
        else none

/-- The mapped text; `none` if a character may not occur. -/
def mapAll? : List Char → Option (List Char)
  | [] => some []
  | c :: r => do
    let a ← mapChar? c
    let b ← mapAll? r
    return a ++ b

-- ======================================================= composition

/-- The combining class of a character. -/
def combiningClass (c : Char) : Nat :=
  match classTable.find? fun (first, last, _) =>
      first ≤ c.toNat && c.toNat ≤ last with
  | some (_, _, k) => k
  | none => 0

/-- A character in its parts. -/
def decompose : Nat → Char → List Char
  | 0, c => [c]
  | fuel + 1, c =>
    let n := c.toNat
    if 0xAC00 ≤ n ∧ n ≤ 0xD7A3 then
      let s := n - 0xAC00
      let head := [Char.ofNat (0x1100 + s / 588), Char.ofNat (0x1161 + s % 588 / 28)]
      if s % 28 = 0 then head else head ++ [Char.ofNat (0x11A7 + s % 28)]
    else
      match pairTable.find? fun (_, _, whole) => whole == n with
      | some (a, b, _) => decompose fuel (Char.ofNat a) ++ [Char.ofNat b]
      | none => [c]

/-- Puts a mark into its place among marks: after those of its own and
of lower class. -/
def insertMark (c : Char) : List Char → List Char
  | [] => [c]
  | d :: r =>
    if combiningClass c < combiningClass d then c :: d :: r
    else d :: insertMark c r

/-- Marks in the order of their classes. -/
def reorder : List Char → List Char → List Char
  | marks, [] => marks
  | marks, c :: r =>
    if combiningClass c = 0 then marks ++ c :: reorder [] r
    else reorder (insertMark c marks) r

/-- The character that two make. -/
def compose? (a b : Char) : Option Char :=
  let m := a.toNat
  let n := b.toNat
  if 0x1100 ≤ m ∧ m ≤ 0x1112 ∧ 0x1161 ≤ n ∧ n ≤ 0x1175 then
    some (Char.ofNat (0xAC00 + ((m - 0x1100) * 21 + (n - 0x1161)) * 28))
  else if 0xAC00 ≤ m ∧ m ≤ 0xD7A3 ∧ (m - 0xAC00) % 28 = 0
      ∧ 0x11A8 ≤ n ∧ n ≤ 0x11C2 then
    some (Char.ofNat (m + (n - 0x11A7)))
  else
    match pairTable.find? fun (x, y, _) => x == m && y == n with
    | some (_, _, whole) => some (Char.ofNat whole)
    | none => none

/-- Composes a starter with what follows it. `skipped` are the marks in
between that did not compose, latest first. -/
def composeFrom (starter : Char) (skipped : List Char) : List Char → List Char
  | [] => starter :: skipped.reverse
  | c :: r =>
    let k := combiningClass c
    let blocked :=
      match skipped with
      | [] => false
      | d :: _ => k ≤ combiningClass d
    match if blocked then none else compose? starter c with
    | some whole => composeFrom whole skipped r
    | none =>
      if k = 0 then starter :: skipped.reverse ++ composeFrom c [] r
      else composeFrom starter (c :: skipped) r

/-- A text in composed form. -/
def normalize (s : List Char) : List Char :=
  match reorder [] (s.flatMap (decompose 8)) with
  | [] => []
  | c :: r => composeFrom c [] r

-- ============================================================ labels

/-- ASCII characters that no domain name may hold. -/
def isForbidden (c : Char) : Bool :=
  c.toNat ≤ 0x20 || c.toNat == 0x7F
    || ['%', '#', '/', ':', '<', '>', '?', '@', '[', '\\', ']', '^', '|'].contains c

/-- The marker of a label in Punycode. -/
def marker : List Char :=
  ['x', 'n', '-', '-']

/-- Whether a text may be what a label in Punycode stands for. -/
def isProperLabel (s : List Char) : Bool :=
  s.any (0x80 ≤ ·.toNat)
    && s.all (fun c =>
      if c.toNat < 0x80 then !isForbidden c && !c.isUpper else isValid c)
    && normalize s == s
    && (match s with
      | c :: _ => combiningClass c == 0
      | [] => true)

/-- One label in ASCII. -/
def labelToAscii? (s : List Char) : Option (List Char) :=
  match Text.dropHead? marker s with
  | some rest =>
    match Punycode.decode? rest with
    | some meant =>
      if s.all (·.toNat < 0x80) && isProperLabel meant then some s else none
    | none => none
  | none =>
    if s.all (·.toNat < 0x80) then some s
    else if isProperLabel s then some (marker ++ Punycode.encode s)
    else none

/-- A domain name in ASCII. -/
def toAscii? (s : List Char) : Option (List Char) := do
  let mapped ←
    if s.all (·.toNat < 0x80) then some (s.map Char.toLower)
    else normalize <$> mapAll? s
  if mapped.any fun c => c.toNat < 0x80 && isForbidden c then none
  let labels ← (Text.splitOnChar '.' mapped).mapM labelToAscii?
  return Text.joinWith ['.'] labels

end Marginalia.Url.Domain
