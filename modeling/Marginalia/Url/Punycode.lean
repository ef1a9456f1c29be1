/-
Punycode, by which a label with letters beyond ASCII is written in ASCII
letters and digits. The plain characters come first; then, for each
other character in order of code point, the number of steps to it from
the one before, as digits of base thirty-six whose thresholds adapt.
-/
namespace Marginalia.Url.Punycode

/-- The digit with the given value: letters, then figures. -/
def digitChar (d : Nat) : Char :=
  if d < 26 then Char.ofNat ('a'.toNat + d) else Char.ofNat ('0'.toNat + (d - 26))

/-- The value of a digit in either case. -/
def digitValue? (c : Char) : Option Nat :=
  if 'a' ≤ c ∧ c ≤ 'z' then some (c.toNat - 'a'.toNat)
  else if 'A' ≤ c ∧ c ≤ 'Z' then some (c.toNat - 'A'.toNat)
  else if c.isDigit then some (c.toNat - '0'.toNat + 26)
  else none

/-- The threshold of the digit at position `k`. -/
def threshold (k bias : Nat) : Nat :=
  if k ≤ bias then 1 else if bias + 26 ≤ k then 26 else k - bias

/-- Divides by 35 until at most 455 is left, counting in steps of 36. -/
def settle (fuel delta k : Nat) : Nat :=
  match fuel with
  | 0 => k
  | fuel + 1 =>
    if 455 < delta then settle fuel (delta / 35) (k + 36)
    else k + 36 * delta / (delta + 38)

/-- The bias after a step of `delta` that was the `count`-th. -/
def adapt (delta count : Nat) (first : Bool) : Nat :=
  let d := if first then delta / 700 else delta / 2
  settle 64 (d + d / count) 0

-- ======================================================== encoding

/-- A number as digits from position `k` on. -/
def digitsFrom (fuel q k bias : Nat) : List Char :=
  match fuel with
  | 0 => []
  | fuel + 1 =>
    let t := threshold k bias
    if q < t then [digitChar q]
    else
      digitChar (t + (q - t) % (36 - t))
        :: digitsFrom fuel ((q - t) / (36 - t)) (k + 36) bias

/-- The state of the encoder between two characters. -/
structure State where
  delta : Nat
  bias : Nat
  /-- How many characters have been written. -/
  done : Nat
  output : List Char

/-- Goes once through the text to write every occurrence of the code
point `n`. -/
def pass (n basic : Nat) (st : State) : List Nat → State
  | [] => st
  | c :: r =>
    if c < n then pass n basic { st with delta := st.delta + 1 } r
    else if c = n then
      let ds := digitsFrom 64 st.delta 36 st.bias
      pass n basic
        { delta := 0
          bias := adapt st.delta (st.done + 1) (st.done == basic)
          done := st.done + 1
          output := st.output ++ ds } r
    else pass n basic st r

/-- Writes the characters from code point `n` on. -/
def encodeFrom (fuel n basic : Nat) (cs : List Nat) (st : State) : State :=
  match fuel with
  | 0 => st
  | fuel + 1 =>
    match (cs.filter (n ≤ ·)).min? with
    | none => st
    | some m =>
      let st := { st with delta := st.delta + (m - n) * (st.done + 1) }
      let st := pass m basic st cs
      encodeFrom fuel (m + 1) basic cs { st with delta := st.delta + 1 }

/-- The label in ASCII, without the marker in front. -/
def encode (s : List Char) : List Char :=
  let plain := s.filter fun c => c.toNat < 0x80
  let head := if plain.isEmpty then [] else plain ++ ['-']
  let st := encodeFrom (s.length + 1) 0x80 plain.length (s.map Char.toNat)
    ⟨0, 72, plain.length, []⟩
  head ++ st.output

-- ======================================================== decoding

/-- Reads one number: its value and the text after it. -/
def readDigits (i w k bias : Nat) : List Char → Option (Nat × List Char)
  | [] => none
  | c :: r => do
    let d ← digitValue? c
    let i := i + d * w
    let t := threshold k bias
    if d < t then return (i, r)
    else readDigits i (w * (36 - t)) (k + 36) bias r

/-- Reads numbers and inserts a character for each. -/
def decodeFrom (fuel n i bias : Nat) (out : List Nat) (s : List Char) :
    Option (List Nat) :=
  match fuel, s with
  | _, [] => some out
  | 0, _ => none
  | fuel + 1, s => do
    let (j, rest) ← readDigits i 1 36 bias s
    let count := out.length + 1
    let n := n + j / count
    if 0x10FFFF < n then none
    let place := j % count
    decodeFrom fuel n (place + 1) (adapt (j - i) count (i == 0))
      (out.take place ++ n :: out.drop place) rest

/-- The part before the last hyphen, and the part after it. -/
def splitLastHyphen (s : List Char) : List Char × List Char :=
  let tail := (s.reverse.takeWhile (· != '-')).reverse
  if tail.length = s.length then ([], s)
  else (s.take (s.length - tail.length - 1), tail)

/-- The label that an ASCII text stands for. -/
def decode? (s : List Char) : Option (List Char) := do
  let (plain, digits) := splitLastHyphen s
  let points ← decodeFrom (s.length + 1) 0x80 0 72 (plain.map Char.toNat) digits
  if points.all Nat.isValidChar then some (points.map Char.ofNat) else none

end Marginalia.Url.Punycode
