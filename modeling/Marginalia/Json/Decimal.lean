/-
The shortest decimal text of a binary fraction. A number in sixty-four
bit floating point stands for all reals that round to it; the text is
the shortest decimal among them, and of two equally short ones the
nearer. The search runs in natural numbers: for one digit, two digits
and so on it looks at the two neighbours of the number on that decimal
grid until one of them rounds back.
-/
namespace Marginalia.Json

/-- A fraction of natural numbers. -/
structure Ratio where
  num : Nat
  den : Nat

namespace Ratio

/-- Whether one fraction is at most the other. -/
def atMost (a b : Ratio) : Bool :=
  a.num * b.den ≤ b.num * a.den

/-- The fraction times a power of ten. -/
def scaled (a : Ratio) (e : Int) : Ratio :=
  if 0 ≤ e then ⟨a.num * Nat.pow 10 e.toNat, a.den⟩
  else ⟨a.num, a.den * Nat.pow 10 (-e).toNat⟩

/-- The fraction times a power of two. -/
def shifted (a : Ratio) (e : Int) : Ratio :=
  if 0 ≤ e then ⟨a.num * Nat.pow 2 e.toNat, a.den⟩
  else ⟨a.num, a.den * Nat.pow 2 (-e).toNat⟩

/-- The distance between two fractions. -/
def distance (a b : Ratio) : Ratio :=
  let x := a.num * b.den
  let y := b.num * a.den
  ⟨if x ≤ y then y - x else x - y, a.den * b.den⟩

end Ratio

/-- A positive binary floating point number and the reals that round to
it. -/
structure Rounded where
  value : Ratio
  low : Ratio
  high : Ratio
  /-- Whether the two ends round to the number as well. -/
  closed : Bool

namespace Rounded

/-- The number `m · 2^q`, where `lowest` says that the next number below
is only half as far away. -/
def ofParts (m : Nat) (q : Int) (lowest : Bool) : Rounded :=
  { value := Ratio.shifted ⟨m, 1⟩ q
    low := Ratio.shifted ⟨if lowest then 4 * m - 1 else 4 * m - 2, 4⟩ q
    high := Ratio.shifted ⟨4 * m + 2, 4⟩ q
    closed := m % 2 == 0 }

/-- Whether a decimal rounds to the number. -/
def holds (r : Rounded) (x : Ratio) : Bool :=
  if r.closed then r.low.atMost x && x.atMost r.high
  else !x.atMost r.low && !r.high.atMost x

/-- The least `p` from `start` on with the number below `10^p`, among the
first `fuel`. -/
def magnitudeFrom (r : Rounded) (start : Int) : Nat → Int
  | 0 => start
  | fuel + 1 =>
    if (Ratio.scaled ⟨1, 1⟩ start).atMost r.value then
      magnitudeFrom r (start + 1) fuel
    else start

/-- The decimal `c · 10^e`, if it rounds to the number. -/
def candidate? (r : Rounded) (c : Nat) (e : Int) : Option (Nat × Int) :=
  if r.holds (Ratio.scaled ⟨c, 1⟩ e) then some (c, e) else none

/-- The nearer of the two neighbours on the grid of `10^e` that round to
the number. -/
def onGrid? (r : Rounded) (e : Int) : Option (Nat × Int) :=
  let v := Ratio.scaled r.value (-e)
  let c := v.num / v.den
  match r.candidate? c e, r.candidate? (c + 1) e with
  | some a, some b =>
    let up := Ratio.distance ⟨c + 1, 1⟩ v
    let down := Ratio.distance ⟨c, 1⟩ v
    if !down.atMost up || (up.atMost down && c % 2 == 1) then some b else some a
  | some a, none => some a
  | none, other => other

/-- The first hit with `n`, `n + 1`, … digits, among the first `fuel`
lengths. -/
def shortestFrom (r : Rounded) (p : Int) (n : Nat) : Nat → Nat × Int
  | 0 => (0, 0)
  | fuel + 1 =>
    match r.onGrid? (p - n) with
    | some found => found
    | none => shortestFrom r p (n + 1) fuel

/-- Digits and exponent of the shortest decimal. -/
def shortest (r : Rounded) : Nat × Int :=
  r.shortestFrom (r.magnitudeFrom (-324) 640) 1 18

end Rounded

-- ========================================================== layout

/-- The digits without trailing zeros, and the exponent that makes up for
them. -/
def dropZeros (fuel : Nat) (c : Nat) (e : Int) : Nat × Int :=
  match fuel with
  | 0 => (c, e)
  | fuel + 1 =>
    if c ≠ 0 ∧ c % 10 = 0 then dropZeros fuel (c / 10) (e + 1) else (c, e)

/-- How decimals are laid out: the point stands among or right beside the
digits while the number is between 10^-5 and 10^16, and a whole number
keeps one zero after it; every other number has one digit before the
point and a signed exponent. -/
def layOut (c : Nat) (e : Int) : List Char :=
  let ds := Nat.toDigits 10 c
  let point := ds.length + e
  if 0 ≤ e ∧ point ≤ 16 then
    ds ++ List.replicate e.toNat '0' ++ ['.', '0']
  else if 0 < point ∧ point ≤ 16 then
    ds.take point.toNat ++ '.' :: ds.drop point.toNat
  else if -5 < point ∧ point ≤ 0 then
    ['0', '.'] ++ List.replicate (-point).toNat '0' ++ ds
  else
    let exponent := point - 1
    let sign := if exponent < 0 then '-' else '+'
    let tail := 'e' :: sign :: Nat.toDigits 10 exponent.natAbs
    match ds with
    | [d] => d :: tail
    | d :: more => d :: '.' :: more ++ tail
    | [] => tail

/-- The shortest text of a finite floating point number given by its
bits. -/
def decimalText (bits : UInt64) : List Char :=
  let n : Nat := bits.toNat
  let sign := if n / Nat.pow 2 63 = 1 then ['-'] else []
  let exponent : Nat := n / Nat.pow 2 52 % Nat.pow 2 11
  let fraction : Nat := n % Nat.pow 2 52
  if exponent = 0 ∧ fraction = 0 then sign ++ ['0', '.', '0']
  else
    let r :=
      if exponent = 0 then Rounded.ofParts fraction (-1074) false
      else
        Rounded.ofParts (Nat.pow 2 52 + fraction) ((exponent : Int) - 1075)
          (fraction == 0 && 1 < exponent)
    let (c, e) := r.shortest
    let (c, e) := dropZeros 20 c e
    sign ++ layOut c e

end Marginalia.Json
