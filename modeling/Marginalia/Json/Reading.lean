/-
Reading JSON text. What is wrong with a text matters only to a reader
that gets that far, so reading does not fail: it gives the document as
far as it goes, with the fault at the place where the text stops being
JSON. A reader of the document that decides before that place never
sees the fault.

A string or number can also be `unreadable`: well formed enough to be
passed over, but without a value, such as a lone surrogate or a number
beyond the floating point range.
-/
import Marginalia.Json.Basic
import Marginalia.Json.Decimal

namespace Marginalia.Json

/-- Why a text is not JSON. -/
inductive Fault where
  /-- The text ends too early. -/
  | endOfText
  /-- A character stands where it may not. -/
  | syntaxError
deriving DecidableEq, Repr

mutual

/-- A document as far as it could be read. -/
inductive Reading where
  | null
  | bool (b : Bool)
  | natural (n : Nat)
  | negative (n : Nat)
  | decimal (shown : String)
  | string (s : String)
  /-- A string or number without a value, and the fault after it. -/
  | unreadable (after : Option Fault)
  | array (items : List Reading) (ending : Ending)
  | object (members : List (Option String × Reading)) (ending : Ending)
  /-- No value begins here. -/
  | broken (fault : Fault)

/-- How an array or object ends. -/
inductive Ending where
  /-- By its closing bracket. -/
  | closed
  /-- By a fault where a comma or the closing bracket should stand. -/
  | broken (fault : Fault)
  /-- By a fault after a comma or the opening bracket. -/
  | brokenAhead (fault : Fault)
  /-- By something other than a string where a key should stand. -/
  | strayKey (key : Reading)

end

deriving instance Repr for Ending
deriving instance Repr for Reading

instance : Inhabited Reading := ⟨.null⟩

-- ================================================== white space

/-- White space between the parts of a JSON text. -/
def isSpace (c : Char) : Bool :=
  c == ' ' || c == '\n' || c == '\t' || c == '\r'

/-- The text from its first other character on. -/
def skipSpace (s : List Char) : List Char :=
  s.dropWhile isSpace

-- ====================================================== numbers

/-- The value of a run of digits. -/
def digitsValue (ds : List Char) : Nat :=
  ds.foldl (fun n d => 10 * n + (d.toNat - '0'.toNat)) 0

/-- Takes digits into a significand until the next would not fit sixty-
four bits; gives the significand, the number of digits taken and the
number left. -/
def significand (start : Nat) : List Char → Nat × Nat × Nat
  | [] => (start, 0, 0)
  | d :: more =>
    let n := 10 * start + (d.toNat - '0'.toNat)
    if n ≤ maxNatural then
      let (m, taken, left) := significand n more
      (m, taken + 1, left)
    else (start, 0, more.length + 1)

/-- Scales a floating point number by a power of ten in steps of at most
308; `none` when it grows beyond the range. -/
def scaleFloat (f : Float) (e : Int) : Nat → Option Float
  | 0 => some f
  | fuel + 1 =>
    if e.natAbs ≤ 308 then
      let p := Float.ofScientific 1 false e.natAbs
      if 0 ≤ e then
        let g := f * p
        if g.isInf then none else some g
      else some (f / p)
    else if f == 0.0 then some f
    else if 0 ≤ e then none
    else scaleFloat (f / Float.ofScientific 1 false 308) (e + 308) fuel

/-- A number in floating point. -/
def floating (negated : Bool) (m : Nat) (e : Int) : Reading :=
  match scaleFloat (UInt64.ofNat m).toFloat e 40 with
  | none => .unreadable none
  | some f =>
    let f := if negated then -f else f
    .decimal (String.ofList (decimalText f.toBits))

/-- A number from its digits before and after the point and its
exponent. -/
def numberOf (negated : Bool) (whole fraction : List Char)
    (exponent : Option Int) : Reading :=
  let (m, _, left) := significand 0 whole
  match fraction, exponent with
  | [], none =>
    if left = 0 then
      if !negated then .natural m
      else if 0 < m ∧ m ≤ Nat.pow 2 63 then .negative m
      else floating true m 0
    else floating negated m left
  | _, _ =>
    let (m, taken, _) :=
      if fraction.isEmpty then (m, 0, 0) else significand m fraction
    let e : Int := left - taken
    match exponent with
    | none => floating negated m e
    | some x =>
      if x.natAbs < Nat.pow 2 31 then floating negated m (e + x)
      else if m = 0 ∨ x < 0 then floating negated 0 0
      else .unreadable none

/-- The fault of a text that has no digit where one must stand. -/
def noDigit : List Char → Fault
  | [] => .endOfText
  | _ :: _ => .syntaxError

/-- The exponent at the start of the text, if there is one. -/
def readExponent (s : List Char) : Except Fault (Option Int × List Char) :=
  match s with
  | c :: r =>
    if c = 'e' || c = 'E' then
      let (minus, r) :=
        match r with
        | '+' :: r => (false, r)
        | '-' :: r => (true, r)
        | r => (false, r)
      let ds := r.takeWhile Char.isDigit
      if ds.isEmpty then .error (noDigit r)
      else
        let n : Int := digitsValue ds
        .ok (some (if minus then -n else n), r.drop ds.length)
    else .ok (none, s)
  | [] => .ok (none, s)

/-- The digits after a point at the start of the text, if there is
one. -/
def readFraction (s : List Char) : Except Fault (List Char × List Char) :=
  match s with
  | '.' :: r =>
    let ds := r.takeWhile Char.isDigit
    if ds.isEmpty then .error (noDigit r) else .ok (ds, r.drop ds.length)
  | _ => .ok ([], s)

/-- A number without its sign. -/
def readUnsigned (negated : Bool) (s : List Char) :
    Except Fault (Reading × List Char) := do
  let whole := s.takeWhile Char.isDigit
  let after := s.drop whole.length
  match whole with
  | [] => throw (noDigit s)
  | d :: more =>
    if d = '0' ∧ more ≠ [] then throw .syntaxError
    let (fraction, after) ← readFraction after
    let (exponent, after) ← readExponent after
    return (numberOf negated whole fraction exponent, after)

-- ====================================================== strings

/-- The value of a digit of base sixteen. -/
def hexValue? (c : Char) : Option Nat :=
  if c.isDigit then some (c.toNat - '0'.toNat)
  else if 'a' ≤ c ∧ c ≤ 'f' then some (c.toNat - 'a'.toNat + 10)
  else if 'A' ≤ c ∧ c ≤ 'F' then some (c.toNat - 'A'.toNat + 10)
  else none

/-- The code unit of an escape with four digits. -/
def readUnit (s : List Char) : Except Fault (Nat × List Char) :=
  match s with
  | a :: b :: c :: d :: r =>
    match hexValue? a, hexValue? b, hexValue? c, hexValue? d with
    | some a, some b, some c, some d =>
      .ok (((a * 16 + b) * 16 + c) * 16 + d, r)
    | _, _, _, _ => .error .syntaxError
  | _ => .error .endOfText

/-- The character that a letter stands for after a backslash. -/
def unescaped? : Char → Option Char
  | '\x22' => some '\x22'
  | '\\' => some '\\'
  | '/' => some '/'
  | 'b' => some '\x08'
  | 'f' => some '\x0c'
  | 'n' => some '\n'
  | 'r' => some '\r'
  | 't' => some '\t'
  | _ => none

/-- What reading a string gives: its characters, `none` once one of its
escapes stands for none, and the text after it. -/
structure StringRead where
  chars : Option (List Char)
  outcome : Except Fault (List Char)

/-- Puts a character before those that were read. -/
def StringRead.push (c : Char) (r : StringRead) : StringRead :=
  { r with chars := r.chars.map (c :: ·) }

/-- Reads the inside of a string and its closing quotation mark. -/
def readChars : Nat → List Char → StringRead
  | 0, _ => ⟨none, .error .endOfText⟩
  | _ + 1, [] => ⟨some [], .error .endOfText⟩
  | fuel + 1, c :: r =>
    if c = '\x22' then ⟨some [], .ok r⟩
    else if c.toNat < 0x20 then ⟨some [], .error .syntaxError⟩
    else if c ≠ '\\' then (readChars fuel r).push c
    else
      match r with
      | [] => ⟨some [], .error .endOfText⟩
      | 'u' :: r =>
        match readUnit r with
        | .error fault => ⟨some [], .error fault⟩
        | .ok (unit, r) =>
          if 0xDC00 ≤ unit ∧ unit ≤ 0xDFFF then
            { readChars fuel r with chars := none }
          else if 0xD800 ≤ unit ∧ unit ≤ 0xDBFF then
            match r with
            | '\\' :: 'u' :: more =>
              match readUnit more with
              | .error fault => ⟨some [], .error fault⟩
              | .ok (low, after) =>
                if 0xDC00 ≤ low ∧ low ≤ 0xDFFF then
                  let code := 0x10000 + (unit - 0xD800) * 0x400 + (low - 0xDC00)
                  (readChars fuel after).push (Char.ofNat code)
                else { readChars fuel r with chars := none }
            | _ => { readChars fuel r with chars := none }
          else (readChars fuel r).push (Char.ofNat unit)
      | e :: r =>
        match unescaped? e with
        | some c => (readChars fuel r).push c
        | none => ⟨some [], .error .syntaxError⟩

/-- A string whose opening quotation mark has been passed. -/
def readString (s : List Char) : Except Fault (Option String × List Char) × Bool :=
  let r := readChars (s.length + 1) s
  match r.outcome with
  | .ok rest => (.ok (r.chars.map String.ofList, rest), true)
  | .error fault => (.error fault, r.chars.isSome)

-- ======================================================= values

/-- The rest of a fixed word. -/
def readWord (word : List Char) (s : List Char) : Except Fault (List Char) :=
  match word, s with
  | [], s => .ok s
  | _ :: _, [] => .error .endOfText
  | w :: word, c :: s => if w = c then readWord word s else .error .syntaxError

mutual

/-- A value, and the text after it unless a fault ends the reading. -/
def readValue : Nat → List Char → Reading × Option (List Char)
  | 0, _ => (.broken .endOfText, none)
  | fuel + 1, s =>
    let word (w : String) (v : Reading) (r : List Char) :
        Reading × Option (List Char) :=
      match readWord w.toList r with
      | .ok rest => (v, some rest)
      | .error fault => (.broken fault, none)
    let number (negated : Bool) (r : List Char) :
        Reading × Option (List Char) :=
      match readUnsigned negated r with
      | .ok (v, rest) => (v, some rest)
      | .error fault => (.broken fault, none)
    match skipSpace s with
    | [] => (.broken .endOfText, none)
    | c :: r =>
      if c = '\x22' then
        match readString r with
        | (.ok (some t, rest), _) => (.string t, some rest)
        | (.ok (none, rest), _) => (.unreadable none, some rest)
        | (.error fault, true) => (.broken fault, none)
        | (.error fault, false) => (.unreadable (some fault), none)
      else if c = '[' then
        match skipSpace r with
        | ']' :: rest => (.array [] .closed, some rest)
        | r =>
          let (items, ending, rest) := readItems fuel r
          (.array items ending, rest)
      else if c = '{' then
        match skipSpace r with
        | '}' :: rest => (.object [] .closed, some rest)
        | r =>
          let (members, ending, rest) := readMembers fuel r
          (.object members ending, rest)
      else if c = 'n' then word "ull" .null r
      else if c = 't' then word "rue" (.bool true) r
      else if c = 'f' then word "alse" (.bool false) r
      else if c = '-' then number true r
      else if c.isDigit then number false (c :: r)
      else (.broken .syntaxError, none)

/-- The items of an array from the one that begins here. -/
def readItems : Nat → List Char → List Reading × Ending × Option (List Char)
  | 0, _ => ([], .brokenAhead .endOfText, none)
  | fuel + 1, s =>
    match skipSpace s with
    | [] => ([], .brokenAhead .endOfText, none)
    | ']' :: _ => ([], .brokenAhead .syntaxError, none)
    | s =>
      match readValue fuel s with
      | (v, none) => ([v], .closed, none)
      | (v, some rest) =>
        match skipSpace rest with
        | ']' :: rest => ([v], .closed, some rest)
        | ',' :: rest =>
          let (items, ending, rest) := readItems fuel rest
          (v :: items, ending, rest)
        | [] => ([v], .broken .endOfText, none)
        | _ :: _ => ([v], .broken .syntaxError, none)

/-- The members of an object from the one that begins here. -/
def readMembers : Nat → List Char →
    List (Option String × Reading) × Ending × Option (List Char)
  | 0, _ => ([], .brokenAhead .endOfText, none)
  | fuel + 1, s =>
    match skipSpace s with
    | [] => ([], .brokenAhead .endOfText, none)
    | '\x22' :: r =>
      match readString r with
      | (.error fault, true) => ([], .brokenAhead fault, none)
      | (.error fault, false) => ([(none, .broken fault)], .closed, none)
      | (.ok (key, rest), _) =>
        match skipSpace rest with
        | ':' :: rest =>
          match readValue fuel rest with
          | (v, none) => ([(key, v)], .closed, none)
          | (v, some rest) =>
            match skipSpace rest with
            | '}' :: rest => ([(key, v)], .closed, some rest)
            | ',' :: rest =>
              let (members, ending, rest) := readMembers fuel rest
              ((key, v) :: members, ending, rest)
            | [] => ([(key, v)], .broken .endOfText, none)
            | _ :: _ => ([(key, v)], .broken .syntaxError, none)
        | [] => ([(key, .broken .endOfText)], .closed, none)
        | _ :: _ => ([(key, .broken .syntaxError)], .closed, none)
    | '}' :: _ => ([], .brokenAhead .syntaxError, none)
    | s => ([], .strayKey (readValue fuel s).1, none)

end

/-- A whole text: its value, and the fault after it. -/
structure Document where
  value : Reading
  after : Option Fault

/-- Reads a whole text, which holds one value and white space. -/
def read (s : List Char) : Document :=
  match readValue (s.length + 1) s with
  | (v, none) => ⟨v, none⟩
  | (v, some rest) =>
    ⟨v, if (skipSpace rest).isEmpty then none else some .syntaxError⟩

mutual

/-- The document that shows a value. -/
def toReading : Json → Reading
  | .null => .null
  | .bool b => .bool b
  | .natural n => .natural n
  | .negative n => .negative n
  | .decimal shown => .decimal shown
  | .string s => .string s
  | .array items => .array (toReadings items) .closed
  | .object members => .object (toMembers members) .closed

/-- The items that show the items of an array. -/
def toReadings : List Json → List Reading
  | [] => []
  | v :: more => toReading v :: toReadings more

/-- The members that show the members of an object. -/
def toMembers : List (String × Json) → List (Option String × Reading)
  | [] => []
  | (k, v) :: more => (some k, toReading v) :: toMembers more

end

end Marginalia.Json
