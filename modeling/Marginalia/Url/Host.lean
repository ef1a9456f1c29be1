/-
Hosts of URLs: domain names, IPv4 addresses in any of their spellings,
and IPv6 addresses in square brackets. A domain name whose last label is
a number has to be an IPv4 address.
-/
import Marginalia.Url.Domain
import Marginalia.Url.Percent

namespace Marginalia

/-- A host. -/
inductive Host where
  /-- A domain name in ASCII; the empty one stands for no host. -/
  | domain (name : String)
  /-- An IPv4 address as a number. -/
  | ipv4 (address : Nat)
  /-- An IPv6 address as its eight pieces. -/
  | ipv6 (pieces : List Nat)
deriving DecidableEq, Repr

namespace Host

-- ============================================================== IPv4

/-- One part of an IPv4 address: decimal, octal after a zero, or of base
sixteen after "0x". -/
def ipv4Part? (s : List Char) : Option Nat :=
  let value (base : Nat) (ds : List Char) : Option Nat :=
    (ds.mapM Url.hexValue?).bind fun vs =>
      if vs.all (· < base) then some (vs.foldl (fun n v => base * n + v) 0)
      else none
  match s with
  | [] => none
  | '0' :: 'x' :: r => value 16 r
  | '0' :: 'X' :: r => value 16 r
  | '0' :: c :: r => value 8 (c :: r)
  | s => value 10 s

/-- Whether the last label of a domain name is a number. -/
def endsInNumber (s : List Char) : Bool :=
  let labels := (Text.splitOnChar '.' s).reverse
  let isNumber (label : List Char) : Bool :=
    (!label.isEmpty && label.all Char.isDigit) || (ipv4Part? label).isSome
  match labels with
  | [] :: last :: _ => isNumber last
  | last :: _ => isNumber last
  | [] => false

/-- The address of up to four parts, of which the last fills what the
others leave. -/
def ipv4OfParts? (parts : List Nat) : Option Nat :=
  match parts.reverse with
  | [] => none
  | last :: before =>
    let leading := before.reverse
    if 4 < parts.length || leading.any (255 < ·)
        || Nat.pow 256 (4 - leading.length) ≤ last then none
    else
      some (leading.zipIdx.foldl (fun n (part, i) => n + part * Nat.pow 256 (3 - i)) last)

/-- An IPv4 address. -/
def ipv4? (s : List Char) : Option Nat :=
  let labels := Text.splitOnChar '.' s
  let labels :=
    match labels.reverse with
    | [] :: rest => rest.reverse
    | _ => labels
  (labels.mapM ipv4Part?).bind ipv4OfParts?

/-- The four bytes of an IPv4 address between dots. -/
def ipv4Text (a : Nat) : List Char :=
  Text.joinWith ['.'] ([a / Nat.pow 256 3, a / Nat.pow 256 2 % 256, a / 256 % 256, a % 256].map
    (Nat.toDigits 10))

-- ============================================================== IPv6

/-- One part of a dotted address inside an IPv6 address. -/
def byte? (s : List Char) : Option Nat :=
  if s.isEmpty || !s.all Char.isDigit then none
  else if 1 < s.length && s.head? == some '0' then none
  else
    let n := s.foldl (fun n d => 10 * n + (d.toNat - '0'.toNat)) 0
    if 255 < n then none else some n

/-- The two pieces of a dotted address. -/
def dottedPieces? (s : List Char) : Option (List Nat) := do
  match ← (Text.splitOnChar '.' s).mapM byte? with
  | [a, b, c, d] => some [256 * a + b, 256 * c + d]
  | _ => none

/-- One piece of up to four digits of base sixteen. -/
def piece? (s : List Char) : Option Nat :=
  if s.isEmpty || 4 < s.length then none
  else (s.mapM Url.hexValue?).map (·.foldl (fun n v => 16 * n + v) 0)

/-- Pieces between colons, the last of which may be a dotted address. -/
def pieces? : List (List Char) → Option (List Nat)
  | [] => some []
  | [last] =>
    if last.contains '.' then dottedPieces? last else (piece? last).map ([·])
  | first :: more => do
    let a ← piece? first
    let rest ← pieces? more
    return a :: rest

/-- The pieces in one half of an address. -/
def halfPieces? (s : List Char) : Option (List Nat) :=
  if s.isEmpty then some [] else pieces? (Text.splitOnChar ':' s)

/-- An IPv6 address without its brackets. Two colons stand for as many
zero pieces as are missing, and for at least one. -/
def ipv6? (s : List Char) : Option (List Nat) :=
  match Text.splitFirst [':', ':'] s with
  | none => do
    let ps ← halfPieces? s
    if ps.length = 8 then some ps else none
  | some (before, after) => do
    let left ← halfPieces? before
    if before.contains '.' then none
    let right ← halfPieces? after
    if left.length + right.length < 8 then
      some (left ++ List.replicate (8 - left.length - right.length) 0 ++ right)
    else none

/-- The length of the run of zeros at the start. -/
def zeroRun (ps : List Nat) : Nat :=
  (ps.takeWhile (· == 0)).length

/-- Start and length of the first longest run of at least two zeros. -/
def longestZeros (ps : List Nat) : Option (Nat × Nat) :=
  ((List.range ps.length).map fun i => (i, zeroRun (ps.drop i))).foldl
    (fun best (i, n) =>
      match best with
      | none => if 2 ≤ n then some (i, n) else none
      | some (_, m) => if m < n then some (i, n) else best) none

/-- The pieces of an IPv6 address between colons. -/
def ipv6Text (ps : List Nat) : List Char :=
  let joined (qs : List Nat) : List Char :=
    Text.joinWith [':'] (qs.map (Nat.toDigits 16))
  match longestZeros ps with
  | none => joined ps
  | some (i, n) => joined (ps.take i) ++ [':', ':'] ++ joined (ps.drop (i + n))

-- ============================================================= hosts

/-- The host as it stands in a URL. -/
def text : Host → List Char
  | domain name => name.toList
  | ipv4 a => ipv4Text a
  | ipv6 ps => '[' :: ipv6Text ps ++ [']']

/-- The address between square brackets. -/
def bracketed? (s : List Char) : Option Host :=
  match s with
  | '[' :: r =>
    match r.reverse with
    | ']' :: inside => (ipv6? inside.reverse).map .ipv6
    | _ => none
  | _ => none

/-- The host of a special URL. -/
def parse? (s : List Char) : Option Host :=
  match s with
  | '[' :: _ => bracketed? s
  | s => do
    let decoded ← Url.ofBytes? (Url.percentDecode s)
    let name ← Url.Domain.toAscii? decoded.toList
    if name.isEmpty then none
    else if endsInNumber name then (ipv4? name).map .ipv4
    else some (.domain (String.ofList name))

/-- The host of any other URL, which is not looked into. -/
def parseOther? (s : List Char) : Option Host :=
  match s with
  | '[' :: _ => bracketed? s
  | s =>
    if s.any fun c =>
        ['\x00', '\t', '\n', '\r', ' ', '#', '/', ':', '<', '>', '?', '@', '[',
          '\\', ']', '^', '|'].contains c then none
    else some (.domain (String.ofList (Url.percentEncode Url.isControl s)))

end Host

end Marginalia
