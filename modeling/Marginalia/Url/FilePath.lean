/-
File URLs and the paths they name. A path becomes a URL segment by
segment, with everything encoded that could be taken for part of the
URL; a URL becomes a path by decoding its segments. A path that ends in
a drive letter is given a slash after it.
-/
import Marginalia.Url.Parse

namespace Marginalia.Url

/-- The URL of the file with the given path components, from the root. -/
def ofFilePath (components : List String) : Url :=
  let segs := components.map fun c =>
    String.ofList (percentEncode inSegmentSet c.toList)
  { scheme := "file", username := "", password := "",
    host := some (.domain ""), port := none,
    path := .segments (if segs.isEmpty then [""] else segs),
    query := none, fragment := none }

/-- Whether bytes end in a letter and a colon or bar, with something in
front of them. -/
def endsInDriveLetter (bytes : List UInt8) : Bool :=
  match bytes.reverse with
  | b :: a :: _ :: _ =>
    (Char.ofNat a.toNat).isAlpha && (b.toNat == 0x3A || b.toNat == 0x7C)
  | _ => false

/-- The bytes of the path that a URL names, unless the file is on another
host or the URL has no segments. -/
def filePathBytes? (u : Url) : Option (List UInt8) :=
  match u.path, u.host with
  | .undivided _, _ => none
  | .segments segs, host =>
    if host == none || host == some (.domain "")
        || host == some (.domain "localhost") then
      let bytes := segs.flatMap fun s => 0x2F :: percentDecode s.toList
      some (if endsInDriveLetter bytes then bytes ++ [0x2F] else bytes)
    else none

-- ==================================================== bytes as text

/-- The number of bytes after a first byte, and the range of the second
byte. -/
def sequence? (first : Nat) : Option (Nat × Nat × Nat) :=
  if 0xC2 ≤ first ∧ first ≤ 0xDF then some (1, 0x80, 0xBF)
  else if first = 0xE0 then some (2, 0xA0, 0xBF)
  else if first = 0xED then some (2, 0x80, 0x9F)
  else if 0xE1 ≤ first ∧ first ≤ 0xEF then some (2, 0x80, 0xBF)
  else if first = 0xF0 then some (3, 0x90, 0xBF)
  else if 0xF1 ≤ first ∧ first ≤ 0xF3 then some (3, 0x80, 0xBF)
  else if first = 0xF4 then some (3, 0x80, 0x8F)
  else none

/-- How many of the next bytes continue a sequence. -/
def continued (n low high : Nat) : List UInt8 → Nat
  | [] => 0
  | b :: r =>
    if n = 0 then 0
    else if low ≤ b.toNat ∧ b.toNat ≤ high then continued (n - 1) 0x80 0xBF r + 1
    else 0

/-- The text that bytes show, with the replacement character for each
stretch that is not UTF-8. -/
def shownBytes : List UInt8 → List Char
  | [] => []
  | b :: r =>
    let first := b.toNat
    if first < 0x80 then Char.ofNat first :: shownBytes r
    else
      match sequence? first with
      | none => '\ufffd' :: shownBytes r
      | some (n, low, high) =>
        let k := continued n low high r
        if k = n then
          let head := if n = 1 then first % 32 else if n = 2 then first % 16 else first % 8
          let code := (r.take n).foldl (fun m c => 64 * m + c.toNat % 64) head
          Char.ofNat code :: shownBytes (r.drop k)
        else '\ufffd' :: shownBytes (r.drop k)
termination_by bytes => bytes.length
decreasing_by all_goals simp only [List.length_drop, List.length_cons]; omega

end Marginalia.Url
