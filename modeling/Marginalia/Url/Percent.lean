/-
Percent-encoding. A character outside the characters that may stand
plainly is written as its UTF-8 bytes, each a percent sign and two
digits of base sixteen. Reading back works on bytes and leaves a percent
sign that two digits do not follow as it is.

The sets say which ASCII characters are encoded in which part of a URL;
characters beyond ASCII are always encoded.
-/
namespace Marginalia.Url

/-- The bytes of a character in UTF-8. -/
def charBytes (c : Char) : List UInt8 :=
  String.utf8EncodeChar c

/-- The bytes of a text in UTF-8. -/
def textBytes (s : List Char) : List UInt8 :=
  s.flatMap charBytes

/-- The text with the given bytes, if they are UTF-8. -/
def ofBytes? (bytes : List UInt8) : Option String :=
  String.fromUTF8? ⟨bytes.toArray⟩

/-- A digit of base sixteen, upper case. -/
def upperHexDigit (n : Nat) : Char :=
  (Nat.digitChar n).toUpper

/-- One encoded byte. -/
def encodedByte (b : UInt8) : List Char :=
  ['%', upperHexDigit (b.toNat / 16), upperHexDigit (b.toNat % 16)]

/-- A text with the characters in the set, and those beyond ASCII,
encoded. -/
def percentEncode (encoded : Char → Bool) (s : List Char) : List Char :=
  s.flatMap fun c =>
    if encoded c || 0x80 ≤ c.toNat then (charBytes c).flatMap encodedByte
    else [c]

/-- The value of a digit of base sixteen. -/
def hexValue? (c : Char) : Option Nat :=
  if c.isDigit then some (c.toNat - '0'.toNat)
  else if 'a' ≤ c ∧ c ≤ 'f' then some (c.toNat - 'a'.toNat + 10)
  else if 'A' ≤ c ∧ c ≤ 'F' then some (c.toNat - 'A'.toNat + 10)
  else none

/-- The bytes that an encoded text stands for. -/
def percentDecode : List Char → List UInt8
  | '%' :: a :: b :: r =>
    match hexValue? a, hexValue? b with
    | some x, some y => UInt8.ofNat (16 * x + y) :: percentDecode r
    | _, _ => charBytes '%' ++ percentDecode (a :: b :: r)
  | c :: r => charBytes c ++ percentDecode r
  | [] => []

-- ============================================================ sets

/-- ASCII controls. -/
def isControl (c : Char) : Bool :=
  c.toNat < 0x20 || c.toNat == 0x7F

/-- Encoded in a fragment. -/
def inFragmentSet (c : Char) : Bool :=
  isControl c || [' ', '\x22', '<', '>', '\x60'].contains c

/-- Encoded in a query. -/
def inQuerySet (c : Char) : Bool :=
  isControl c || [' ', '\x22', '#', '<', '>'].contains c

/-- Encoded in the query of a special URL. -/
def inSpecialQuerySet (c : Char) : Bool :=
  inQuerySet c || c == '\x27'

/-- Encoded in a path. -/
def inPathSet (c : Char) : Bool :=
  inFragmentSet c || ['#', '?', '{', '}'].contains c

/-- Encoded in one segment of the path of a special URL. -/
def inSegmentSet (c : Char) : Bool :=
  inPathSet c || ['/', '%', '\\'].contains c

/-- Encoded in a user name or password. -/
def inUserinfoSet (c : Char) : Bool :=
  inPathSet c || ['/', ':', ';', '=', '@', '[', '\\', ']', '^', '|'].contains c

end Marginalia.Url
