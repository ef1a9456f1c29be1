/-
The grammar of JSON, as a relation between a text and what it stands for
(`Value`). Nothing here says how a text is read: white space may stand between
any two parts, a character of a string may be written in every way there is,
and numbers come with or without point and exponent.

Some well-formed texts stand for nothing: a string with half a surrogate pair in
it, or a number beyond the floating point range. They are values as well,
unreadable ones, and whoever has no use for them passes over them
(`skip_of_value`).
-/
import Marginalia.Json.Decode

namespace Marginalia.Json

-- ======================================================= white space

/-- Whether a text is white space between the parts of another. -/
def Blank (s : List Char) : Prop :=
  ∀ c ∈ s, isSpace c = true

theorem blank_nil : Blank [] :=
  List.forall_mem_nil _

-- =========================================================== numbers

/-- Whether a text is a run of digits. -/
def Digits (s : List Char) : Prop :=
  s ≠ [] ∧ ∀ c ∈ s, c.isDigit = true

/-- Whether a text is a whole number without a sign: no zero stands in front of
other digits. -/
def Whole (s : List Char) : Prop :=
  Digits s ∧ (s.head? = some '0' → s = ['0'])

/-- The part of a number from its point on, and the digits behind the point. -/
inductive Fraction : List Char → List Char → Prop where
  | none : Fraction [] []
  | some {digits : List Char} (h : Digits digits) : Fraction ('.' :: digits) digits

/-- The part of a number from the mark of its exponent on, and the exponent. -/
inductive Exponent : List Char → Option Int → Prop where
  | none : Exponent [] none
  | unsigned {mark : Char} {digits : List Char} (hmark : mark = 'e' ∨ mark = 'E')
      (h : Digits digits) : Exponent (mark :: digits) (some (digitsValue digits))
  | positive {mark : Char} {digits : List Char} (hmark : mark = 'e' ∨ mark = 'E')
      (h : Digits digits) : Exponent (mark :: '+' :: digits) (some (digitsValue digits))
  | negative {mark : Char} {digits : List Char} (hmark : mark = 'e' ∨ mark = 'E')
      (h : Digits digits) : Exponent (mark :: '-' :: digits) (some (-digitsValue digits))

-- =========================================================== strings

/-- Four digits of base sixteen, and their value. -/
inductive CodeUnit : List Char → Nat → Prop where
  | mk {a b c d : Char} {w x y z : Nat} (ha : hexValue? a = some w) (hb : hexValue? b = some x)
      (hc : hexValue? c = some y) (hd : hexValue? d = some z) :
      CodeUnit [a, b, c, d] (((w * 16 + x) * 16 + y) * 16 + z)

/-- The first of two units that make up one character. -/
def IsHigh (unit : Nat) : Prop :=
  0xD800 ≤ unit ∧ unit ≤ 0xDBFF

/-- The second of two units that make up one character. -/
def IsLow (unit : Nat) : Prop :=
  0xDC00 ≤ unit ∧ unit ≤ 0xDFFF

/-- The character that two units make up. -/
def pairValue (high low : Nat) : Nat :=
  0x10000 + (high - 0xD800) * 0x400 + (low - 0xDC00)

/-- One character or escape in a string, whether it stands for anything or
not. -/
inductive Piece : List Char → Prop where
  | plain {c : Char} (hquote : c ≠ '\x22') (hslash : c ≠ '\\') (hcontrol : ¬ c.toNat < 0x20) :
      Piece [c]
  | letter {e c : Char} (h : unescaped? e = some c) : Piece ['\\', e]
  | unit {u : List Char} {n : Nat} (h : CodeUnit u n) : Piece ('\\' :: 'u' :: u)

/-- Whether a text can stand between quotation marks. -/
inductive Inside : List Char → Prop where
  | nil : Inside []
  | cons {p s : List Char} (hp : Piece p) (hs : Inside s) : Inside (p ++ s)

/-- One character as it is written in a string. -/
inductive Spelled : List Char → Char → Prop where
  | plain {c : Char} (hquote : c ≠ '\x22') (hslash : c ≠ '\\') (hcontrol : ¬ c.toNat < 0x20) :
      Spelled [c] c
  | letter {e c : Char} (h : unescaped? e = some c) : Spelled ['\\', e] c
  | unit {u : List Char} {n : Nat} (h : CodeUnit u n) (hhigh : ¬ IsHigh n) (hlow : ¬ IsLow n) :
      Spelled ('\\' :: 'u' :: u) (Char.ofNat n)
  | pair {u v : List Char} {m n : Nat} (hu : CodeUnit u m) (hv : CodeUnit v n) (hhigh : IsHigh m)
      (hlow : IsLow n) :
      Spelled ('\\' :: 'u' :: u ++ '\\' :: 'u' :: v) (Char.ofNat (pairValue m n))

/-- The characters that the inside of a string stands for. -/
inductive Denotes : List Char → List Char → Prop where
  | nil : Denotes [] []
  | cons {p s t : List Char} {c : Char} (hp : Spelled p c) (hs : Denotes s t) :
      Denotes (p ++ s) (c :: t)

/-- A string between its quotation marks, and its text; `none` where it stands
for no text. -/
inductive Quoted : List Char → Option String → Prop where
  | text {s t : List Char} (h : Denotes s t) : Quoted ('\x22' :: s ++ ['\x22']) (String.ofList t)
  | unpaired {s : List Char} (h : Inside s) (hno : ∀ t, ¬ Denotes s t) :
      Quoted ('\x22' :: s ++ ['\x22']) none

-- ============================================================ values

/-- An item of an array: what is written between two commas, and its value. -/
structure Slot where
  before : List Char
  text : List Char
  after : List Char
  value : Reading

namespace Slot

/-- The item with the white space around it. -/
def written (i : Slot) : List Char :=
  i.before ++ i.text ++ i.after

/-- Only white space stands around the item. -/
def Padded (i : Slot) : Prop :=
  Blank i.before ∧ Blank i.after

end Slot

/-- A member of an object: the text of its key and the item behind the colon. -/
structure Field where
  before : List Char
  keyText : List Char
  after : List Char
  key : Option String
  slot : Slot

namespace Field

/-- The member with the white space around its parts. -/
def written (m : Field) : List Char :=
  m.before ++ m.keyText ++ m.after ++ ':' :: m.slot.written

/-- Only white space stands around the key and the item, and the key is a
string. -/
def Padded (m : Field) : Prop :=
  Blank m.before ∧ Blank m.after ∧ m.slot.Padded ∧ Quoted m.keyText m.key

end Field

/-- A text that is a JSON value, and what it stands for. -/
inductive Value : List Char → Reading → Prop where
  | null : Value ['n', 'u', 'l', 'l'] .null
  | true : Value ['t', 'r', 'u', 'e'] (.bool true)
  | false : Value ['f', 'a', 'l', 's', 'e'] (.bool false)
  | number {whole point fraction mark : List Char} {exponent : Option Int} (hwhole : Whole whole)
      (hpoint : Fraction point fraction) (hmark : Exponent mark exponent) :
      Value (whole ++ point ++ mark) (numberOf false whole fraction exponent)
  | minus {whole point fraction mark : List Char} {exponent : Option Int} (hwhole : Whole whole)
      (hpoint : Fraction point fraction) (hmark : Exponent mark exponent) :
      Value ('-' :: (whole ++ point ++ mark)) (numberOf true whole fraction exponent)
  | string {s : List Char} {t : String} (h : Quoted s (some t)) : Value s (.string t)
  | unpaired {s : List Char} (h : Quoted s none) : Value s (.unreadable none)
  | emptyArray {w : List Char} (hw : Blank w) : Value ('[' :: w ++ [']']) (.array [] .closed)
  | array {items : List Slot} (hne : items ≠ []) (hpadded : ∀ i ∈ items, i.Padded)
      (h : ∀ i ∈ items, Value i.text i.value) :
      Value ('[' :: [','].intercalate (items.map Slot.written) ++ [']'])
        (.array (items.map Slot.value) .closed)
  | emptyObject {w : List Char} (hw : Blank w) :
      Value ('\x7b' :: w ++ ['\x7d']) (.object [] .closed)
  | object {members : List Field} (hne : members ≠ []) (hpadded : ∀ m ∈ members, m.Padded)
      (h : ∀ m ∈ members, Value m.slot.text m.slot.value) :
      Value ('\x7b' :: [','].intercalate (members.map Field.written) ++ ['\x7d'])
        (.object (members.map fun m => (m.key, m.slot.value)) .closed)

-- ====================================================== passing over

theorem skip_floating (negated : Bool) (m : Nat) (e : Int) :
    (floating negated m e).skip = .ok () := by
  unfold floating
  split
  · rfl
  · rfl

/-- A number is passed over, whatever its value. -/
theorem skip_numberOf (negated : Bool) (whole fraction : List Char) (exponent : Option Int) :
    (numberOf negated whole fraction exponent).skip = .ok () := by
  unfold numberOf
  dsimp only
  split
  · split
    · split
      · rfl
      · split
        · rfl
        · exact skip_floating ..
    · exact skip_floating ..
  · -- how many digits behind the point were taken makes no difference
    generalize (if fraction.isEmpty = true then _ else _ : Nat × Nat × Nat) = taken
    split
    · exact skip_floating ..
    · split
      · exact skip_floating ..
      · split
        · exact skip_floating ..
        · rfl

theorem skipItems_eq_ok {items : List Reading} (h : ∀ v ∈ items, v.skip = .ok ()) :
    Reading.skipItems items = .ok () := by
  induction items with
  | nil => rfl
  | cons v more ih =>
      obtain ⟨hv, hmore⟩ := List.forall_mem_cons.1 h
      rw [Reading.skipItems, hv]
      exact ih hmore

theorem skipMembers_eq_ok_iff {members : List (Option String × Reading)} :
    Reading.skipMembers members = .ok () ↔ ∀ m ∈ members, m.2.skip = .ok () := by
  induction members with
  | nil => exact iff_of_true rfl (List.forall_mem_nil _)
  | cons m more ih =>
      rw [List.forall_mem_cons, ← ih, Reading.skipMembers]
      cases m.2.skip with
      | error e => exact iff_of_false nofun nofun
      | ok u => exact (and_iff_right rfl).symm

theorem skip_object_eq_ok {members : List (Option String × Reading)}
    (h : (Reading.object members .closed).skip = .ok ()) : Reading.skipMembers members = .ok () := by
  rw [Reading.skip] at h
  cases hmembers : Reading.skipMembers members with
  | error e =>
      rw [hmembers] at h
      cases h
  | ok u => rfl

/-- Whatever is well formed can be passed over. -/
theorem skip_of_value {s : List Char} {v : Reading} (h : Value s v) : v.skip = .ok () := by
  induction h with
  | null => rfl
  | true => rfl
  | false => rfl
  | number => exact skip_numberOf ..
  | minus => exact skip_numberOf ..
  | string => rfl
  | unpaired => rfl
  | emptyArray => rfl
  | @array items _ _ _ ih =>
      have hitems : ∀ v ∈ items.map Slot.value, v.skip = .ok () := by
        simpa using ih
      rw [Reading.skip, skipItems_eq_ok hitems]
      rfl
  | emptyObject => rfl
  | @object members _ _ _ ih =>
      have hmembers : ∀ m ∈ members.map fun m => (m.key, m.slot.value), m.2.skip = .ok () := by
        simpa using ih
      rw [Reading.skip, skipMembers_eq_ok_iff.2 hmembers]
      rfl

end Marginalia.Json
