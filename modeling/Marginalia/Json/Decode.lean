/-
Taking values of the domain out of documents. A decoder looks at a
document in the order in which it is written and stops at the first
thing it cannot use: a value of another type, or a fault of the text.

A name from a fixed list, such as a kind, is a string, or an object with
the name as its only key and null as its value. In a text nothing else
may begin there; in a value that is already complete the mismatch is
named.
-/
import Marginalia.Json.Reading
import Marginalia.Text.Graphic

namespace Marginalia.Json

/-- Why a document does not hold the value that was asked for. -/
inductive DecodeError where
  | fault (fault : Fault)
  | wrongType (found expected : String)
  | wrongValue (found expected : String)
  | wrongLength (length : Nat) (expected : String)
  | unknownVariant (name : String) (known : List String)
  | missingField (name : String)
  | duplicateField (name : String)
  /-- The type's own check refuses the value. -/
  | refused (reason : String)
deriving Repr

/-- A name between backticks. -/
def ticked (s : String) : String :=
  "`" ++ s ++ "`"

/-- The list of names that would have been accepted. -/
def expectation : List String → String
  | [] => "there are no variants"
  | [a] => "expected " ++ ticked a
  | [a, b] => "expected " ++ ticked a ++ " or " ++ ticked b
  | names => "expected one of " ++ ", ".intercalate (names.map ticked)

/-- The wording of a decoding error. -/
def DecodeError.message : DecodeError → String
  | .fault .endOfText => "json eof"
  | .fault .syntaxError => "json syntax"
  | .wrongType found expected =>
    "invalid type: " ++ found ++ ", expected " ++ expected
  | .wrongValue found expected =>
    "invalid value: " ++ found ++ ", expected " ++ expected
  | .wrongLength n expected =>
    "invalid length " ++ toString n ++ ", expected " ++ expected
  | .unknownVariant name known =>
    "unknown variant " ++ ticked name ++ ", " ++ expectation known
  | .missingField name => "missing field " ++ ticked name
  | .duplicateField name => "duplicate field " ++ ticked name
  | .refused reason => reason

/-- The outcome of a decoder. -/
abbrev Decoded (α : Type) := Except DecodeError α

/-- The fault at the end of an array or object. -/
def Ending.fault? : Ending → Option Fault
  | .closed => none
  | .broken fault => some fault
  | .brokenAhead fault => some fault
  | .strayKey _ => some .syntaxError

/-- Fails with a fault if there is one. -/
def failOn : Option Fault → Decoded Unit
  | none => .ok ()
  | some fault => .error (.fault fault)

namespace Reading

/-- What a document is, in an error message. -/
def describe : Reading → Decoded String
  | .null => .ok "null"
  | .bool b => .ok ("boolean " ++ ticked (toString b))
  | .natural n => .ok ("integer " ++ ticked (toString n))
  | .negative n => .ok ("integer " ++ ticked ("-" ++ toString n))
  | .decimal shown => .ok ("floating point " ++ ticked shown)
  | .string s => .ok ("string " ++ Text.quoteString s)
  | .array _ _ => .ok "sequence"
  | .object _ _ => .ok "map"
  | .unreadable _ => .error (.fault .syntaxError)
  | .broken fault => .error (.fault fault)

/-- Refuses a document that is not of the expected type. -/
def mismatch {α : Type} (r : Reading) (expected : String) : Decoded α := do
  throw (.wrongType (← r.describe) expected)

mutual

/-- Passes over a document of any type. -/
def skip : Reading → Decoded Unit
  | .unreadable after => failOn after
  | .broken fault => .error (.fault fault)
  | .array items ending => do skipItems items; failOn ending.fault?
  | .object members ending => do skipMembers members; failOn ending.fault?
  | _ => .ok ()

/-- Passes over items. -/
def skipItems : List Reading → Decoded Unit
  | [] => .ok ()
  | r :: more => do skip r; skipItems more

/-- Passes over members. -/
def skipMembers : List (Option String × Reading) → Decoded Unit
  | [] => .ok ()
  | (_, r) :: more => do skip r; skipMembers more

end

mutual

/-- Takes in a whole value with at most so many levels of arrays and
objects. -/
def takeIn (depth : Nat) : Reading → Decoded Json
  | .null => .ok .null
  | .bool b => .ok (.bool b)
  | .natural n => .ok (.natural n)
  | .negative n => .ok (.negative n)
  | .decimal shown => .ok (.decimal shown)
  | .string s => .ok (.string s)
  | .unreadable _ => .error (.fault .syntaxError)
  | .broken fault => .error (.fault fault)
  | .array items ending =>
    if depth = 0 then .error (.fault .syntaxError)
    else do
      let values ← takeInItems (depth - 1) items
      failOn ending.fault?
      return .array values
  | .object members ending =>
    if depth = 0 then .error (.fault .syntaxError)
    else do
      let values ← takeInMembers (depth - 1) members
      failOn ending.fault?
      return .object values

/-- Takes in items. -/
def takeInItems (depth : Nat) : List Reading → Decoded (List Json)
  | [] => .ok []
  | r :: more => do
    let v ← takeIn depth r
    let values ← takeInItems depth more
    return v :: values

/-- Takes in members. -/
def takeInMembers (depth : Nat) :
    List (Option String × Reading) → Decoded (List (String × Json))
  | [] => .ok []
  | (none, _) :: _ => .error (.fault .syntaxError)
  | (some key, r) :: more => do
    let v ← takeIn depth r
    let values ← takeInMembers depth more
    return (key, v) :: values

end

/-- A whole number from zero to 2^64 - 1. -/
def natural64 : Reading → Decoded Nat
  | .natural n => .ok n
  | .negative n => .error (.wrongValue ("integer " ++ ticked ("-" ++ toString n)) "u64")
  | r => r.mismatch "u64"

/-- A truth value. -/
def boolean : Reading → Decoded Bool
  | .bool b => .ok b
  | r => r.mismatch "a boolean"

/-- A string. -/
def text : Reading → Decoded String
  | .string s => .ok s
  | r => r.mismatch "a string"

/-- Every item of an array. -/
def list {α : Type} (item : Reading → Decoded α) : Reading → Decoded (List α)
  | .array items ending => do
    let values ← items.mapM item
    failOn ending.fault?
    return values
  | r => r.mismatch "a sequence"

/-- Nothing for null, or a value. -/
def option {α : Type} (value : Reading → Decoded α) : Reading → Decoded (Option α)
  | .null => .ok none
  | r => some <$> value r

end Reading

/-- Where a document comes from: a text that is still being read, or a
value that is complete. -/
inductive Source where
  | text
  | value
deriving DecidableEq, Repr

/-- One of a fixed list of names. -/
def Reading.variant {α : Type} (known : List (String × α)) (source : Source)
    (r : Reading) : Decoded α := do
  let find (name : String) : Decoded α :=
    match known.lookup name with
    | some a => .ok a
    | none => .error (.unknownVariant name (known.map Prod.fst))
  let unit (r : Reading) : Decoded Unit :=
    match r with
    | .null => .ok ()
    | r => r.mismatch "unit"
  match source, r with
  | _, .string name => find name
  | .text, .object [] (.strayKey key) => key.mismatch "variant identifier"
  | .text, .object [] ending =>
    throw (.fault (ending.fault?.getD .syntaxError))
  | .text, .object ((none, _) :: _) _ => throw (.fault .syntaxError)
  | .text, .object ((some name, v) :: more) ending =>
    let a ← find name
    unit v
    match more, ending with
    | [], .closed => return a
    | [], .broken fault => throw (.fault fault)
    | _, _ => throw (.fault .syntaxError)
  | .text, .broken fault => throw (.fault fault)
  | .text, _ => throw (.fault .syntaxError)
  | .value, .object [(some name, v)] _ =>
    let a ← find name
    unit v
    return a
  | .value, .object _ _ => throw (.wrongValue "map" "map with a single key")
  | .value, r => r.mismatch "string or map"

/-- The value of a whole text. -/
def Document.decode {α : Type} (d : Document) (value : Reading → Decoded α) :
    Decoded α := do
  let a ← value d.value
  failOn d.after
  return a

end Marginalia.Json
