/-
Comments and the strings they travel as. A comment has a kind, a text
and an origin; its wire string is the kind's label, the text and the
origin with fixed separators between them. Reading cuts at the first
separator each time, so a text that holds the second separator comes
back split there, and a string without an origin gets a stand-in.
-/
import Marginalia.Kind
import Marginalia.Text.Graphic
import Marginalia.Text.Split

namespace Marginalia

/-- A comment found in a page. -/
structure Comment where
  kind : Kind
  text : String
  origin : String
deriving DecidableEq, Repr, Inhabited

/-- Why a string is not the wire form of a comment. -/
inductive WireError where
  /-- The string has no label at all. -/
  | missingKind (wire : String)
  /-- What stands before the first separator is no label. -/
  | unknownKind (label : String)
deriving DecidableEq, Repr

/-- The wording of a wire error. -/
def WireError.message : WireError → String
  | .missingKind wire =>
    "missing \"<KIND>: \" prefix in " ++ Text.quoteString wire
  | .unknownKind label =>
    "unknown comment kind " ++ Text.quoteString label
      ++ ", expected HTML, CSS or JS"

namespace Comment

/-- What stands between the label and the text. -/
def labelSeparator : String :=
  ": "

/-- What stands between the text and the origin. -/
def originSeparator : String :=
  " | Source: "

/-- The origin of a comment whose wire string names none. -/
def unknownOrigin : String :=
  "Unknown"

/-- The wire string of a comment. -/
def encode (c : Comment) : String :=
  c.kind.label ++ labelSeparator ++ c.text ++ originSeparator ++ c.origin

/-- The text and the origin in what follows the label. -/
def splitOrigin (body : List Char) : String × String :=
  match Text.splitFirst originSeparator.toList body with
  | some (text, origin) => (String.ofList text, String.ofList origin)
  | none => (String.ofList body, unknownOrigin)

/-- The comment with the given wire string. -/
def decode (wire : String) : Except WireError Comment :=
  match Text.splitFirst labelSeparator.toList wire.toList with
  | none => .error (.missingKind wire)
  | some (label, body) =>
    match Kind.ofLabel? (String.ofList label) with
    | none => .error (.unknownKind (String.ofList label))
    | some kind =>
      let (text, origin) := splitOrigin body
      .ok ⟨kind, text, origin⟩

end Comment

end Marginalia
