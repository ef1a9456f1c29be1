/-
Messages between the contexts of the program, and their JSON: an object
whose member "action" says which message it is. An array with the action
first and then what else the message has is read as well. A message is
read in two steps: first all of it is taken in, in the order in which it
is written, then the rest is looked at by the action.
-/
import Marginalia.Comment.Basic
import Marginalia.Json.Decode

namespace Marginalia

/-- A message. -/
inductive Message where
  /-- Asks a page for its comments. -/
  | get
  /-- Reports the comments of a page. -/
  | set (comments : List Comment)
deriving DecidableEq, Repr

namespace Message

open Json

/-- Some comments as a JSON array of wire strings. -/
def wiresJson (comments : List Comment) : Json :=
  .array (comments.map fun c => .string c.encode)

/-- A message as JSON. -/
def toJson : Message → Json
  | get => .object [("action", .string "get")]
  | set comments =>
    .object [("action", .string "set"), ("comments", wiresJson comments)]

/-- What a message asks for. -/
inductive Action where
  | get
  | set
deriving DecidableEq, Repr

/-- The actions by name. -/
def Action.names : List (String × Action) :=
  [("get", .get), ("set", .set)]

/-- The action that a value names. -/
def decodeAction : Reading → Decoded Action
  | .string name =>
    match Action.names.lookup name with
    | some a => .ok a
    | none => .error (.unknownVariant name (Action.names.map Prod.fst))
  | r => r.mismatch "variant identifier"

/-- How deep arrays and objects may be nested inside a message. -/
def maxDepth : Nat :=
  126

/-- Takes in the members of a message: its action, and the others. -/
def takeMembers (action : Option Action) :
    List (Option String × Reading) →
    Decoded (Option Action × List (String × Json))
  | [] => .ok (action, [])
  | (none, _) :: _ => .error (.fault .syntaxError)
  | (some key, r) :: more =>
    if key = "action" then
      if action.isSome then .error (.duplicateField key)
      else do
        let a ← decodeAction r
        takeMembers (some a) more
    else do
      let v ← r.takeIn maxDepth
      let (action, values) ← takeMembers action more
      return (action, (key, v) :: values)

/-- A comment on the wire. -/
def decodeComment : Reading → Decoded Comment
  | .string wire =>
    match Comment.decode wire with
    | .ok c => .ok c
    | .error e => .error (.refused e.message)
  | r => r.mismatch "a string"

/-- A list of comments on the wire. -/
def decodeComments (v : Json) : Decoded (List Comment) :=
  Reading.list decodeComment v.toReading

/-- The comments among the members of a message. -/
def findComments (found : Option (List Comment)) :
    List (String × Json) → Decoded (List Comment)
  | [] =>
    match found with
    | some comments => .ok comments
    | none => .error (.missingField "comments")
  | (key, v) :: more =>
    if key = "comments" then
      if found.isSome then .error (.duplicateField key)
      else do
        let comments ← decodeComments v
        findComments (some comments) more
    else findComments found more

/-- The message with an action and other members. -/
def ofMembers (action : Action) (members : List (String × Json)) : Decoded Message :=
  match action with
  | .get => .ok get
  | .set => set <$> findComments none members

/-- How many elements were to be expected. -/
def elementsExpected (n : Nat) : String :=
  if n = 1 then "1 element in sequence" else toString n ++ " elements in sequence"

/-- Nothing may follow the items that were used. -/
def noMore (used : Nat) (items : List Json) : Decoded Unit :=
  if items.length ≤ used then .ok ()
  else .error (.wrongLength items.length (elementsExpected used))

/-- The message with an action and other items. -/
def ofItems (action : Action) (items : List Json) : Decoded Message :=
  match action, items with
  | .get, items => do noMore 0 items; return get
  | .set, [] =>
    .error (.wrongLength 0 "struct variant Message::Set with 1 element")
  | .set, v :: more => do
    let comments ← decodeComments v
    noMore 1 (v :: more)
    return set comments

/-- The message in a document. -/
def decode : Reading → Decoded Message
  | .object members ending => do
    let (action, values) ← takeMembers none members
    failOn ending.fault?
    match action with
    | some a => ofMembers a values
    | none => throw (.missingField "action")
  | .array [] ending => do
    failOn ending.fault?
    throw (.missingField "action")
  | .array (r :: more) ending => do
    let a ← decodeAction r
    let items ← Reading.takeInItems maxDepth more
    failOn ending.fault?
    ofItems a items
  | r => r.mismatch "internally tagged enum Message"

/-- The message in a text. -/
def ofText (s : String) : Decoded Message :=
  (Json.read s.toList).decode decode

/-- What arrives when a message is sent. Messages travel as JSON. -/
def received (m : Message) : Option Message :=
  (decode m.toJson.toReading).toOption

end Message

end Marginalia
