/-
The settings as JSON: an object with up to five members in any order, of
which those that are missing keep their defaults and those that are not
known are passed over. An array with the five values in order, or with
the first few of them, is read as well.
-/
import Marginalia.Config.Basic
import Marginalia.Json.Decode
import Marginalia.Json.Print

namespace Marginalia

/-- The names of the kinds. -/
def Kind.names : List (String × Kind) :=
  Kind.all.map fun k => (k.name, k)

namespace Config

open Json

/-- The settings as a JSON object. -/
def toJson (c : Config) : Json :=
  .object
    [("settleDelayMs", .natural c.settleDelayMs),
     ("fetchExternal", .bool c.fetchExternal),
     ("kinds", .array (c.kinds.map fun k => .string k.name)),
     ("ignoreSources", .array (c.ignoreSources.map .string)),
     ("userAgent", .string c.userAgent)]

/-- The text that a new configuration file holds. -/
def standardText : String :=
  standard.toJson.pretty

/-- The settings read so far. -/
structure Draft where
  settleDelayMs : Option Nat := none
  fetchExternal : Option Bool := none
  kinds : Option (List Kind) := none
  ignoreSources : Option (List String) := none
  userAgent : Option String := none

/-- The settings, with defaults for those that were not read. -/
def Draft.complete (p : Draft) : Config :=
  { settleDelayMs := p.settleDelayMs.getD standard.settleDelayMs
    fetchExternal := p.fetchExternal.getD standard.fetchExternal
    kinds := p.kinds.getD standard.kinds
    ignoreSources := p.ignoreSources.getD standard.ignoreSources
    userAgent := p.userAgent.getD standard.userAgent }

/-- The list of kinds. -/
def decodeKinds (source : Source) : Reading → Decoded (List Kind) :=
  Reading.list (Reading.variant Kind.names source)

/-- Takes up one member of the object. -/
def Draft.take (source : Source) (p : Draft) (key : String) (v : Reading) :
    Decoded Draft := do
  let once {α : Type} (present : Option α) : Decoded Unit :=
    if present.isSome then throw (.duplicateField key) else .ok ()
  match key with
  | "settleDelayMs" =>
    once p.settleDelayMs
    return { p with settleDelayMs := some (← v.natural64) }
  | "fetchExternal" =>
    once p.fetchExternal
    return { p with fetchExternal := some (← v.boolean) }
  | "kinds" =>
    once p.kinds
    return { p with kinds := some (← decodeKinds source v) }
  | "ignoreSources" =>
    once p.ignoreSources
    return { p with ignoreSources := some (← v.list Reading.text) }
  | "userAgent" =>
    once p.userAgent
    return { p with userAgent := some (← v.text) }
  | _ =>
    v.skip
    return p

/-- Takes up the members of the object in order. -/
def Draft.takeAll (source : Source) (p : Draft) :
    List (Option String × Reading) → Decoded Draft
  | [] => .ok p
  | (none, _) :: _ => .error (.fault .syntaxError)
  | (some key, v) :: more => do
    let p ← p.take source key v
    p.takeAll source more

/-- Takes up the items of an array, in the order of the settings. -/
def Draft.takeItems (source : Source) (p : Draft) :
    List String → List Reading → Decoded Draft
  | key :: keys, v :: more => do
    let p ← p.take source key v
    p.takeItems source keys more
  | _, _ => .ok p

/-- The names of the settings, in order. -/
def fieldNames : List String :=
  ["settleDelayMs", "fetchExternal", "kinds", "ignoreSources", "userAgent"]

/-- What follows the items that were taken up must be the end of the
array. -/
def endOfItems (source : Source) (items : List Reading) (ending : Ending) :
    Decoded Unit :=
  if items.length ≤ fieldNames.length then
    match ending with
    | .brokenAhead fault =>
      if items.length = fieldNames.length then throw (.fault .syntaxError)
      else throw (.fault fault)
    | ending => failOn ending.fault?
  else
    match source with
    | .text => throw (.fault .syntaxError)
    | .value => throw (.wrongLength items.length "fewer elements in array")

/-- The settings in a document. -/
def decode (source : Source) (r : Reading) : Decoded Config := do
  match r with
  | .object members ending =>
    let p ← Draft.takeAll source {} members
    failOn ending.fault?
    return p.complete
  | .array items ending =>
    let p ← Draft.takeItems source {} fieldNames items
    endOfItems source items ending
    return p.complete
  | r => r.mismatch "struct Config"

/-- The settings in a text. -/
def ofText (s : String) : Decoded Config :=
  (Json.read s.toList).decode (decode .text)

end Config

end Marginalia
