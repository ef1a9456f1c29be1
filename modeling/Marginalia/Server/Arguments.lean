/-
The arguments of the tools, taken out of the members of a JSON object.
Members that a tool does not know are passed over, and an optional one may
be null.
-/
import Marginalia.Config.Format

namespace Marginalia.Server

open Json

/-- What a page is to be scanned for. -/
structure PageArguments where
  page : String
  kinds : Option (List Kind)
  settleDelayMs : Option Nat
deriving DecidableEq, Repr

/-- What comment is to be judged. -/
structure CommentArguments where
  kind : Kind
  text : String
deriving DecidableEq, Repr

/-- What a member must be, or the error of missing it. -/
def present {α : Type} (name : String) : Option α → Decoded α
  | some a => .ok a
  | none => .error (.missingField name)

/-- The value read for a member, unless there has been one. -/
def onceMember {α : Type} (name : String) (already : Option α) (value : Decoded α) :
    Decoded (Option α) :=
  if already.isSome then .error (.duplicateField name) else some <$> value

/-- Reads the members about a page; an optional one that is there at all
is read, be it null. -/
def takePage (page : Option String) (kinds : Option (Option (List Kind)))
    (delay : Option (Option Nat)) : List (String × Json) → Decoded PageArguments
  | [] => do
    let page ← present "page" page
    return ⟨page, kinds.join, delay.join⟩
  | (name, v) :: more => do
    let r := v.toReading
    match name with
    | "page" => takePage (← onceMember name page r.text) kinds delay more
    | "kinds" =>
      let value := Reading.option (Config.decodeKinds .value) r
      takePage page (← onceMember name kinds value) delay more
    | "settleDelayMs" =>
      let value := Reading.option Reading.natural64 r
      takePage page kinds (← onceMember name delay value) more
    | _ => takePage page kinds delay more

/-- The arguments about a page. -/
def PageArguments.decode (members : List (String × Json)) : Decoded PageArguments :=
  takePage none none none members

/-- Reads the members about a comment. -/
def takeComment (kind : Option Kind) (text : Option String) :
    List (String × Json) → Decoded CommentArguments
  | [] => do
    let kind ← present "kind" kind
    let text ← present "text" text
    return ⟨kind, text⟩
  | (name, v) :: more => do
    let r := v.toReading
    match name with
    | "kind" =>
      let value := Reading.variant Kind.names .value r
      takeComment (← onceMember name kind value) text more
    | "text" => takeComment kind (← onceMember name text r.text) more
    | _ => takeComment kind text more

/-- The arguments about a comment. -/
def CommentArguments.decode (members : List (String × Json)) :
    Decoded CommentArguments :=
  takeComment none none members

end Marginalia.Server
