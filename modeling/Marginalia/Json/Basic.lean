/-
JSON values. An object is the list of its members in the order written.
Whole numbers that fit sixty-four bits are kept exactly; of every other
number only its shortest decimal text is kept, since nothing in this
library counts with them.
-/
namespace Marginalia

/-- A JSON value. -/
inductive Json where
  | null
  | bool (b : Bool)
  /-- A whole number from zero to 2^64 - 1. -/
  | natural (n : Nat)
  /-- The whole number `-n`, for `n` from one to 2^63. -/
  | negative (n : Nat)
  /-- Any other number, by its shortest decimal text. -/
  | decimal (shown : String)
  | string (s : String)
  | array (items : List Json)
  | object (members : List (String × Json))
deriving Repr, Inhabited

namespace Json

/-- The greatest whole number that is kept exactly. -/
def maxNatural : Nat :=
  Nat.pow 2 64 - 1

/-- The value of the first member with the given key. -/
def member? (key : String) : Json → Option Json
  | .object members => members.lookup key
  | _ => none

end Json

end Marginalia
