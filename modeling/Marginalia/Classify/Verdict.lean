/-
The outcome of judging a comment's text: kept as prose, with the reason,
or discarded as commented-out code, with the evidence. Evidence is the
list of names of the patterns that matched.
-/
namespace Marginalia

/-- Why a comment is kept. -/
inductive KeepReason where
  /-- Too short for any code of its kind. -/
  | belowLengthFloor
  /-- Nothing but letters and white space. -/
  | naturalLanguage
  /-- No pattern matched. -/
  | noEvidence
  /-- Some patterns matched, but too few. -/
  | insufficientEvidence (matched : List String)
deriving DecidableEq, Repr

/-- The outcome for one comment. -/
inductive Verdict where
  | keep (reason : KeepReason)
  | discard (evidence : List String)
deriving DecidableEq, Repr

namespace Verdict

/-- Whether the comment stays. -/
def isKeep : Verdict → Bool
  | keep _ => true
  | discard _ => false

/-- Names of the patterns that matched, whatever the outcome. -/
def evidence : Verdict → List String
  | discard found => found
  | keep (.insufficientEvidence found) => found
  | keep _ => []

end Verdict

/-- The name of a reason in data formats. -/
def KeepReason.code : KeepReason → String
  | .belowLengthFloor => "belowLengthFloor"
  | .naturalLanguage => "naturalLanguage"
  | .noEvidence => "noEvidence"
  | .insufficientEvidence _ => "insufficientEvidence"

end Marginalia
