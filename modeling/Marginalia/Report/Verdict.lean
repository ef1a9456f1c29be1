/-
The report on the verdict about one comment: whether it stays and why, and
on a second line the patterns that matched, if any did.
-/
import Marginalia.Classify
import Marginalia.Json.Print
import Marginalia.Report.Scan

namespace Marginalia

/-- A reason in a report. -/
def KeepReason.phrase : KeepReason → String
  | .belowLengthFloor => "too short to judge"
  | .naturalLanguage => "plain words"
  | .noEvidence => "no code patterns matched"
  | .insufficientEvidence _ => "too few code signals"

namespace Verdict

/-- What a verdict is called. -/
def label : Verdict → String
  | keep _ => "keep"
  | discard _ => "discard"

/-- Why it is so, in a report. -/
def phrase : Verdict → String
  | keep reason => reason.phrase
  | discard _ => "looks like code"

/-- A verdict as JSON. A discarded comment has no reason. -/
def toJson (v : Verdict) : Json :=
  let reason : List (String × Json) :=
    match v with
    | keep reason => [("reason", .string reason.code)]
    | discard _ => []
  .object
    ([("verdict", .string v.label)] ++ reason
      ++ [("evidence", .array (v.evidence.map .string))])

end Verdict

namespace Report

/-- The pieces of a report on a verdict about a comment of a kind. -/
def verdictPieces (kind : Kind) (v : Verdict) : List Piece :=
  let head :=
    if v.isKeep then inStyle .green (successMark ++ " " ++ v.label)
    else inStyle .red (failureMark ++ " " ++ v.label)
  let found :=
    if v.evidence.isEmpty then []
    else
      [text "  ", inStyle .bold "evidence:",
       text (" " ++ ", ".intercalate v.evidence ++ "\n")]
  [head, text "  ", inStyle .cyan kind.label, text " ",
   inStyle .dimmed ("(" ++ v.phrase ++ ")"), text "\n"] ++ found

/-- A report on a verdict as text. -/
def verdictText (colour : Bool) (kind : Kind) (v : Verdict) : String :=
  String.ofList (write colour (verdictPieces kind v))

end Report

end Marginalia
