/-
The verdict on a comment of any kind. Document comments are always
kept.
-/
import Marginalia.Classify.Css
import Marginalia.Classify.Js
import Marginalia.Kind

namespace Marginalia

/-- The verdict on a comment's text. -/
def classify (kind : Kind) (text : String) : Verdict :=
  match kind with
  | .html => .keep .noEvidence
  | .css => Css.classify text.toList
  | .js => Js.classify text.toList

end Marginalia
