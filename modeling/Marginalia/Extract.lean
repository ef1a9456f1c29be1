/-
The comments of one resource: its spans, cleaned, and of those the ones
that are not judged to be code.
-/
import Marginalia.Classify
import Marginalia.Extract.Span

namespace Marginalia.Extract

/-- The comments in the spans that are left after cleaning and judging,
in order. -/
def retain (spans : List Span) : List Comment :=
  (spans.filterMap Span.clean?).filter fun c => (classify c.kind c.text).isKeep

/-- The comments of one stylesheet, script or comment node. -/
def ofText (kind : Kind) (text : String) (origin : String) : List Comment :=
  retain (Span.ofText kind text origin)

/-- The comments of a document's comment nodes. -/
def ofNodes (nodes : List String) (origin : String) : List Comment :=
  retain (Span.ofNodes nodes origin)

end Marginalia.Extract
