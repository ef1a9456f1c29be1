/-
What a scan is asked to do: which kinds of comment to collect, whether
to fetch linked resources, and which of those to leave out.
-/
import Marginalia.Glob
import Marginalia.Kind

namespace Marginalia

/-- The options of a scan. -/
structure Options where
  kinds : List Kind
  fetchExternal : Bool
  /-- Linked resources whose URL or label matches are not fetched. -/
  ignore : List Glob
deriving DecidableEq, Repr

namespace Options

/-- Everything is collected and nothing left out. -/
def standard : Options :=
  ⟨Kind.all, true, []⟩

/-- Whether comments of a kind are collected. -/
def includes (o : Options) (k : Kind) : Bool :=
  o.kinds.contains k

/-- Whether a resource with this URL and label is left out. -/
def ignores (o : Options) (url label : String) : Bool :=
  o.ignore.any fun g => g.accepts url || g.accepts label

end Options

end Marginalia
