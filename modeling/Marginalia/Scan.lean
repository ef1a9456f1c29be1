/-
Scanning a page: the comments of each included kind, those of the page
itself before those of the resources it links to. A resource that cannot
be fetched has no comments, and nothing else depends on it.
-/
import Marginalia.Extract
import Marginalia.Fetch
import Marginalia.Options
import Marginalia.Page

namespace Marginalia

/-- The resources with the given URLs that are fetched: all that are not
left out, unless nothing is fetched. -/
def Options.requests (o : Options) (urls : List String) : List String :=
  if o.fetchExternal then urls.filter fun url => !o.ignores url (originLabel url)
  else []

namespace Page

/-- The URLs of linked resources of a kind. -/
def links (p : Page) : Kind → List String
  | .html => []
  | .css => p.stylesheets
  | .js => p.scripts.filterMap Script.external?

/-- The comments of one style or script element, the first of its kind
having number one. -/
def inlineComments (kind : Kind) (text : String) (index : Nat) : List Comment :=
  Extract.ofText kind text (kind.inlineOrigin index)

/-- The comments of a kind that stand in the page itself. Scripts are
numbered together with those that are links. -/
def ownComments (p : Page) : Kind → List Comment
  | .html => Extract.ofNodes p.comments documentOrigin
  | .css => (p.styles.zipIdx 1).flatMap fun (text, i) => inlineComments .css text i
  | .js => (p.scripts.zipIdx 1).flatMap fun (script, i) =>
      match script with
      | .inline text =>
        if (Text.trim text.toList).isEmpty then [] else inlineComments .js text i
      | .external _ => []

/-- The comments in the answer for a URL. -/
def answerComments (kind : Kind) (url : String) :
    Except FetchError String → List Comment
  | .ok body => Extract.ofText kind body (originLabel url)
  | .error _ => []

/-- The comments of the linked resources of one kind. -/
def linkedComments (p : Page) (fetch : Fetcher) (o : Options) (kind : Kind) :
    Fetching (List Comment) := do
  let found ← (o.requests (p.links kind)).mapM fun url => do
    let answer ← Fetching.ask fetch url
    return answerComments kind url answer
  return found.flatten

/-- The comments of one kind, if they are collected. -/
def commentsOfKind (p : Page) (fetch : Fetcher) (o : Options) (kind : Kind) :
    Fetching (List Comment) :=
  if o.includes kind then do
    let linked ← p.linkedComments fetch o kind
    return p.ownComments kind ++ linked
  else return []

/-- The comments of every kind, collected one kind after the other. -/
def gather (p : Page) (fetch : Fetcher) (o : Options) : Fetching (List Comment) := do
  let found ← Kind.all.mapM (p.commentsOfKind fetch o)
  return found.flatten

/-- The comments that a scan finds. -/
def scan (p : Page) (fetch : Fetcher) (o : Options) : List Comment :=
  (p.gather fetch o).value

/-- The URLs that a scan fetches for one kind, in order. -/
def requestsFor (p : Page) (o : Options) (kind : Kind) : List String :=
  if o.includes kind then o.requests (p.links kind) else []

/-- The URLs that a scan fetches, in order, whatever the answers are. -/
def requests (p : Page) (o : Options) : List String :=
  Kind.all.flatMap (p.requestsFor o)

end Page

end Marginalia
