/-
A visit to one page, from its URL to its popup: the page is fetched and
scanned, the number of its comments is reported for the badge, and then
the popup asks the page for its comments, which scans it once more.
-/
import Marginalia.Messaging.World

namespace Marginalia

/-- What a visit shows, and the URLs fetched for it. -/
structure Session where
  badge : Badge
  popup : Popup
  fetched : List String
deriving DecidableEq, Repr

namespace Session

/-- The tab of a visit. -/
def tab : TabId :=
  1

/-- Why a visit fails. -/
inductive Failure where
  | pageNotLoaded (url : String) (error : FetchError)
  | notReported (error : DeliveryError)
deriving DecidableEq, Repr

/-- The wording of a failure, from the outermost cause inwards. -/
def Failure.causes : Failure → List String
  | .pageNotLoaded url error => ("Failed to load page: " ++ url) :: error.causes
  | .notReported error =>
    ["Failed to report comments to the background context", error.message]

/-- Opens a page that has been loaded: it reports its comments, and then
the popup asks for them. Gives what the badge and the popup show. -/
def opened (page : PageContext) : Fetching (Except Failure (Badge × Popup)) :=
  let (loaded, first) := (World.start [page]).load 0 tab .background
  match loaded with
  | .error e => ⟨.error (.notReported e), first.map (·.2)⟩
  | .ok (w, _) =>
    let (popup, second) := w.openPopup (.page 0)
    ⟨.ok ((w.badge? tab).getD (.ofCount 0), popup), (first ++ second).map (·.2)⟩

/-- Fetches the page with the given URL and opens it. -/
def attempt (url : Url) (fetch : Fetcher) (o : Options) :
    Fetching (Except Failure (Badge × Popup)) := do
  match ← Fetching.ask fetch url.text with
  | .error e => return .error (.pageNotLoaded url.text e)
  | .ok html => opened ⟨Page.ofHtml html (some url), fetch, o⟩

/-- Visits the page with the given URL. -/
def visit (url : Url) (fetch : Fetcher) (o : Options) : Except Failure Session :=
  let visited := attempt url fetch o
  visited.value.map fun (badge, popup) => ⟨badge, popup, visited.fetched⟩

end Session

end Marginalia
