/-
Fetching the resources of a page. A fetcher answers a URL with a text or
with the reason why there is none; which one it is, is left open here. A
site is the simplest fetcher, a table of answers. A computation that
fetches keeps a list of the URLs it has asked for.
-/
import Marginalia.FileTree.Basic

namespace Marginalia

/-- Why a request has no answer: its wording, and that of what lies behind
it. -/
structure RequestFailure where
  message : String
  sources : List String := []
deriving DecidableEq, Repr

/-- Why there is no text for a URL. -/
inductive FetchError where
  /-- There is no answer to the request. -/
  | request (failure : RequestFailure)
  /-- The server answered with another status than success. -/
  | status (url : String) (code : Nat)
  /-- The file cannot be read. -/
  | unreadable (path : String) (error : FileError)
  /-- The URL is not one of a resource. -/
  | unsupported (url : String)
deriving DecidableEq, Repr

/-- The wording of a fetch error, from the outermost cause inwards. -/
def FetchError.causes : FetchError → List String
  | .request failure =>
    ("request failed: " ++ failure.message) :: failure.message :: failure.sources
  | .status url code => [url ++ " returned HTTP " ++ toString code]
  | .unreadable path error =>
    ["cannot read " ++ path ++ ": " ++ error.message, error.message]
  | .unsupported url => ["unsupported resource URL: " ++ url]

/-- The wording of a fetch error. -/
def FetchError.message (e : FetchError) : String :=
  e.causes.headD ""

/-- A way to get the text behind a URL. -/
abbrev Fetcher := String → Except FetchError String

/-- A value together with the URLs that were fetched on the way to it, in
order. -/
structure Fetching (α : Type) where
  value : α
  fetched : List String
deriving Repr

namespace Fetching

instance : Monad Fetching where
  pure a := ⟨a, []⟩
  bind x f := ⟨(f x.value).value, x.fetched ++ (f x.value).fetched⟩

/-- Fetches one URL. -/
def ask (fetch : Fetcher) (url : String) : Fetching (Except FetchError String) :=
  ⟨fetch url, [url]⟩

end Fetching

/-- The label of a resource: what follows the last slash of its URL, or
the whole URL where nothing does. -/
def originLabel (url : String) : String :=
  match (Text.splitOnChar '/' url.toList).getLast? with
  | some [] => url
  | some segment => String.ofList segment
  | none => url

/-- The fetcher that gives another answer for one URL. -/
def Fetcher.change (fetch : Fetcher) (url : String)
    (answer : Except FetchError String) : Fetcher :=
  fun u => if u = url then answer else fetch u

/-- What a site answers to one URL. -/
inductive Answer where
  | text (body : String)
  | status (code : Nat)
  | unsupported
deriving DecidableEq, Repr

/-- The status of a URL that a site does not have. -/
def missingStatus : Nat :=
  404

/-- What a fetcher makes of a site's answer for a URL, or of none. -/
def Answer.outcome (url : String) : Option Answer → Except FetchError String
  | some (.text body) => .ok body
  | some (.status code) => .error (.status url code)
  | some .unsupported => .error (.unsupported url)
  | none => .error (.status url missingStatus)

/-- A table of answers by URL. -/
abbrev Site := List (String × Answer)

/-- Fetches from a site. -/
def Site.fetch (s : Site) : Fetcher :=
  fun url => Answer.outcome url (s.lookup url)

end Marginalia
