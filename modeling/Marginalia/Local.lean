/-
Pages and resources in the file tree and on the network. A page is named by
a URL or by a path; a file URL is fetched by reading the file that it
names, any other by a request to the network, which is left open here. A
client that fetches says what program it belongs to, in a text that has to
be fit to be sent, whether anything is sent or not.
-/
import Marginalia.Fetch
import Marginalia.FileTree.Canonical
import Marginalia.Url.FilePath

namespace Marginalia.Local

/-- Why a page name leads to no page. -/
inductive PageError where
  | notFound (target : String) (error : FileError)
deriving DecidableEq, Repr

/-- The wording of a page error, from the outermost cause inwards. -/
def PageError.causes : PageError → List String
  | .notFound target error => ["Page not found: " ++ target, error.message]

/-- The schemes of pages. -/
def pageSchemes : List String :=
  ["http", "https", "file"]

/-- The URL of a page. What is not the URL of a page is the path of a
file. -/
def pageUrl (t : FileTree) (current : List String) (target : String) :
    Except PageError Url :=
  match (Url.parse? target).filter fun u => pageSchemes.contains u.scheme with
  | some url => .ok url
  | none =>
    match t.canonicalize current target with
    | .ok place => .ok (Url.ofFilePath place)
    | .error e => .error (.notFound target e)

-- =========================================================== fetching

/-- What a server answers: the number of its status, and the text that it
sends, or why that cannot be had. -/
structure Response where
  status : Nat
  body : Except RequestFailure String

/-- Whether an answer is what was asked for. -/
def Response.isSuccess (r : Response) : Bool :=
  200 ≤ r.status && r.status < 300

/-- What comes of a request for a URL by a program with a name. Redirects
are followed on the way. -/
abbrev Network := String → Url → Except RequestFailure Response

/-- Why no file is read through a path that is no text. Names in a tree are
texts, so walking comes to an end at the first name that is none, if it
gets that far. -/
def strayError (t : FileTree) (bytes : List UInt8) : FileError :=
  let names := bytes.splitOn 0x2F
  let texts := (names.map Url.ofBytes?).takeWhile Option.isSome
  let stray := names.getD texts.length []
  if bytes.contains 0 then .nulByte
  else if FileTree.maxPathBytes < bytes.length then .nameTooLong
  else
    match t.walk false FileTree.maxLinks [] (texts.filterMap id) with
    | .error e => e
    | .ok (.missing _ _) => .notFound
    | .ok (.place place) =>
      match t.obstacle? place (String.ofList (Url.shownBytes stray)) with
      | some e => e
      | none => if FileTree.maxNameBytes < stray.length then .nameTooLong else .notFound

/-- The text of the file at a path from the root. -/
def readBytes (t : FileTree) (bytes : List UInt8) : Except FileError String :=
  match Url.ofBytes? bytes with
  | some path => t.readText [] path
  | none => .error (strayError t bytes)

/-- Fetches files from a tree, and everything else by sending for it. -/
def fetch (t : FileTree) (send : Url → Except RequestFailure Response) : Fetcher := fun url =>
  match Url.parse? url with
  | none => .error (.unsupported url)
  | some u =>
    if u.scheme = "file" then
      match u.filePathBytes? with
      | none => .error (.unsupported url)
      | some bytes =>
        (readBytes t bytes).mapError (.unreadable (String.ofList (Url.shownBytes bytes)))
    else if u.scheme = "http" ∨ u.scheme = "https" then
      match send u with
      | .error failure => .error (.request failure)
      | .ok response =>
        if response.isSuccess then response.body.mapError .request
        else .error (.status url response.status)
    else .error (.unsupported url)

-- ============================================================= client

/-- Why there is no client. -/
inductive ClientError where
  /-- The name of the program cannot be sent. -/
  | badUserAgent
deriving DecidableEq, Repr

/-- The wording of a client error, from the outermost cause inwards. -/
def ClientError.causes : ClientError → List String
  | .badUserAgent =>
    (FetchError.request ⟨"builder error", ["failed to parse header value"]⟩).causes

/-- Whether a character can be sent in a header: no control but the
tab. -/
def isHeaderChar (c : Char) : Bool :=
  c == '\t' || (0x20 ≤ c.toNat && c.toNat != 0x7f)

/-- The client of a program with the given name. -/
def client (t : FileTree) (network : Network) (userAgent : String) :
    Except ClientError Fetcher :=
  if userAgent.toList.all isHeaderChar then .ok (fetch t (network userAgent))
  else .error .badUserAgent

end Marginalia.Local
