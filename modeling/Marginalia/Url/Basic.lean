/-
URLs in their parts, and their text. A URL with a host, or of the scheme
"file", has a path of segments; other URLs may have a path that is just
text.
-/
import Marginalia.Url.Host

namespace Marginalia

/-- The path of a URL. -/
inductive UrlPath where
  /-- A path that is not divided, as after "mailto:". -/
  | undivided (text : String)
  /-- Segments, each of which follows a slash. -/
  | segments (list : List String)
deriving DecidableEq, Repr

/-- A URL in its parts, each as it stands in the text. -/
structure Url where
  scheme : String
  username : String
  password : String
  /-- The host; `none` where the text has no double slash. -/
  host : Option Host
  port : Option Nat
  path : UrlPath
  query : Option String
  fragment : Option String
deriving DecidableEq, Repr

namespace UrlPath

/-- The text of a path. -/
def text : UrlPath → List Char
  | undivided s => s.toList
  | segments list => list.flatMap fun s => '/' :: s.toList

/-- Whether the text of a path begins with two slashes. -/
def beginsWithTwoSlashes (p : UrlPath) : Bool :=
  match p with
  | segments ("" :: _ :: _) => true
  | _ => false

end UrlPath

namespace Url

/-- Schemes whose URLs always have a host or a file path, and in which a
backslash is as good as a slash. -/
def isSpecial (scheme : String) : Bool :=
  ["http", "https", "ws", "wss", "ftp", "file"].contains scheme

/-- The port that a scheme has where none is named. -/
def defaultPort? : String → Option Nat
  | "http" => some 80
  | "ws" => some 80
  | "https" => some 443
  | "wss" => some 443
  | "ftp" => some 21
  | _ => none

/-- User name and password with the sign after them. -/
def credentials (u : Url) : List Char :=
  if u.username = "" ∧ u.password = "" then []
  else
    u.username.toList
      ++ (if u.password = "" then [] else ':' :: u.password.toList) ++ ['@']

/-- What stands between the scheme and the path. -/
def authority (u : Url) : List Char :=
  match u.host with
  | none => if u.path.beginsWithTwoSlashes then ['/', '.'] else []
  | some host =>
    '/' :: '/' :: u.credentials ++ host.text
      ++ (match u.port with
        | some n => ':' :: Nat.toDigits 10 n
        | none => [])

/-- An optional part after its mark. -/
def marked (mark : Char) : Option String → List Char
  | none => []
  | some s => mark :: s.toList

/-- The text of a URL. -/
def chars (u : Url) : List Char :=
  u.scheme.toList ++ ':' :: u.authority ++ u.path.text ++ marked '?' u.query
    ++ marked '#' u.fragment

/-- The text of a URL. -/
def text (u : Url) : String :=
  String.ofList u.chars

end Url

end Marginalia
