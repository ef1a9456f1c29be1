/-
What the tools of the server are called, what they are for, and what
arguments they take. Arguments are described by JSON Schema.
-/
import Marginalia.Json.Basic

namespace Marginalia.Server

/-- A tool of the server. -/
inductive Tool where
  | classifyComment
  | getComments
deriving DecidableEq, Repr

namespace Tool

/-- The tools, in order of their names. -/
def all : List Tool :=
  [classifyComment, getComments]

/-- The name of a tool. -/
def name : Tool → String
  | classifyComment => "classify_comment"
  | getComments => "get_comments"

/-- The tool of a name. -/
def ofName? (s : String) : Option Tool :=
  all.find? fun t => t.name = s

/-- What a tool is for. -/
def description : Tool → String
  | classifyComment =>
    "Decide whether a comment text is prose (keep) or commented-out code "
      ++ "(discard), and list the patterns that matched. HTML comments are "
      ++ "always kept."
  | getComments =>
    "Load a web page and list the comments left in its HTML, inline and "
      ++ "linked stylesheets, and inline and linked scripts. Commented-out "
      ++ "code is filtered out. Returns the toolbar badge and the comments "
      ++ "grouped HTML, CSS, JS."

/-- The schema of a string that may have just one value. -/
def constantSchema (value description : String) : Json :=
  .object
    [("description", .string description), ("type", .string "string"),
     ("const", .string value)]

/-- The schemas that others refer to. -/
def definitions : Json :=
  .object
    [("CommentKind", .object
      [("description", .string "The kind of resource a comment was found in."),
       ("oneOf", .array
        [constantSchema "html" "`<!-- ... -->` comment nodes in the document.",
         constantSchema "css" "`/* ... */` comments in inline or linked stylesheets.",
         constantSchema "js"
          "`//` and `/* ... */` comments in inline or linked scripts."])])]

/-- The reference to the schema of a kind. -/
def kindReference : String × Json :=
  ("$ref", .string "#/$defs/CommentKind")

/-- The schema of a string. -/
def textSchema (description : String) : Json :=
  .object [("description", .string description), ("type", .string "string")]

/-- The schemas of the arguments of a tool. -/
def properties : Tool → List (String × Json)
  | classifyComment =>
    [("kind", .object
      [("description", .string "Language the comment was written in: html, css or js"),
       kindReference]),
     ("text", textSchema "Comment text without its delimiters")]
  | getComments =>
    [("page", textSchema
      ("Page to scan: an http(s) URL, a file:// URL or an absolute path to an "
        ++ "HTML file")),
     ("kinds", .object
      [("description", .string "Kinds of comments to return. All kinds when omitted."),
       ("type", .string "array"), ("items", .object [kindReference]),
       ("default", .null), ("nullable", .bool true)]),
     ("settleDelayMs", .object
      [("description", .string
        ("Milliseconds to wait after load before scanning. Config value when "
          ++ "omitted.")),
       ("type", .string "integer"), ("format", .string "uint64"),
       ("minimum", .natural 0), ("default", .null), ("nullable", .bool true)])]

/-- The arguments that a tool needs. -/
def requiredNames : Tool → List String
  | classifyComment => ["kind", "text"]
  | getComments => ["page"]

/-- The title of a tool's schema. -/
def title : Tool → String
  | classifyComment => "ClassifyCommentParams"
  | getComments => "GetCommentsParams"

/-- A tool as the server lists it. -/
def toJson (t : Tool) : Json :=
  .object
    [("name", .string t.name), ("description", .string t.description),
     ("inputSchema", .object
      [("$schema", .string "https://json-schema.org/draft/2020-12/schema"),
       ("title", .string t.title), ("type", .string "object"),
       ("properties", .object t.properties),
       ("required", .array (t.requiredNames.map .string)),
       ("$defs", definitions)])]

end Tool

end Marginalia.Server
