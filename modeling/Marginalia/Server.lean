/-
The server for other programs: it answers requests about its tools and
runs them. Every answer is a result or an error with a number.
-/
import Marginalia.Command
import Marginalia.Server.Arguments
import Marginalia.Server.Schema

namespace Marginalia.Server

/-- A request. -/
structure Request where
  method : String
  params : Option Json
deriving Repr

/-- Why a request fails. -/
inductive RequestError where
  | unknownTool
  | badArguments (error : Json.DecodeError)
  | noKinds
  | page (error : Local.PageError)
  | config (error : Config.LoadError)
  | options (violation : Config.Violation)
  | client (error : Local.ClientError)
  | visit (failure : Session.Failure)
  | unknownMethod (method : String)

namespace RequestError

/-- The number of an error. -/
def code : RequestError → Int
  | unknownTool | badArguments _ | noKinds | page _ => -32602
  | config _ | options _ | client _ | visit _ => -32603
  | unknownMethod _ => -32601

/-- The wording of an error. For trouble with the settings only the
outermost cause is told, and so for trouble with the client. -/
def message : RequestError → String
  | unknownTool => "tool not found"
  | badArguments error => "failed to deserialize parameters: " ++ error.message
  | noKinds => "kinds cannot be empty"
  | page error => Command.chain error.causes
  | config error => "Failed to load config: " ++ error.causes.headD ""
  | options violation => "Invalid config: " ++ violation.causes.headD ""
  | client error => "Failed to initialize: " ++ error.causes.headD ""
  | visit failure => "Scan failed: " ++ Command.chain failure.causes
  | unknownMethod method => method

end RequestError

/-- What the server tells about itself. -/
def instructions : String :=
  "Remarks MCP finds the comments a web page ships to its visitors.\n\n"
    ++ "Available tools:\n"
    ++ "1. get_comments - Scan a page (URL or local HTML file) and list its comments\n"
    ++ "2. classify_comment - Check whether a single comment text is prose or code\n\n"
    ++ "Comments that look like commented-out code are filtered out of get_comments.\n"
    ++ "Use classify_comment to see why a given text is kept or discarded."

/-- What the server answers when a session begins. -/
def greeting (protocolVersion : String) : Json :=
  .object
    [("protocolVersion", .string protocolVersion),
     ("capabilities", .object [("tools", .object [])]),
     ("serverInfo", .object [("name", .string "rmcp"), ("version", .string "0.13.0")]),
     ("instructions", .string instructions)]

/-- The result of a tool, which is text. -/
def toolResult (v : Json) : Json :=
  .object
    [("content", .array
      [.object [("type", .string "text"), ("text", .string v.pretty)]]),
     ("isError", .bool false)]

/-- What is told about the comments on a page. The page itself is not
named. -/
def commentsResult (badge : Badge) (popup : Popup) : Json :=
  .object (Report.ScanReport.findings badge popup)

/-- The comments on a page, for the settings of the current directory. -/
def getComments (env : Command.Environment) (args : PageArguments) :
    Except RequestError Json := do
  let loaded ← (Config.load env.tree env.current (FileTree.pathText env.current)).mapError
    .config
  let options ← loaded.config.options.mapError .options
  if args.kinds = some [] then throw .noKinds
  let url ← (Local.pageUrl env.tree env.current args.page).mapError .page
  let fetch ← (Local.client env.tree env.network loaded.config.userAgent).mapError .client
  let session ← (Session.visit url fetch
    { options with kinds := args.kinds.getD options.kinds }).mapError .visit
  return commentsResult session.badge session.popup

/-- Runs a tool with the given members of an object as its arguments. -/
def callTool (env : Command.Environment) (tool : Tool)
    (members : List (String × Json)) : Except RequestError Json := do
  match tool with
  | .classifyComment =>
    let args ← (CommentArguments.decode members).mapError .badArguments
    return toolResult (classify args.kind args.text).toJson
  | .getComments =>
    let args ← (PageArguments.decode members).mapError .badArguments
    return toolResult (← getComments env args)

/-- Answers a call of a tool by the members of its parameters. -/
def answerCall (env : Command.Environment) (params : Json) : Except RequestError Json :=
  match params.member? "name", params.member? "arguments" with
  | some (.string name), arguments =>
    match Tool.ofName? name, arguments with
    | none, _ => .error .unknownTool
    | some tool, some (.object members) => callTool env tool members
    | some tool, _ => callTool env tool []
  | _, _ => .error (.unknownMethod "tools/call")

/-- Answers a request. -/
def answer (env : Command.Environment) (r : Request) : Except RequestError Json :=
  match r.method with
  | "ping" => .ok (.object [])
  | "tools/list" => .ok (.object [("tools", .array (Tool.all.map Tool.toJson))])
  | "tools/call" => answerCall env (r.params.getD .null)
  | "prompts/list" => .ok (.object [("prompts", .array [])])
  | "resources/list" => .ok (.object [("resources", .array [])])
  | "resources/templates/list" => .ok (.object [("resourceTemplates", .array [])])
  | method => .error (.unknownMethod method)

end Marginalia.Server
