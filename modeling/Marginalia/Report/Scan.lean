/-
The report on a scanned page. As text it has the badge, then for each kind
with comments a heading and a row for each comment, then a line that says
what was found. The origins stand in a column of their own: the texts are
filled up to the widest of them, and where that takes more columns than can
be filled up at one go, the report stops. As JSON it is one object.
-/
import Marginalia.Badge
import Marginalia.Json.Print
import Marginalia.Popup
import Marginalia.Report.Style
import Marginalia.Text.Split
import Marginalia.Text.Width

namespace Marginalia.Report

/-- The mark for nothing wrong. -/
def successMark : String :=
  "✓"

/-- The mark for something found. -/
def failureMark : String :=
  "✘"

/-- What a scan is reported as. -/
structure ScanReport where
  /-- The page as it was asked for. -/
  page : String
  badge : Badge
  popup : Popup
deriving DecidableEq, Repr

/-- A text on one line: its lines without white space at their ends, those
that are not empty, with a space between them. -/
def singleLine (s : List Char) : List Char :=
  Text.joinWith [' '] (((Text.splitLines s).map Text.trim).filter (!·.isEmpty))

/-- The line about the badge. -/
def badgeLine (b : Badge) : Print :=
  let shown := if b.text = "" then inStyle .dimmed "(empty)" else inStyle .bold b.text
  { pieces :=
      [inStyle .bold "badge:", text " ", shown, text "  ", inStyle .dimmed b.icon.path,
       text "\n"] }

/-- A number of characters that all are spaces. -/
def spaces (n : Nat) : List Char :=
  List.replicate n ' '

/-- The most columns that can be filled up at one go. -/
def maxPadding : Nat :=
  65535

/-- The width of the widest of some lines. -/
def widest (lines : List (List Char)) : Nat :=
  lines.foldl (fun n line => max n (Text.width line)) 0

/-- A row of a group whose texts are as wide as given. -/
def row (width : Nat) (e : PopupEntry) : Print :=
  let line := singleLine e.text.toList
  let padding := width - Text.width line
  { pieces :=
      [text "  ", .plain (line ++ spaces padding), text "  ",
       inStyle .dimmed ("(" ++ e.origin ++ ")"), text "\n"]
    isPossible := padding ≤ maxPadding }

/-- An empty line and the heading of a group of a size. -/
def heading (kind : Kind) (size : Nat) : Print :=
  { pieces :=
      [text "\n", inStyle .boldCyan kind.label, text " ",
       inStyle .dimmed ("(" ++ toString size ++ ")"), text "\n"] }

/-- The heading and the rows for the comments of one kind. -/
def group (kind : Kind) (entries : List PopupEntry) : List Print :=
  if entries.isEmpty then []
  else
    let width := widest (entries.map fun e => singleLine e.text.toList)
    heading kind entries.length :: entries.map (row width)

/-- The line that says what was found. -/
def conclusion (page : String) (total : Nat) : Print :=
  let noun := if total = 1 then "comment" else "comments"
  { pieces :=
      if total = 0 then
        [inStyle .green successMark, text " ",
         inStyle .green ("No comments found in " ++ page), text "\n"]
      else
        [text "\n", inStyle .red failureMark,
         text (" Found " ++ toString total ++ " " ++ noun ++ " in "), inStyle .bold page,
         text "\n"] }

namespace ScanReport

/-- What is printed of a report, bit by bit. -/
def prints (r : ScanReport) : List Print :=
  badgeLine r.badge :: Kind.all.flatMap (fun kind => group kind (r.popup.entries kind))
    ++ [conclusion r.page r.popup.total]

/-- Whether a report can be printed to its end. -/
def isComplete (r : ScanReport) : Bool :=
  r.prints.all (·.isPossible)

/-- All of a report as text. -/
def layout (colour : Bool) (r : ScanReport) : String :=
  String.ofList (write colour (r.prints.flatMap (·.pieces)))

/-- A report as text, as far as it is printed. -/
def text (colour : Bool) (r : ScanReport) : String :=
  String.ofList (write colour (printed r.prints))

/-- A comment as a JSON object. -/
def commentJson (c : Comment) : Json :=
  .object
    [("kind", .string c.kind.name), ("text", .string c.text),
     ("origin", .string c.origin)]

/-- The members of a JSON object about comments that do not name the
page. -/
def findings (badge : Badge) (popup : Popup) : List (String × Json) :=
  [("badge", badge.toJson), ("totalCount", .natural popup.total),
   ("comments", .array (popup.comments.map commentJson))]

/-- A report as JSON. -/
def toJson (r : ScanReport) : Json :=
  .object (("page", .string r.page) :: findings r.badge r.popup)

end ScanReport

end Marginalia.Report
