/-
The comments on a page as the command line lists them and as the server
does. Each loads the settings, finds the page, makes a client and visits
the page, with errors of its own and its own way to put in the kinds that
were asked for, and each writes what it found as JSON.

`Alike` relates a step of the one to a step of the other: either both give
up, with errors that tell the same trouble, or both go on with results that
are related. Steps that are alike one by one are alike in a row
(`Alike.bind`), so the two scans are (`scanned_alike`), and their results
come down to one list of comments (`Findings`): what a visit counts for the
badge is what its popup lists.
-/
import Marginalia.Proofs.Command.Line
import Marginalia.Proofs.Messaging.Bus
import Marginalia.Proofs.Session.Visit
import Marginalia.Server

namespace Marginalia

open Command (Environment RunError ScanRequest)

/-- A badge told by the comments that it counts. -/
theorem Badge.ofCount_length (found : List Comment) :
    Badge.ofCount found.length
      = ⟨if found = [] then "" else toString found.length,
          if found = [] then .noneFound else .commentsFound⟩ := by
  cases found with
  | nil => rfl
  | cons c found =>
      unfold Badge.ofCount
      have hne := List.cons_ne_nil c found
      rw [if_pos (List.length_pos_of_ne_nil hne), if_neg hne, if_neg hne]

/-- The badge of a visit counts the comments that its popup lists. -/
theorem Session.badge_of_visit {url : Url} {fetch : Fetcher} {o : Options} {s : Session}
    (h : Session.visit url fetch o = .ok s) :
    s.badge = .ofCount s.popup.comments.length := by
  rw [Session.visit_eq] at h
  cases hbody : fetch url.text with
  | error e =>
      rw [hbody] at h
      cases h
  | ok body =>
      rw [hbody] at h
      cases h
      rw [← Popup.total_eq_length_comments, PageContext.total_popup]

namespace Server

-- ======================================================= alike steps

/-- An error of a command and an error of the server that tell the same
trouble. -/
inductive SameTrouble : RunError → RequestError → Prop where
  | config (e : Config.LoadError) : SameTrouble (.config e) (.config e)
  | options (v : Config.Violation) : SameTrouble (.options v) (.options v)
  | page (e : Local.PageError) : SameTrouble (.page e) (.page e)
  | client (e : Local.ClientError) : SameTrouble (.client e) (.client e)
  | visit (f : Session.Failure) : SameTrouble (.visit f) (.visit f)

variable {α β γ δ ε : Type}

/-- A step of a command and a step of the server that go the same way. -/
inductive Alike (R : α → β → Prop) :
    Except RunError α → Except RequestError β → Prop where
  | error {e : RunError} {e' : RequestError} (h : SameTrouble e e') :
      Alike R (.error e) (.error e')
  | ok {a : α} {b : β} (h : R a b) : Alike R (.ok a) (.ok b)

namespace Alike

/-- One step that each puts into its own errors. -/
theorem mapError (x : Except ε α) {tell : ε → RunError} {tell' : ε → RequestError}
    (h : ∀ e, SameTrouble (tell e) (tell' e)) :
    Alike (fun a b => x = .ok a ∧ a = b) (x.mapError tell) (x.mapError tell') := by
  cases x with
  | error e => exact .error (h e)
  | ok a => exact .ok ⟨rfl, rfl⟩

/-- Alike steps after alike steps. -/
theorem bind {R : α → β → Prop} {S : γ → δ → Prop} {x : Except RunError α}
    {y : Except RequestError β} {f : α → Except RunError γ} {g : β → Except RequestError δ}
    (h : Alike R x y) (hnext : ∀ a b, R a b → Alike S (f a) (g b)) :
    Alike S (x >>= f) (y >>= g) := by
  cases h with
  | error htrouble => exact .error htrouble
  | ok hab => exact hnext _ _ hab

end Alike

-- ======================================================== one scan

/-- The members that tell of some comments. -/
def findings (found : List Comment) : List (String × Json) :=
  let badge : Badge :=
    ⟨if found = [] then "" else toString found.length,
      if found = [] then .noneFound else .commentsFound⟩
  [("badge", badge.toJson), ("totalCount", .natural found.length),
   ("comments", .array (found.map Report.ScanReport.commentJson))]

/-- A report of a command and a result of the server that tell of some
comments. -/
structure Findings (page : String) (found : List Comment) (report : Report.ScanReport)
    (result : Json) : Prop where
  told : report.toJson = .object (("page", .string page) :: findings found)
  answered : result = .object (findings found)
  isEmpty : report.popup.isEmpty = decide (found = [])

theorem findings_of_badge {badge : Badge} {popup : Popup}
    (h : badge = .ofCount popup.comments.length) :
    Report.ScanReport.findings badge popup = findings popup.comments := by
  unfold Report.ScanReport.findings findings
  rw [h, Badge.ofCount_length, Popup.total_eq_length_comments]

/-- A command takes the kinds of the settings where it is given none, and
so does the server where they are left out. -/
theorem options_eq {r : ScanRequest} {args : PageArguments}
    (hkinds : args.kinds.getD [] = r.kinds) (hsome : args.kinds ≠ some [])
    (hexternal : r.noExternal = false) (o : Options) :
    r.options o = { o with kinds := args.kinds.getD o.kinds } := by
  unfold ScanRequest.options
  rw [hexternal, ← hkinds]
  cases hargs : args.kinds with
  | none => simp
  | some kinds =>
      cases kinds with
      | nil => exact absurd hargs hsome
      | cons => simp

theorem scanned_alike (env : Environment) {r : ScanRequest} {args : PageArguments}
    (hpage : args.page = r.page) (hkinds : args.kinds.getD [] = r.kinds)
    (hsome : args.kinds ≠ some []) (hexternal : r.noExternal = false) :
    Alike (fun report result => ∃ found, Findings r.page found report result)
      (Command.scanned env r) (getComments env args) := by
  unfold Command.scanned getComments
  refine (Alike.mapError _ .config).bind fun loaded _ ⟨_, h⟩ => ?_
  subst h
  refine (Alike.mapError _ .options).bind fun o _ ⟨_, h⟩ => ?_
  subst h
  rw [if_neg hsome, hpage]
  refine (Alike.mapError _ .page).bind fun url _ ⟨_, h⟩ => ?_
  subst h
  refine (Alike.mapError _ .client).bind fun fetch _ ⟨_, h⟩ => ?_
  subst h
  rw [options_eq hkinds hsome hexternal]
  refine (Alike.mapError _ .visit).bind fun session _ ⟨hvisit, h⟩ => ?_
  subst h
  have hfindings := findings_of_badge (Session.badge_of_visit hvisit)
  refine .ok ⟨session.popup.comments, ?_, ?_, ?_⟩
  · rw [Report.ScanReport.toJson, hfindings]
  · rw [commentsResult, hfindings]
  · unfold Popup.isEmpty
    rw [Popup.total_eq_length_comments]
    simp

-- ======================================================== the request

/-- A request for the comments on a page, with whatever else is said. -/
def commentsCall (page : String) (more : List (String × Json)) : Request :=
  ⟨"tools/call", some (.object
    [("name", .string "get_comments"),
     ("arguments", .object (("page", .string page) :: more))])⟩

/-- The member that lists kinds. -/
def kindsMember (kinds : List Kind) : String × Json :=
  ("kinds", .array (kinds.map fun kind => .string kind.name))

theorem answer_commentsCall (env : Environment) {page : String}
    {more : List (String × Json)} {args : PageArguments}
    (h : PageArguments.decode (("page", .string page) :: more) = .ok args) :
    answer env (commentsCall page more) = (getComments env args).map toolResult := by
  show callTool env .getComments (("page", .string page) :: more) = _
  unfold callTool
  rw [h]
  show (getComments env args >>= fun v => .ok (toolResult v)) = _
  cases getComments env args with
  | error e => rfl
  | ok v => rfl

theorem decode_page (page : String) :
    PageArguments.decode [("page", .string page)] = .ok ⟨page, none, none⟩ := rfl

theorem decode_page_kinds (page : String) (kinds : List Kind) :
    PageArguments.decode [("page", .string page), kindsMember kinds]
      = .ok ⟨page, some kinds, none⟩ := by
  have hkind : ∀ kind ∈ kinds,
      (Json.Reading.variant Kind.names .value ∘ fun kind => Json.Reading.string kind.name) kind
        = .ok (id kind) := by
    intro kind _
    cases kind with
    | html => rfl
    | css => rfl
    | js => rfl
  have hkinds : Config.decodeKinds .value (kindsMember kinds).2.toReading = .ok kinds := by
    have hnames : (kindsMember kinds).2.toReading
        = .array (kinds.map fun kind => .string kind.name) .closed := by
      have hstrings := Json.toReading_strings (kinds.map Kind.name)
      rw [List.map_map, List.map_map] at hstrings
      exact hstrings
    rw [hnames, Config.decodeKinds, Json.Reading.list, List.mapM_map,
      Json.mapM_ok kinds hkind, List.map_id]
    rfl
  show ((some <$> some <$> Config.decodeKinds .value (kindsMember kinds).2.toReading)
    >>= fun kinds => Except.ok (PageArguments.mk page (Option.join kinds) none)) = _
  rw [hkinds]
  rfl

-- =============================================================== main

/-- Kinds that are given, if there are any. -/
def kindsGiven (kinds : List Kind) : List (String × Json) :=
  if kinds = [] then [] else [kindsMember kinds]

theorem decode_kindsGiven (page : String) (kinds : List Kind) :
    ∃ args : PageArguments,
      PageArguments.decode (("page", .string page) :: kindsGiven kinds) = .ok args
        ∧ args.page = page ∧ args.kinds.getD [] = kinds ∧ args.kinds ≠ some [] := by
  unfold kindsGiven
  by_cases hkinds : kinds = []
  · rw [if_pos hkinds]
    exact ⟨_, decode_page page, rfl, hkinds.symm, nofun⟩
  · rw [if_neg hkinds]
    refine ⟨_, decode_page_kinds page kinds, rfl, rfl, fun h => hkinds ?_⟩
    exact Option.some.inj h

/-- The command line and the server list the same comments on a page, for
the same kinds or for those of the settings. Either both fail, for the same
reason, the command with exit status 2; or both tell of the same comments
with the same members, the command after the page, and its exit status says
whether there are any. -/
theorem front_ends_agree (env : Environment) (page : String) (kinds : List Kind) :
    let asked : ScanRequest := { page, kinds, format := .json }
    let told := Command.run env (some (.scan asked))
    (Command.Shape.of page = .plain →
        Command.parse ("scan" :: Command.scanArguments page kinds .json)
          = .ok (some (.scan asked)))
      ∧ match answer env (commentsCall page (kindsGiven kinds)) with
        | .error e =>
            told.status.code = 2 ∧ told.stdout = ""
              ∧ ∃ trouble, told.error = some trouble ∧ SameTrouble trouble e
        | .ok result =>
            ∃ found : List Comment,
              result = toolResult (.object (findings found))
                ∧ told.error = none
                ∧ told.stdout
                  = (Json.object (("page", .string page) :: findings found)).pretty ++ "\n"
                ∧ told.status.code = if found = [] then 0 else 1 := by
  intro asked told
  refine ⟨fun hpage => Command.parse_scanArguments hpage kinds .json, ?_⟩
  obtain ⟨args, hdecode, hpage, hkinds, hsome⟩ := decode_kindsGiven page kinds
  have halike := scanned_alike env (r := asked) hpage hkinds hsome rfl
  rw [answer_commentsCall env hdecode]
  have htold : told = Command.runScan env asked := rfl
  unfold Command.runScan at htold
  clear_value told
  generalize Command.scanned env asked = scan at halike htold
  generalize getComments env args = result at halike
  cases halike with
  | error h =>
      rw [htold]
      exact ⟨rfl, rfl, _, rfl, h⟩
  | ok h =>
      obtain ⟨found, htells, rfl, hempty⟩ := h
      refine ⟨found, rfl, ?_⟩
      rw [htold]
      refine ⟨rfl, ?_, ?_⟩
      · show _ ++ _ = _
        rw [htells]
      · show Command.ExitStatus.code (if _ then _ else _) = _
        rw [hempty]
        cases found with
        | nil => rfl
        | cons c found => rfl

/-- A directory with a page whose stylesheet is on the network. -/
def linked : Environment :=
  { tree :=
      { entries :=
          [(["index.html"], .file (.text
            "<!--hello--><link rel=stylesheet href=https://example.com/a.css>"))] }
    current := []
    network := fun _ u =>
      if u.text = "https://example.com/a.css" then .ok ⟨200, .ok "/* a note */"⟩
      else .ok ⟨404, .ok "Not Found"⟩
    colour := false }

/-- Both list the comments of the page and of its stylesheet. -/
theorem front_ends_agree_index :
    let asked : ScanRequest := { page := "index.html", kinds := [.html, .css], format := .json }
    let told := Command.run linked (some (.scan asked))
    Command.Shape.of "index.html" = .plain
      ∧ Command.parse ("scan" :: Command.scanArguments "index.html" [.html, .css] .json)
        = .ok (some (.scan asked))
      ∧ told.status.code = 1
      ∧ ∃ found : List Comment, found ≠ []
        ∧ answer linked (commentsCall "index.html" (kindsGiven [.html, .css]))
          = .ok (toolResult (.object (findings found)))
        ∧ told.stdout
          = (Json.object (("page", .string "index.html") :: findings found)).pretty ++ "\n" := by
  intro asked told
  obtain ⟨hparse, hagree⟩ := front_ends_agree linked "index.html" [.html, .css]
  have hcode : told.status.code = 1 := by decide +kernel
  refine ⟨by decide, hparse (by decide), hcode, ?_⟩
  cases hanswer : answer linked (commentsCall "index.html" (kindsGiven [.html, .css])) with
  | error e =>
      rw [hanswer] at hagree
      cases hcode.symm.trans hagree.1
  | ok result =>
      rw [hanswer] at hagree
      obtain ⟨found, rfl, -, hstdout, hfound⟩ := hagree
      refine ⟨found, ?_, rfl, hstdout⟩
      rintro rfl
      cases hcode.symm.trans hfound

end Server

end Marginalia
