/-
The verdict on a text as others see it. On the command line it is an exit
status and a printed report, from the server it is a JSON value. Both come
from the same verdict, and nothing of it is lost on either way: the exit
status says that the text is code exactly where the server's answer does,
and the evidence can be read back from the report (`evidenceIn_report`) as
it stands in the answer.

# Reading a report

The first line of a report is the verdict. The second one, which is there
only if there is evidence, lists it with commas in between. That it can be
read back rests on two things: no line feed gets into the first line,
whatever the colours are, and no name of a group has a comma, a space or a
line feed in it.
-/
import Marginalia.Proofs.Classify.Verdict
import Marginalia.Proofs.Text.Occurrence
import Marginalia.Server

namespace Marginalia

open Text

namespace Report

-- ===================================================== the two lines

/-- The first line of a report on a verdict. -/
def verdictHead (kind : Kind) (v : Verdict) : List Piece :=
  [if v.isKeep then inStyle .green (successMark ++ " " ++ v.label)
    else inStyle .red (failureMark ++ " " ++ v.label),
   text "  ", inStyle .cyan kind.label, text " ",
   inStyle .dimmed ("(" ++ v.phrase ++ ")")]

/-- What stands before the evidence on its line, after two spaces. -/
def evidenceLead (colour : Bool) : List Char :=
  write colour [inStyle .bold "evidence:"]

/-- The evidence as it is listed. -/
def listed (evidence : List String) : List Char :=
  (", ".intercalate evidence).toList

theorem write_verdictPieces (colour : Bool) (kind : Kind) (v : Verdict) :
    write colour (verdictPieces kind v)
      = write colour (verdictHead kind v) ++ '\n' ::
          if v.evidence.isEmpty then []
          else ' ' :: ' ' :: evidenceLead colour ++ ' ' :: listed v.evidence ++ ['\n'] := by
  have hpieces : verdictPieces kind v = verdictHead kind v ++ text "\n" ::
      if v.evidence.isEmpty then []
      else [text "  ", inStyle .bold "evidence:",
        text (" " ++ ", ".intercalate v.evidence ++ "\n")] := rfl
  rw [hpieces, write, List.flatMap_append]
  show _ ++ '\n' :: write colour _ = _
  congr 2
  split
  · rfl
  · rw [write, List.flatMap_cons, List.flatMap_cons, List.flatMap_cons, List.flatMap_nil]
    simp only [text, Piece.write, String.toList_append, evidenceLead, write,
      List.flatMap_cons, List.flatMap_nil, List.append_nil, List.append_assoc, listed]
    rfl

/-- The verdicts without evidence. -/
def bareVerdicts : List Verdict :=
  [.keep .belowLengthFloor, .keep .naturalLanguage, .keep .noEvidence,
   .keep (.insufficientEvidence []), .discard []]

/-- The evidence does not show in the first line. -/
theorem exists_verdictHead_eq (kind : Kind) (v : Verdict) :
    ∃ bare ∈ bareVerdicts, verdictHead kind v = verdictHead kind bare := by
  cases v with
  | discard found => exact ⟨.discard [], by decide, rfl⟩
  | keep reason =>
      cases reason with
      | belowLengthFloor => exact ⟨_, by decide, rfl⟩
      | naturalLanguage => exact ⟨_, by decide, rfl⟩
      | noEvidence => exact ⟨_, by decide, rfl⟩
      | insufficientEvidence found =>
          exact ⟨.keep (.insufficientEvidence []), by decide, rfl⟩

/-- The first line is one line. -/
theorem newline_notMem_verdictHead (colour : Bool) (kind : Kind) (v : Verdict) :
    '\n' ∉ write colour (verdictHead kind v) := by
  have hbare : ∀ colour ∈ [true, false], ∀ kind ∈ Kind.all, ∀ bare ∈ bareVerdicts,
      '\n' ∉ write colour (verdictHead kind bare) := by
    decide
  obtain ⟨bare, hmem, heq⟩ := exists_verdictHead_eq kind v
  rw [heq]
  exact hbare colour (by cases colour <;> decide) kind (by cases kind <;> decide) bare hmem

-- ======================================================== reading back

/-- The names listed on a line, between commas, after its two spaces and
the lead. -/
def namesIn (line : List Char) : List String :=
  match splitFirst [' '] (line.drop 2) with
  | none => []
  | some (_, names) =>
    (splitOnChar ',' names).map fun name => String.ofList (name.dropWhile (· == ' '))

/-- The evidence that a report lists on its second line. -/
def evidenceIn (report : List Char) : List String :=
  match splitLines report with
  | _ :: line :: _ => namesIn line
  | _ => []

/-- A name that can be told from its neighbours in a list. -/
def Listable (name : String) : Prop :=
  ∀ c ∈ name.toList, c ∉ [',', ' ', '\n']

-- by name, as a search may find the instance that tries every character
instance (name : String) : Decidable (Listable name) :=
  List.decidableBAll _ name.toList

/-- The names after the first each have a space in front. -/
theorem listed_cons (name : String) (more : List String) :
    listed (name :: more)
      = [','].intercalate (name.toList :: more.map fun name => ' ' :: name.toList) := by
  rw [listed, String.toList_intercalate]
  induction more generalizing name with
  | nil => rfl
  | cons second more ih =>
      rw [List.map_cons, List.map_cons, List.map_cons, List.intercalate_cons_cons,
        List.intercalate_cons_cons, List.intercalate_cons_cons_left, ← ih, List.map_cons]
      simp

/-- Apart from the space in front, a name is listed as it is. -/
theorem notMem_of_mem_listed {c : Char} (hc : c ∈ [',', ' ', '\n']) (hspace : c ≠ ' ')
    {name : String} {more : List String} (h : ∀ n ∈ name :: more, Listable n) :
    ∀ piece ∈ name.toList :: more.map fun name => ' ' :: name.toList, c ∉ piece := by
  obtain ⟨hname, hmore⟩ := List.forall_mem_cons.1 h
  rw [List.forall_mem_cons]
  refine ⟨fun hin => hname c hin hc, fun piece hpiece => ?_⟩
  obtain ⟨n, hn, rfl⟩ := List.mem_map.1 hpiece
  exact List.not_mem_cons_of_ne_of_not_mem hspace fun hin => hmore n hn c hin hc

theorem splitOnChar_listed {name : String} {more : List String}
    (h : ∀ n ∈ name :: more, Listable n) :
    splitOnChar ',' (listed (name :: more))
      = name.toList :: more.map fun name => ' ' :: name.toList := by
  have hcomma := notMem_of_mem_listed (c := ',') (by decide) (by decide) h
  rw [splitOnChar_eq_splitOn, listed_cons]
  exact List.splitOn_intercalate _ hcomma (List.cons_ne_nil _ _)

theorem dropWhile_space {name : String} (h : Listable name) :
    String.ofList (name.toList.dropWhile (· == ' ')) = name := by
  have hself : name.toList.dropWhile (· == ' ') = name.toList := by
    cases hs : name.toList with
    | nil => rfl
    | cons c r =>
        have hc := h c (hs ▸ List.mem_cons_self)
        rw [List.dropWhile_cons_of_neg]
        rintro hspace
        rw [beq_iff_eq.1 hspace] at hc
        exact hc (by decide)
  rw [hself, String.ofList_toList]

/-- The names are all on one line. -/
theorem newline_notMem_listed {name : String} {more : List String}
    (h : ∀ n ∈ name :: more, Listable n) : '\n' ∉ listed (name :: more) := by
  have hnewline := notMem_of_mem_listed (c := '\n') (by decide) (by decide) h
  rw [listed_cons, mem_intercalate_iff (by decide)]
  rintro ⟨piece, hpiece, hin⟩
  exact hnewline piece hpiece hin

/-- The lead has neither a space nor a line feed in it. -/
theorem notMem_evidenceLead (colour : Bool) :
    ' ' ∉ evidenceLead colour ∧ '\n' ∉ evidenceLead colour := by
  cases colour with
  | false => decide
  | true => decide

theorem namesIn_evidenceLine (colour : Bool) {name : String} {more : List String}
    (h : ∀ n ∈ name :: more, Listable n) :
    namesIn (' ' :: ' ' :: evidenceLead colour ++ ' ' :: listed (name :: more))
      = name :: more := by
  have hcut : splitFirst [' '] (evidenceLead colour ++ ' ' :: listed (name :: more))
      = some (evidenceLead colour, listed (name :: more)) :=
    splitFirst_singleton (notMem_evidenceLead colour).1 _
  have hmore : (more.map fun n => ' ' :: n.toList).map
      (fun n => String.ofList (n.dropWhile (· == ' '))) = more := by
    rw [List.map_map]
    refine (List.map_congr_left fun n hn => ?_).trans (List.map_id more)
    exact dropWhile_space (h n (List.mem_cons_of_mem name hn))
  rw [namesIn]
  simp only [List.cons_append, List.drop_succ_cons, List.drop_zero, hcut]
  rw [splitOnChar_listed h, List.map_cons, hmore,
    dropWhile_space (h name List.mem_cons_self)]

/-- The evidence can be read back from a report. -/
theorem evidenceIn_report (colour : Bool) (kind : Kind) {v : Verdict}
    (h : ∀ n ∈ v.evidence, Listable n) :
    evidenceIn (write colour (verdictPieces kind v)) = v.evidence := by
  have hhead := newline_notMem_verdictHead colour kind v
  rw [write_verdictPieces, evidenceIn, splitLines, splitOnChar_eq_splitOn,
    List.splitOn_append_cons_self_of_not_mem hhead]
  cases hevidence : v.evidence with
  | nil => rfl
  | cons name more =>
      rw [hevidence] at h
      have hline : '\n' ∉ ' ' :: ' ' :: evidenceLead colour ++ ' ' :: listed (name :: more) := by
        simp [(notMem_evidenceLead colour).2, newline_notMem_listed h]
      rw [List.isEmpty_cons, if_neg Bool.false_ne_true,
        List.splitOn_append_cons_self_of_not_mem hline]
      exact namesIn_evidenceLine colour h

/-- The evidence about a text can be listed. -/
theorem listable_evidence (kind : Kind) (text : String) :
    ∀ n ∈ (classify kind text).evidence, Listable n := by
  have hnames : ∀ n ∈ kind.evidenceNames, Listable n := by
    cases kind with
    | html => decide
    | css => decide
    | js => decide
  intro n hn
  exact hnames n ((evidence_sublist kind text).subset hn)

end Report

-- ===================================================== the two answers

namespace Verdict

theorem member?_verdict (v : Verdict) : v.toJson.member? "verdict" = some (.string v.label) := by
  cases v with
  | keep reason => rfl
  | discard found => rfl

theorem member?_evidence (v : Verdict) :
    v.toJson.member? "evidence" = some (.array (v.evidence.map .string)) := by
  cases v with
  | keep reason => rfl
  | discard found => rfl

end Verdict

namespace Command

variable (env : Environment) (kind : Kind) (text : String) (verbose : Bool)

/-- A command line that asks for the verdict on a text, whatever the text
looks like. -/
theorem parse_classify :
    parse ["classify", kind.name, "--", text] = .ok (some (.classify kind text false)) := by
  cases kind with
  | html => rfl
  | css => rfl
  | js => rfl

theorem code_run_classify :
    (run env (some (.classify kind text verbose))).status.code = 1
      ↔ (Marginalia.classify kind text).label = "discard" := by
  show (if (Marginalia.classify kind text).isKeep then ExitStatus.clean
    else ExitStatus.found).code = 1 ↔ _
  cases Marginalia.classify kind text with
  | keep reason => simp [Verdict.isKeep, Verdict.label, ExitStatus.code]
  | discard found => simp [Verdict.isKeep, Verdict.label, ExitStatus.code]

theorem evidenceIn_run_classify :
    Report.evidenceIn (run env (some (.classify kind text verbose))).stdout.toList
      = (Marginalia.classify kind text).evidence := by
  show Report.evidenceIn (Report.verdictText env.colour kind _).toList = _
  rw [Report.verdictText, String.toList_ofList]
  exact Report.evidenceIn_report env.colour kind (Report.listable_evidence kind text)

end Command

namespace Server

/-- A request for the verdict on a text. -/
def classifyCall (kind : Kind) (text : String) : Request :=
  ⟨"tools/call", some (.object
    [("name", .string "classify_comment"),
     ("arguments", .object [("kind", .string kind.name), ("text", .string text)])])⟩

theorem answer_classifyCall (env : Command.Environment) (kind : Kind) (text : String) :
    answer env (classifyCall kind text) = .ok (toolResult (classify kind text).toJson) := by
  cases kind with
  | html => rfl
  | css => rfl
  | js => rfl

end Server

-- =============================================================== main

/-- When a text is code, with what evidence, and how that is told. A
stylesheet comment is code if it has ten characters and two of the twenty
signals; one signal is noted. A script comment is code if it has three
characters, is not plain words, and either one of the four groups fits or
it has more than five hundred characters. A document comment never is. For
every kind the command line and the server tell the same verdict and the
same evidence. -/
theorem verdict_exact (here there : Command.Environment) (text : String) (verbose : Bool) :
    ((∃ found, classify .css text = .discard found)
        ↔ 10 ≤ text.length ∧ 2 ≤ Css.signals.countP fun g => g.Fits text.toList)
      ∧ ((∃ found, classify .css text = .keep (.insufficientEvidence found))
        ↔ 10 ≤ text.length ∧ (Css.signals.countP fun g => g.Fits text.toList) = 1)
      ∧ (classify .css text).evidence
        = (if 10 ≤ text.length then PatternGroup.fitting Css.signals text.toList else [])
      ∧ Css.signals.length = 20
      ∧ ((∃ found, classify .js text = .discard found)
        ↔ 3 ≤ text.length ∧ Js.Coded text.toList
          ∧ ((∃ g ∈ Js.groups, g.Fits text.toList) ∨ 500 < text.length))
      ∧ (classify .js text).evidence
        = (if 3 ≤ text.length ∧ Js.Coded text.toList then
            PatternGroup.fitting Js.groups text.toList
              ++ if 500 < text.length then ["length-ceiling"] else []
          else [])
      ∧ Js.groups.map PatternGroup.name
        = ["markup", "code-syntax", "css-leak", "syntax-fragment"]
      ∧ (∀ found, classify .html text ≠ .discard found)
      ∧ ∀ kind : Kind,
          (classify kind text).evidence.Nodup
          ∧ classify kind text ≠ .discard []
          ∧ Command.parse ["classify", kind.name, "--", text]
            = .ok (some (.classify kind text false))
          ∧ Server.answer there (Server.classifyCall kind text)
            = .ok (Server.toolResult (classify kind text).toJson)
          ∧ ((Command.run here (some (.classify kind text verbose))).status.code = 1
            ↔ (classify kind text).toJson.member? "verdict" = some (.string "discard"))
          ∧ (classify kind text).toJson.member? "evidence"
            = some (.array ((Report.evidenceIn
                (Command.run here (some (.classify kind text verbose))).stdout.toList).map
                  .string)) := by
  have hlength : text.length = text.toList.length := String.length_toList.symm
  rw [hlength]
  refine ⟨Css.exists_discard_iff _, Css.exists_insufficient_iff _, Css.evidence_classify _,
    rfl, Js.exists_discard_iff _, ?_, rfl, fun found => Verdict.noConfusion, fun kind => ?_⟩
  · rw [classify, Js.evidence_classify, Js.evidence_eq]
    rfl
  · refine ⟨(Kind.nodup_evidenceNames kind).sublist (evidence_sublist kind text),
      classify_ne_discard_nil kind text, Command.parse_classify kind text,
      Server.answer_classifyCall there kind text, ?_, ?_⟩
    · rw [Command.code_run_classify, Verdict.member?_verdict]
      simp
    · rw [Verdict.member?_evidence, Command.evidenceIn_run_classify]

end Marginalia
