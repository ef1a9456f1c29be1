/-
Reports with colours and without. `shown` is what a terminal leaves of a text:
everything but the sequences, each from an escape up to the next `m`. What is
left of a report with colours is the report without them, exactly if none of
the texts that are reported has an escape of its own (`colour_shown_iff`).

# Piece by piece

A piece without an escape is written with colours between two sequences, and
as nothing in it switches anything off, nothing in it is switched on again
(`resume_of_notMem`). It begins outside of a sequence and so does what comes
after it, so that the pieces of a report can be taken one after the other, and
what a style is put on makes no difference: an empty piece has two sequences
and leaves nothing. In particular a text is filled up to the width of its
column before anything is written, and the spaces stay as they are.

# The other direction

No escape is ever left, so a report that has one without colours comes back as
something else. As a control character it can only come with a text that is
reported (`notMem_lines_iff`); and nothing takes one away from a text, since it
is no white space: putting a text on one line drops white space at the ends of its lines
and the lines that have nothing else (`mem_singleLine_iff`).
-/
import Marginalia.Proofs.Classify.FrontEnds
import Marginalia.Proofs.Report.Lines

namespace Marginalia

namespace Text

/-- Trimming keeps what is no white space. -/
theorem mem_trim_iff {c : Char} (hc : isBlank c = false) {s : List Char} :
    c ∈ trim s ↔ c ∈ s := by
  obtain ⟨l, r, hs, hl, hr⟩ := exists_eq_append_trim s
  have hleft : c ∉ l := by
    intro h
    simp [hl c h] at hc
  have hright : c ∉ r := by
    intro h
    simp [hr c h] at hc
  conv => rhs; rw [hs]
  simp [hleft, hright]

/-- The pieces of a text have its characters between them, but for the
separator. -/
theorem exists_mem_splitOnChar_iff {sep c : Char} (hsep : c ≠ sep) {s : List Char} :
    (∃ piece ∈ splitOnChar sep s, c ∈ piece) ↔ c ∈ s := by
  rw [← mem_intercalate_iff hsep, splitOnChar_eq_splitOn, List.intercalate_splitOn]

end Text

namespace Report

open Text

-- ============================================== what is left of a text

/-- What is shown of a text that begins inside of a sequence, or outside of
one. -/
def shown : Bool → List Char → List Char
  | _, [] => []
  | true, c :: r => shown (c != 'm') r
  | false, c :: r => if c = escape then shown true r else c :: shown false r

theorem escape_notMem_shown (inside : Bool) (t : List Char) : escape ∉ shown inside t := by
  induction t generalizing inside with
  | nil => simp [shown]
  | cons c r ih =>
      cases inside with
      | true => exact ih _
      | false =>
          rw [shown]
          by_cases hc : c = escape
          · rw [if_pos hc]
            exact ih true
          · rw [if_neg hc]
            exact List.not_mem_cons_of_ne_of_not_mem (Ne.symm hc) (ih false)

/-- A text without an escape is shown, and what comes after it begins outside
of a sequence. -/
theorem shown_append {t : List Char} (ht : escape ∉ t) (r : List Char) :
    shown false (t ++ r) = t ++ shown false r := by
  induction t with
  | nil => rfl
  | cons c t ih =>
      obtain ⟨hc, ht⟩ := List.ne_and_not_mem_of_not_mem_cons ht
      rw [List.cons_append, shown, if_neg (Ne.symm hc), ih ht, List.cons_append]

/-- A sequence is over at the first `m`. -/
theorem shown_parameters {parameters : List Char} (h : 'm' ∉ parameters) (r : List Char) :
    shown true (parameters ++ 'm' :: r) = shown false r := by
  induction parameters with
  | nil => rfl
  | cons c parameters ih =>
      obtain ⟨hc, hmore⟩ := List.ne_and_not_mem_of_not_mem_cons h
      rw [List.cons_append, shown, bne_iff_ne.2 (Ne.symm hc), ih hmore]

/-- Nothing of a sequence is shown. -/
theorem shown_sequence {parameters : List Char} (h : 'm' ∉ parameters) (r : List Char) :
    shown false (sequence parameters ++ r) = shown false r := by
  have hinside : 'm' ∉ '[' :: parameters :=
    List.not_mem_cons_of_ne_of_not_mem (by decide) h
  have hsequence : sequence parameters ++ r = escape :: ('[' :: parameters ++ 'm' :: r) := by
    simp [sequence]
  rw [hsequence, shown, if_pos rfl, shown_parameters hinside]

example : shown false "\x1b[1;36mJS\x1b[0m \x1b[2m(2)\x1b[0m".toList = "JS (2)".toList := by
  decide

theorem shown_on (style : Style) (r : List Char) :
    shown false (style.on ++ r) = shown false r := by
  apply shown_sequence
  cases style with
  | bold => decide
  | dimmed => decide
  | green => decide
  | red => decide
  | cyan => decide
  | boldCyan => decide

theorem shown_off (r : List Char) : shown false (off ++ r) = shown false r :=
  shown_sequence (by decide) r

-- ======================================================== the pieces

/-- Where nothing is switched off, nothing is switched on again. -/
theorem resume_of_notMem {t : List Char} (ht : escape ∉ t) (style : Style) :
    resume style t = t := by
  induction t with
  | nil => rfl
  | cons c t ih =>
      obtain ⟨hc, ht⟩ := List.ne_and_not_mem_of_not_mem_cons ht
      rw [resume.eq_2, ih ht]
      intro r hswitch
      exact absurd hswitch (Ne.symm hc)

/-- What is shown of a piece is what it is without colours. -/
theorem shown_piece {p : Piece} (hp : escape ∉ p.write false) (r : List Char) :
    shown false (p.write true ++ r) = p.write false ++ shown false r := by
  cases p with
  | plain t => exact shown_append hp r
  | styled style t =>
      have ht : escape ∉ t := hp
      have hpiece : (Piece.styled style t).write true ++ r
          = style.on ++ (resume style t ++ (off ++ r)) := by
        simp [Piece.write]
      rw [hpiece, shown_on, resume_of_notMem ht, shown_append ht, shown_off]
      rfl

theorem shown_write {ps : List Piece} (hps : escape ∉ write false ps) :
    shown false (write true ps) = write false ps := by
  induction ps with
  | nil => rfl
  | cons p ps ih =>
      have hsplit : ∀ colour, write colour (p :: ps) = p.write colour ++ write colour ps :=
        fun _ => List.flatMap_cons
      rw [hsplit, List.mem_append, not_or] at hps
      rw [hsplit, hsplit, shown_piece hps.1, ih hps.2]

/-- Colours can be taken away from a text exactly if it has no escape without
them. -/
theorem shown_write_iff (ps : List Piece) :
    shown false (write true ps) = write false ps ↔ escape ∉ write false ps := by
  constructor
  · intro h
    rw [← h]
    exact escape_notMem_shown false _
  · exact shown_write

-- ================================================ where an escape is

/-- Putting a text on one line keeps what is no white space. -/
theorem mem_singleLine_iff {c : Char} (hc : isBlank c = false) {s : List Char} :
    c ∈ singleLine s ↔ c ∈ s := by
  have hspace : c ≠ ' ' := by
    rintro rfl
    exact absurd hc (by decide)
  have hnewline : c ≠ '\n' := by
    rintro rfl
    exact absurd hc (by decide)
  have hkept : (∃ line ∈ ((splitLines s).map trim).filter (!·.isEmpty), c ∈ line)
      ↔ ∃ line ∈ splitLines s, c ∈ line := by
    constructor
    · rintro ⟨line, hline, hin⟩
      obtain ⟨whole, hwhole, rfl⟩ := List.mem_map.1 (List.mem_of_mem_filter hline)
      exact ⟨whole, hwhole, (mem_trim_iff hc).1 hin⟩
    · rintro ⟨line, hline, hin⟩
      have htrim : c ∈ trim line := (mem_trim_iff hc).2 hin
      have hfull : (!(trim line).isEmpty) = true := by
        simpa using List.ne_nil_of_mem htrim
      exact ⟨trim line, List.mem_filter.2 ⟨List.mem_map_of_mem hline, hfull⟩, htrim⟩
  rw [singleLine, joinWith_eq_intercalate, mem_intercalate_iff hspace, hkept]
  exact exists_mem_splitOnChar_iff hnewline

theorem escape_notMem_inLines_iff {lines : List (List Char)} :
    escape ∉ inLines lines ↔ ∀ line ∈ lines, escape ∉ line := by
  simp [inLines, escape]

/-- A report on a scan has an escape where one of its texts has one. -/
theorem escape_notMem_scan_iff (r : ScanReport) :
    escape ∉ write false (r.prints.flatMap (·.pieces))
      ↔ escape ∉ r.page.toList ∧ escape ∉ r.badge.text.toList
        ∧ ∀ kind ∈ Kind.all, ∀ e ∈ r.popup.entries kind,
          escape ∉ e.text.toList ∧ escape ∉ e.origin.toList := by
  have hlines : write false (r.prints.flatMap (·.pieces)) = inLines r.lines := by
    rw [← layout_eq_inLines, ScanReport.layout, String.toList_ofList]
  have hkept : ∀ s : List Char, escape ∈ singleLine s ↔ escape ∈ s := fun _ =>
    mem_singleLine_iff (by decide)
  rw [hlines, escape_notMem_inLines_iff, notMem_lines_iff (by decide)]
  simp only [hkept]
  tauto

/-- Of a report no more is printed than is there. -/
theorem mem_write_of_mem_printed {prints : List Print} {c : Char}
    (h : c ∈ write false (printed prints)) : c ∈ write false (prints.flatMap (·.pieces)) := by
  obtain ⟨piece, hpiece, hc⟩ := List.mem_flatMap.1 h
  obtain ⟨p, hp, hpiece⟩ := List.mem_flatMap.1 hpiece
  have hmem : p ∈ prints := (List.takeWhile_sublist _).subset hp
  exact List.mem_flatMap.2 ⟨piece, List.mem_flatMap.2 ⟨p, hmem, hpiece⟩, hc⟩

theorem escape_mem_listed_iff (evidence : List String) :
    escape ∈ listed evidence ↔ ∃ name ∈ evidence, escape ∈ name.toList := by
  cases evidence with
  | nil => simp [listed]
  | cons name more =>
      have hspace : escape ≠ ' ' := by decide
      rw [listed_cons, mem_intercalate_iff (by decide)]
      simp [hspace]

/-- A report on a verdict has an escape where the evidence has one. -/
theorem escape_notMem_verdict_iff (kind : Kind) (v : Verdict) :
    escape ∉ write false (verdictPieces kind v) ↔ ∀ name ∈ v.evidence, escape ∉ name.toList := by
  have hbare : ∀ kind ∈ Kind.all, ∀ bare ∈ bareVerdicts,
      escape ∉ write false (verdictHead kind bare) := by
    decide
  have hhead : escape ∉ write false (verdictHead kind v) := by
    obtain ⟨bare, hmem, heq⟩ := exists_verdictHead_eq kind v
    rw [heq]
    exact hbare kind (by cases kind <;> decide) bare hmem
  have hlead : escape ∉ evidenceLead false := by decide
  have hlisted := escape_mem_listed_iff v.evidence
  rw [write_verdictPieces]
  unfold escape at *
  cases hevidence : v.evidence with
  | nil => simp [hhead]
  | cons name more =>
      rw [hevidence] at hlisted
      simp [hhead, hlead, hlisted]

-- =============================================================== main

/-- Colours change nothing but colours, in either report, exactly if no text
that is reported has an escape: the page, the badge, the texts and the origins
of the comments, or the names that a verdict has as its evidence. A report that
stops on the way does so at the same row with colours and without, and what is
printed of it then differs in nothing but colours either. -/
theorem colour_shown_iff :
    (∀ r : ScanReport,
      (shown false (r.layout true).toList = (r.layout false).toList
        ↔ escape ∉ r.page.toList ∧ escape ∉ r.badge.text.toList
          ∧ ∀ kind ∈ Kind.all, ∀ e ∈ r.popup.entries kind,
            escape ∉ e.text.toList ∧ escape ∉ e.origin.toList)
      ∧ (r.isComplete = true → ∀ colour, r.text colour = r.layout colour)
      ∧ (shown false (r.layout true).toList = (r.layout false).toList →
        shown false (r.text true).toList = (r.text false).toList))
      ∧ ∀ (kind : Kind) (v : Verdict),
        shown false (verdictText true kind v).toList = (verdictText false kind v).toList
          ↔ ∀ name ∈ v.evidence, escape ∉ name.toList := by
  refine ⟨fun r => ⟨?_, text_of_isComplete, ?_⟩, fun kind v => ?_⟩
  · simp only [ScanReport.layout, String.toList_ofList]
    rw [shown_write_iff, escape_notMem_scan_iff]
  · simp only [ScanReport.layout, ScanReport.text, String.toList_ofList]
    rw [shown_write_iff, shown_write_iff]
    exact mt mem_write_of_mem_printed
  · simp only [verdictText, String.toList_ofList]
    rw [shown_write_iff, escape_notMem_verdict_iff]

/-- A report on comments of two kinds, one of them on two lines. -/
def mixed : ScanReport :=
  ⟨"index.html", .ofCount 3,
    ⟨[⟨"hello", "Document"⟩, ⟨"日本\n語", "Document"⟩], [], [⟨"a note", "app.js"⟩]⟩⟩

/-- It is printed to its end, with colours that can be taken away again. -/
theorem colour_shown_mixed :
    mixed.isComplete = true
      ∧ mixed.text true = mixed.layout true
      ∧ shown false (mixed.text true).toList = (mixed.text false).toList
      ∧ mixed.text true ≠ mixed.text false := by
  obtain ⟨hescape, hcomplete, hprinted⟩ := colour_shown_iff.1 mixed
  have hall : mixed.isComplete = true := by decide +kernel
  exact ⟨hall, hcomplete hall true, hprinted (hescape.2 (by decide +kernel)), by decide +kernel⟩

end Report

end Marginalia
