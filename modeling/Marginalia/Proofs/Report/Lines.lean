/-
The lines of a report on a scan. `ScanReport.lines` lists what a reader is to
see: a line about the badge, for each kind with comments an empty line, a
heading and one row for each comment, and at the end what was found. Without
colours a report is the text of these lines (`layout_eq_inLines`), and it can be
read back line by line exactly if there is no line feed in any of them.

# Where a line feed can come from

The number of comments, the labels and the words of the program have none, nor
any other control character (`notMem_lines_iff`). The text of a comment is put
on one line before it is shown, so it has none either, however many lines it had
on the page (`newline_notMem_singleLine`). The origin is shown as it is. On the
page an origin is the name of an element or of a resource; but a comment crosses
the wire before it is reported, and a text with a separator in it comes back
shorter, the rest of it being taken for the origin (Comment/Wire.lean). That
rest can have any number of lines, and with it the row, which is how a page can
write lines of its own into a report.

# Columns

In a group the texts are filled up to the widest of them. No text is wider than
that, so nothing is ever taken away, and as spaces join no cluster
(Text/Width.lean) what is shown in front of the origins is equally wide in
every row.

# Where a report stops

No more than 65535 columns can be filled up at one go. A text that is narrower
than the widest by more than that stops the report in front of its row. What is
printed at one go are whole lines (`ScanReport.bits`), so what is printed until
then are the first lines of the report (`exists_text_eq_take`).
-/
import Mathlib.Algebra.GroupWithZero.Nat
import Marginalia.Command
import Marginalia.Proofs.Config.Loading
import Marginalia.Proofs.Session.Visit
import Marginalia.Proofs.Text.Trim
import Marginalia.Proofs.Text.Width

namespace Marginalia

namespace Report

open Text

-- ==================================================== lines of a text

/-- Lines as one text, each ended by a line feed. -/
def inLines (lines : List (List Char)) : List Char :=
  lines.flatMap (· ++ ['\n'])

theorem inLines_cons (line : List Char) (more : List (List Char)) :
    inLines (line :: more) = line ++ '\n' :: inLines more := by
  simp [inLines]

/-- Lines can be read back if no line feed is in any of them, and only then;
after the last one an empty piece is left. -/
theorem splitLines_inLines_iff {lines : List (List Char)} :
    splitLines (inLines lines) = lines ++ [[]] ↔ ∀ line ∈ lines, '\n' ∉ line := by
  constructor
  · intro h line hline
    apply sep_notMem_of_mem_splitOnChar (s := inLines lines)
    show line ∈ splitLines (inLines lines)
    rw [h]
    exact List.mem_append_left _ hline
  · intro h
    induction lines with
    | nil => rfl
    | cons line more ih =>
        obtain ⟨hline, hmore⟩ := List.forall_mem_cons.1 h
        have ih := ih hmore
        unfold splitLines at ih ⊢
        rw [splitOnChar_eq_splitOn] at ih ⊢
        rw [inLines_cons, List.splitOn_append_cons_self_of_not_mem hline, ih, List.cons_append]

-- ============================================== the lines of a report

/-- The line about the badge. -/
def badgeText (b : Badge) : List Char :=
  "badge: ".toList ++ (if b.text = "" then "(empty)" else b.text).toList ++ "  ".toList
    ++ b.icon.path.toList

/-- The width of the column of texts. -/
def columnWidth (entries : List PopupEntry) : Nat :=
  widest (entries.map fun e => singleLine e.text.toList)

/-- A text as it is shown in a column. -/
def cell (width : Nat) (e : PopupEntry) : List Char :=
  let line := singleLine e.text.toList
  line ++ spaces (width - Text.width line)

/-- The row of a comment. -/
def rowText (width : Nat) (e : PopupEntry) : List Char :=
  "  ".toList ++ cell width e ++ "  ".toList ++ ("(" ++ e.origin ++ ")").toList

/-- The heading of a group. -/
def headingText (kind : Kind) (size : Nat) : List Char :=
  kind.label.toList ++ " ".toList ++ ("(" ++ toString size ++ ")").toList

/-- An empty line, the heading and the rows of a group with comments. -/
def groupLines (kind : Kind) (entries : List PopupEntry) : List (List Char) :=
  if entries = [] then []
  else [] :: headingText kind entries.length :: entries.map (rowText (columnWidth entries))

/-- What was found. -/
def conclusionLines (page : String) (total : Nat) : List (List Char) :=
  if total = 0 then [("✓ No comments found in " ++ page).toList]
  else
    [[], ("✘ Found " ++ toString total ++ (if total = 1 then " comment" else " comments")
      ++ " in " ++ page).toList]

/-- The lines of a report. -/
def ScanReport.lines (r : ScanReport) : List (List Char) :=
  badgeText r.badge
    :: Kind.all.flatMap (fun kind => groupLines kind (r.popup.entries kind))
    ++ conclusionLines r.page r.popup.total

-- ========================================================== writing

theorem write_badgeLine (b : Badge) :
    write false (badgeLine b).pieces = inLines [badgeText b] := by
  unfold badgeLine badgeText
  by_cases htext : b.text = ""
  · simp [htext, write, Piece.write, inStyle, Report.text, inLines]
  · simp [htext, write, Piece.write, inStyle, Report.text, inLines]

theorem write_row (width : Nat) (e : PopupEntry) :
    write false (row width e).pieces = inLines [rowText width e] := by
  simp [row, rowText, cell, write, Piece.write, inStyle, Report.text, inLines]

theorem write_heading (kind : Kind) (size : Nat) :
    write false (heading kind size).pieces = inLines [[], headingText kind size] := by
  simp [heading, headingText, write, Piece.write, inStyle, Report.text, inLines]

theorem write_conclusion (page : String) (total : Nat) :
    write false (conclusion page total).pieces = inLines (conclusionLines page total) := by
  unfold conclusion conclusionLines
  by_cases hnone : total = 0
  · simp [hnone, write, Piece.write, inStyle, Report.text, successMark, inLines]
  · by_cases hone : total = 1
    · simp [hone, write, Piece.write, inStyle, Report.text, failureMark, inLines]
    · simp [hnone, hone, write, Piece.write, inStyle, Report.text, failureMark, inLines]

/-- A row as it is printed, with the line that it is. -/
def rowBit (entries : List PopupEntry) (e : PopupEntry) : Print × List (List Char) :=
  (row (columnWidth entries) e, [rowText (columnWidth entries) e])

/-- What is printed of a group, with the lines that it is. -/
def groupBits (kind : Kind) (entries : List PopupEntry) : List (Print × List (List Char)) :=
  if entries = [] then []
  else
    (heading kind entries.length, [[], headingText kind entries.length])
      :: entries.map (rowBit entries)

/-- What is printed of a report, with the lines that it is. -/
def ScanReport.bits (r : ScanReport) : List (Print × List (List Char)) :=
  (badgeLine r.badge, [badgeText r.badge])
    :: Kind.all.flatMap (fun kind => groupBits kind (r.popup.entries kind))
    ++ [(conclusion r.page r.popup.total, conclusionLines r.page r.popup.total)]

theorem map_fst_groupBits (kind : Kind) (entries : List PopupEntry) :
    (groupBits kind entries).map Prod.fst = group kind entries := by
  unfold groupBits group
  by_cases hnone : entries = []
  · rw [if_pos hnone, if_pos (List.isEmpty_iff.2 hnone)]
    rfl
  · rw [if_neg hnone, if_neg (by simpa using hnone), List.map_cons, List.map_map]
    rfl

theorem flatMap_snd_groupBits (kind : Kind) (entries : List PopupEntry) :
    (groupBits kind entries).flatMap Prod.snd = groupLines kind entries := by
  unfold groupBits groupLines
  by_cases hnone : entries = []
  · rw [if_pos hnone, if_pos hnone]
    rfl
  · rw [if_neg hnone, if_neg hnone, List.flatMap_cons, List.flatMap_map, List.map_eq_flatMap]
    rfl

namespace ScanReport

variable (r : ScanReport)

theorem map_fst_bits : r.bits.map Prod.fst = r.prints := by
  unfold bits prints
  rw [List.map_append, List.map_cons, List.map_flatMap]
  simp only [map_fst_groupBits]
  rfl

theorem flatMap_snd_bits : r.bits.flatMap Prod.snd = r.lines := by
  unfold bits lines
  rw [List.flatMap_append, List.flatMap_cons, List.flatMap_assoc, List.flatMap_singleton]
  simp only [flatMap_snd_groupBits]
  rfl

variable {r}

/-- What holds of every bit but the rows holds of all if it holds of the rows. -/
theorem forall_mem_bits_iff {P : Print × List (List Char) → Prop}
    (hbadge : P (badgeLine r.badge, [badgeText r.badge]))
    (hheading : ∀ kind size, P (heading kind size, [[], headingText kind size]))
    (hconclusion : P (conclusion r.page r.popup.total, conclusionLines r.page r.popup.total)) :
    (∀ bit ∈ r.bits, P bit)
      ↔ ∀ kind, ∀ e ∈ r.popup.entries kind, P (rowBit (r.popup.entries kind) e) := by
  have hgroup : ∀ kind, (∀ bit ∈ groupBits kind (r.popup.entries kind), P bit)
      ↔ ∀ e ∈ r.popup.entries kind, P (rowBit (r.popup.entries kind) e) := by
    intro kind
    unfold groupBits
    by_cases hnone : r.popup.entries kind = []
    · simp [hnone]
    · rw [if_neg hnone, List.forall_mem_cons, List.forall_mem_map,
        and_iff_right (hheading kind _)]
  rw [bits, List.cons_append, List.forall_mem_cons, List.forall_mem_append,
    List.forall_mem_singleton, List.forall_mem_flatMap, and_iff_right hbadge,
    and_iff_left hconclusion]
  simp only [hgroup]
  refine forall_congr' fun kind => imp_iff_right ?_
  cases kind with
  | html => decide
  | css => decide
  | js => decide

/-- What is printed at one go are whole lines. -/
theorem write_of_mem_bits : ∀ bit ∈ r.bits, write false bit.1.pieces = inLines bit.2 :=
  (forall_mem_bits_iff (write_badgeLine _) write_heading (write_conclusion _ _)).2
    fun _ e _ => write_row _ e

end ScanReport

/-- What is written of some bits are their lines. -/
theorem write_flatMap_pieces {bits : List (Print × List (List Char))}
    (h : ∀ bit ∈ bits, write false bit.1.pieces = inLines bit.2) :
    write false ((bits.map Prod.fst).flatMap (·.pieces)) = inLines (bits.flatMap Prod.snd) := by
  unfold inLines
  rw [List.flatMap_map, write, List.flatMap_assoc, List.flatMap_assoc]
  exact List.flatMap_congr h

/-- Without colours a report is its lines. -/
theorem layout_eq_inLines (r : ScanReport) : (r.layout false).toList = inLines r.lines := by
  rw [ScanReport.layout, String.toList_ofList, ← r.map_fst_bits, ← r.flatMap_snd_bits]
  exact write_flatMap_pieces ScanReport.write_of_mem_bits

-- ==================================================== complete reports

variable {r : ScanReport}

theorem isComplete_iff_forall_mem_bits :
    r.isComplete = true ↔ ∀ bit ∈ r.bits, bit.1.isPossible = true := by
  rw [ScanReport.isComplete, ← r.map_fst_bits, List.all_map, List.all_eq_true]
  rfl

theorem isComplete_iff :
    r.isComplete = true
      ↔ ∀ kind, ∀ e ∈ r.popup.entries kind,
        columnWidth (r.popup.entries kind) - Text.width (singleLine e.text.toList)
          ≤ maxPadding := by
  have hrows := ScanReport.forall_mem_bits_iff (r := r) (P := fun bit => bit.1.isPossible = true)
    rfl (fun _ _ => rfl) rfl
  rw [isComplete_iff_forall_mem_bits, hrows]
  exact forall_congr' fun kind => forall₂_congr fun e _ => decide_eq_true_iff

/-- A report that can be printed to its end is. -/
theorem text_of_isComplete (h : r.isComplete = true) (colour : Bool) :
    r.text colour = r.layout colour := by
  rw [ScanReport.text, ScanReport.layout, printed,
    List.takeWhile_eq_self_iff.2 (List.all_eq_true.1 h)]

theorem printed_append_cons {front more : List Print} {p : Print}
    (hfront : ∀ q ∈ front, q.isPossible = true) (hp : p.isPossible = false) :
    printed (front ++ p :: more) = front.flatMap (·.pieces) := by
  rw [printed, List.takeWhile_append_of_pos hfront,
    List.takeWhile_cons_of_neg (Bool.eq_false_iff.1 hp), List.append_nil]

/-- Only a row can stop a report. -/
theorem exists_rowBit_of_not_isPossible :
    ∀ bit ∈ r.bits, bit.1.isPossible = false →
      ∃ kind, ∃ e ∈ r.popup.entries kind, bit = rowBit (r.popup.entries kind) e :=
  (ScanReport.forall_mem_bits_iff nofun (fun _ _ => nofun) nofun).2
    fun kind e he _ => ⟨kind, e, he, rfl⟩

/-- One that cannot be printed to its end stops in front of a row. -/
theorem exists_bits_eq (h : r.isComplete = false) :
    ∃ front more kind, ∃ e ∈ r.popup.entries kind,
      r.bits = front ++ rowBit (r.popup.entries kind) e :: more
        ∧ (∀ bit ∈ front, bit.1.isPossible = true)
        ∧ (row (columnWidth (r.popup.entries kind)) e).isPossible = false := by
  have hstop : (r.bits.find? (!·.1.isPossible)).isSome := by
    rw [List.find?_isSome]
    by_contra hnone
    refine Bool.eq_false_iff.1 h (isComplete_iff_forall_mem_bits.2 fun bit hbit => ?_)
    by_contra hbit'
    exact hnone ⟨bit, hbit, by simpa using hbit'⟩
  obtain ⟨bit, hbit⟩ := Option.isSome_iff_exists.1 hstop
  obtain ⟨hbit, front, more, hbits, hfront⟩ := List.find?_eq_some_iff_append.1 hbit
  have himpossible : bit.1.isPossible = false := by simpa using hbit
  obtain ⟨kind, e, he, rfl⟩ := exists_rowBit_of_not_isPossible bit
    (hbits ▸ List.mem_append_right front List.mem_cons_self) himpossible
  exact ⟨front, more, kind, e, he, hbits, fun b hb => by simpa using hfront b hb, himpossible⟩

/-- The lines in front of that row are printed. -/
theorem exists_text_eq_take (h : r.isComplete = false) :
    ∃ k kind, ∃ e ∈ r.popup.entries kind,
      maxPadding
          < columnWidth (r.popup.entries kind) - Text.width (singleLine e.text.toList)
        ∧ r.lines[k]? = some (rowText (columnWidth (r.popup.entries kind)) e)
        ∧ (r.text false).toList = inLines (r.lines.take k) := by
  obtain ⟨front, more, kind, e, he, hbits, hfront, hrow⟩ := exists_bits_eq h
  have hlines : r.lines = front.flatMap Prod.snd
      ++ rowText (columnWidth (r.popup.entries kind)) e :: more.flatMap Prod.snd := by
    rw [← r.flatMap_snd_bits, hbits, List.flatMap_append, List.flatMap_cons]
    rfl
  have hprinted : printed r.prints = (front.map Prod.fst).flatMap (·.pieces) := by
    rw [← r.map_fst_bits, hbits, List.map_append, List.map_cons]
    exact printed_append_cons (List.forall_mem_map.2 hfront) hrow
  have hwritten : ∀ bit ∈ front, write false bit.1.pieces = inLines bit.2 := fun bit hbit =>
    ScanReport.write_of_mem_bits (r := r) bit (hbits ▸ List.mem_append_left _ hbit)
  refine ⟨(front.flatMap Prod.snd).length, kind, e, he, ?_, ?_, ?_⟩
  · exact Nat.not_le.1 (of_decide_eq_false hrow)
  · rw [hlines, List.getElem?_append_right le_rfl, Nat.sub_self]
    rfl
  · rw [ScanReport.text, String.toList_ofList, hprinted, write_flatMap_pieces hwritten, hlines,
      List.take_left]

/-- The lines can be read back from what is printed exactly if all of it is printed,
and there is no line feed in any of them. -/
theorem splitLines_text_iff :
    splitLines (r.text false).toList = r.lines ++ [[]]
      ↔ r.isComplete = true ∧ ∀ line ∈ r.lines, '\n' ∉ line := by
  cases hcomplete : r.isComplete with
  | true =>
      rw [text_of_isComplete hcomplete, layout_eq_inLines, splitLines_inLines_iff,
        and_iff_right rfl]
  | false =>
      refine iff_of_false (fun hsplit => ?_) nofun
      obtain ⟨k, kind, e, -, -, hline, htext⟩ := exists_text_eq_take hcomplete
      obtain ⟨hk, -⟩ := List.getElem?_eq_some_iff.1 hline
      -- no piece between line feeds has one in it
      have hlines : ∀ line ∈ r.lines, '\n' ∉ line := fun line hmem =>
        sep_notMem_of_mem_splitOnChar (s := (r.text false).toList)
          (show line ∈ splitLines (r.text false).toList from
            hsplit ▸ List.mem_append_left _ hmem)
      have hfirst : ∀ line ∈ r.lines.take k, '\n' ∉ line := fun line hmem =>
        hlines line (List.mem_of_mem_take hmem)
      rw [htext, splitLines_inLines_iff.2 hfirst] at hsplit
      have hlength := congrArg List.length hsplit
      rw [List.length_append, List.length_append, List.length_take] at hlength
      omega

-- ================================================= control characters

section

variable {c : Char} (hc : c.toNat < 32)

include hc

theorem notMem_of_printable {s : List Char} (hs : s.all (32 ≤ ·.toNat) = true) : c ∉ s := by
  intro h
  have hprintable := of_decide_eq_true (List.all_eq_true.1 hs c h)
  omega

theorem control_notMem_toString (n : Nat) : c ∉ (toString n).toList := by
  have hdigits : (toString n).toList = Nat.toDigits 10 n := by simp
  rw [hdigits]
  intro h
  have hdigit := Nat.isDigit_of_mem_toDigits (by decide) (by decide) h
  have hzero : '0'.toNat = 48 := rfl
  rw [Char.isDigit_iff_toNat] at hdigit
  omega

theorem mem_badgeText_iff (b : Badge) : c ∈ badgeText b ↔ c ∈ b.text.toList := by
  have hlead : c ∉ "badge: ".toList := notMem_of_printable hc (by decide)
  have hempty : c ∉ "(empty)".toList := notMem_of_printable hc (by decide)
  have hgap : c ∉ "  ".toList := notMem_of_printable hc (by decide)
  have hpath : c ∉ b.icon.path.toList := by
    apply notMem_of_printable hc
    cases b.icon with
    | commentsFound => decide
    | noneFound => decide
  unfold badgeText
  simp only [List.mem_append, hlead, hgap, hpath, false_or, or_false]
  by_cases htext : b.text = ""
  · rw [htext, if_pos rfl]
    exact iff_of_false hempty List.not_mem_nil
  · rw [if_neg htext]

theorem control_notMem_headingText (kind : Kind) (size : Nat) : c ∉ headingText kind size := by
  have hlabel : c ∉ kind.label.toList := by
    apply notMem_of_printable hc
    cases kind with
    | html => decide
    | css => decide
    | js => decide
  have hspace : c ∉ " ".toList := notMem_of_printable hc (by decide)
  have hopen : c ∉ "(".toList := notMem_of_printable hc (by decide)
  have hclose : c ∉ ")".toList := notMem_of_printable hc (by decide)
  have hsize : c ∉ (toString size).toList := control_notMem_toString hc size
  unfold headingText
  simp only [List.mem_append, String.toList_append, hlabel, hspace, hopen, hclose,
    hsize, or_self, not_false_eq_true]

/-- In a row such a character is in the text or in the origin. -/
theorem mem_rowText_iff (width : Nat) (e : PopupEntry) :
    c ∈ rowText width e ↔ c ∈ singleLine e.text.toList ∨ c ∈ e.origin.toList := by
  have hgap : c ∉ "  ".toList := notMem_of_printable hc (by decide)
  have hopen : c ∉ "(".toList := notMem_of_printable hc (by decide)
  have hclose : c ∉ ")".toList := notMem_of_printable hc (by decide)
  have hspaces : ∀ n, c ∉ spaces n := by
    intro n
    apply notMem_of_printable hc
    rw [List.all_eq_true]
    intro a ha
    rw [List.eq_of_mem_replicate ha]
    rfl
  unfold rowText cell
  simp only [List.mem_append, String.toList_append, hgap, hopen, hclose, hspaces,
    false_or, or_false]

theorem notMem_groupLines_iff (kind : Kind) (entries : List PopupEntry) :
    (∀ line ∈ groupLines kind entries, c ∉ line)
      ↔ ∀ e ∈ entries, c ∉ singleLine e.text.toList ∧ c ∉ e.origin.toList := by
  unfold groupLines
  by_cases hnone : entries = []
  · simp [hnone]
  · rw [if_neg hnone, List.forall_mem_cons, List.forall_mem_cons, List.forall_mem_map,
      and_iff_right List.not_mem_nil, and_iff_right (control_notMem_headingText hc _ _)]
    simp only [mem_rowText_iff hc, not_or]

theorem notMem_conclusionLines_iff (page : String) (total : Nat) :
    (∀ line ∈ conclusionLines page total, c ∉ line) ↔ c ∉ page.toList := by
  have htotal : c ∉ (toString total).toList := control_notMem_toString hc total
  have hword : ∀ {s : String}, s.toList.all (32 ≤ ·.toNat) = true → c ∉ s.toList :=
    notMem_of_printable hc
  unfold conclusionLines
  by_cases hnone : total = 0
  · rw [if_pos hnone, List.forall_mem_singleton, String.toList_append, List.mem_append,
      or_iff_right (hword (by decide))]
  · have hnoun : c ∉ (if total = 1 then " comment" else " comments").toList := by
      split
      · exact hword (by decide)
      · exact hword (by decide)
    rw [if_neg hnone, List.forall_mem_cons, and_iff_right List.not_mem_nil,
      List.forall_mem_singleton]
    have hfound : c ∉ "✘ Found ".toList := hword (by decide)
    have hin : c ∉ " in ".toList := hword (by decide)
    simp only [String.toList_append, List.mem_append, htotal, hnoun, hfound, hin, false_or]

/-- A control character comes into a report with a text that is reported. -/
theorem notMem_lines_iff (r : ScanReport) :
    (∀ line ∈ r.lines, c ∉ line)
      ↔ c ∉ r.badge.text.toList
        ∧ (∀ kind ∈ Kind.all, ∀ e ∈ r.popup.entries kind,
          c ∉ singleLine e.text.toList ∧ c ∉ e.origin.toList)
        ∧ c ∉ r.page.toList := by
  rw [ScanReport.lines, List.cons_append, List.forall_mem_cons, List.forall_mem_append,
    List.forall_mem_flatMap, mem_badgeText_iff hc, notMem_conclusionLines_iff hc]
  simp only [notMem_groupLines_iff hc]

end

-- ======================================================= line feeds

/-- A text on one line is on one line. -/
theorem newline_notMem_singleLine (s : List Char) : '\n' ∉ singleLine s := by
  unfold singleLine
  rw [joinWith_eq_intercalate, mem_intercalate_iff (by decide)]
  rintro ⟨piece, hpiece, hin⟩
  obtain ⟨line, hline, rfl⟩ := List.mem_map.1 (List.mem_of_mem_filter hpiece)
  exact sep_notMem_of_mem_splitOnChar hline ((trim_isInfix line).subset hin)

theorem newline_notMem_ofCount (n : Nat) : '\n' ∉ (Badge.ofCount n).text.toList := by
  unfold Badge.ofCount
  by_cases hn : 0 < n
  · rw [if_pos hn]
    exact control_notMem_toString (show '\n'.toNat < 32 by decide) n
  · rw [if_neg hn]
    exact List.not_mem_nil

/-- The one part of a report that can bring a line feed is an origin. -/
theorem newline_notMem_lines_iff {r : ScanReport} {n : Nat} (hbadge : r.badge = .ofCount n)
    (hpage : '\n' ∉ r.page.toList) :
    (∀ line ∈ r.lines, '\n' ∉ line)
      ↔ ∀ kind ∈ Kind.all, ∀ e ∈ r.popup.entries kind, '\n' ∉ e.origin.toList := by
  rw [notMem_lines_iff (by decide), hbadge, and_iff_right (newline_notMem_ofCount n),
    and_iff_left hpage]
  simp only [newline_notMem_singleLine, not_false_eq_true, true_and]

-- ============================================================ counting

/-- The number of lines for a group of a size. -/
def groupHeight (size : Nat) : Nat :=
  if size = 0 then 0 else size + 2

theorem length_groupLines (kind : Kind) (entries : List PopupEntry) :
    (groupLines kind entries).length = groupHeight entries.length := by
  unfold groupLines groupHeight
  by_cases hnone : entries = []
  · simp [hnone]
  · simp [hnone]

theorem length_lines (r : ScanReport) :
    r.lines.length
      = 1 + (Kind.all.map fun kind => groupHeight (r.popup.entries kind).length).sum
        + if r.popup.total = 0 then 1 else 2 := by
  have hconclusion : (conclusionLines r.page r.popup.total).length
      = if r.popup.total = 0 then 1 else 2 := by
    unfold conclusionLines
    split
    · rfl
    · rfl
  unfold ScanReport.lines
  rw [List.length_append, List.length_cons, List.length_flatMap, hconclusion]
  simp only [length_groupLines]
  omega

-- ============================================================= columns

/-- A column is as wide as the texts in it need, whatever width it starts
with. -/
theorem foldl_width_le_iff (lines : List (List Char)) (start n : Nat) :
    lines.foldl (fun m line => max m (Text.width line)) start ≤ n
      ↔ start ≤ n ∧ ∀ line ∈ lines, Text.width line ≤ n := by
  induction lines generalizing start with
  | nil => simp
  | cons line more ih => rw [List.foldl_cons, ih, Nat.max_le, List.forall_mem_cons, and_assoc]

theorem width_le_widest {lines : List (List Char)} {line : List Char} (h : line ∈ lines) :
    Text.width line ≤ widest lines :=
  ((foldl_width_le_iff lines 0 (widest lines)).1 le_rfl).2 line h

/-- No text is wider than its column, and each is filled up to it. -/
theorem width_cell {entries : List PopupEntry} {e : PopupEntry} (he : e ∈ entries) :
    Text.width (singleLine e.text.toList) ≤ columnWidth entries
      ∧ Text.width (cell (columnWidth entries) e) = columnWidth entries := by
  have hle : Text.width (singleLine e.text.toList) ≤ columnWidth entries :=
    width_le_widest (List.mem_map_of_mem he)
  refine ⟨hle, ?_⟩
  unfold cell spaces
  rw [width_append_spaces]
  omega

-- =============================================================== main

/-- The report on a visit is, without colours, the text of its lines: how many
there are depends on the sizes of the groups alone, and the texts of a group
are filled up to one width. It is printed to its end exactly if no text takes more
filling up than can be done at one go; otherwise the lines in front of such a row are
printed, and that is all. The lines can be read back exactly if all of it is
printed, and no comment that was found has a line feed in its origin, or in its
text behind a separator. -/
theorem report_lines_exact (url : Url) (fetch : Fetcher) (o : Options)
    (page body : String) (hbody : fetch url.text = .ok body) (hpage : '\n' ∉ page.toList) :
    let found := (Page.ofHtml body (some url)).scan fetch o
    ∃ session, Session.visit url fetch o = .ok session ∧
      let popup := session.popup
      let report : ScanReport := ⟨page, session.badge, popup⟩
      let padding := fun kind e =>
        columnWidth (popup.entries kind) - Text.width (singleLine e.text.toList)
      (report.layout false).toList = inLines report.lines
        ∧ (report.isComplete = true ↔ ∀ kind, ∀ e ∈ popup.entries kind, padding kind e ≤ 65535)
        ∧ (report.isComplete = true → report.text false = report.layout false)
        ∧ (report.isComplete = false → ∃ k kind, ∃ e ∈ popup.entries kind,
            65535 < padding kind e
              ∧ report.lines[k]? = some (rowText (columnWidth (popup.entries kind)) e)
              ∧ (report.text false).toList = inLines (report.lines.take k))
        ∧ (splitLines (report.text false).toList = report.lines ++ [[]]
          ↔ report.isComplete = true
            ∧ ∀ c ∈ found, '\n' ∉ c.origin.toList
              ∧ ∀ head tail,
                splitFirst Comment.originSeparator.toList c.text.toList = some (head, tail) →
                  '\n' ∉ tail)
        ∧ report.lines.length
          = 1 + (Kind.all.map fun kind => groupHeight (popup.entries kind).length).sum
            + (if popup.total = 0 then 1 else 2)
        ∧ ∀ kind, ∀ e ∈ popup.entries kind,
          Text.width (singleLine e.text.toList) ≤ columnWidth (popup.entries kind)
            ∧ Text.width (cell (columnWidth (popup.entries kind)) e)
              = columnWidth (popup.entries kind) := by
  intro found
  have hvisit := Session.visit_eq url fetch o
  rw [hbody] at hvisit
  refine ⟨_, hvisit, layout_eq_inLines _, isComplete_iff, fun h => text_of_isComplete h false,
    exists_text_eq_take, ?_, length_lines _, fun kind e he => width_cell he⟩
  rw [splitLines_text_iff, newline_notMem_lines_iff rfl hpage, Popup.ofWire_encode,
    Popup.forall_entries_ofComments, List.forall_mem_map]
  refine and_congr_right fun _ => ?_
  show (∀ c ∈ found, _) ↔ _
  refine forall₂_congr fun c _ => ?_
  rw [Comment.mem_origin_reread_iff c (by decide), not_or]
  simp only [not_exists, not_and]

/-- A directory with a page on it. -/
def pageOnly (html : String) : Command.Environment :=
  { tree := { entries := [(["index.html"], .file (.text html))] }
    current := []
    network := fun _ _ => .ok ⟨404, .ok "Not Found"⟩
    colour := false }

/-- Two comments of different widths, one of them on two lines on the page, are
reported on a line each: the text behind the separator of the first has no line
feed, and what ends the second is not a whole separator. -/
theorem report_lines_exact_separator :
    let env := pageOnly "<!--日本\n語 | Source: a--><!--b | Source:-->"
    let url := Url.ofFilePath ["index.html"]
    let fetch := Local.fetch env.tree (env.network Config.standard.userAgent)
    let body := "<!--日本\n語 | Source: a--><!--b | Source:-->"
    let o : Options := ⟨Kind.all, true, []⟩
    fetch url.text = .ok body ∧ '\n' ∉ "index.html".toList
      ∧ ∃ session, Session.visit url fetch o = .ok session
        ∧ (⟨"index.html", session.badge, session.popup⟩ : ScanReport).isComplete = true
        ∧ splitLines ((⟨"index.html", session.badge, session.popup⟩ : ScanReport).text
            false).toList
          = (⟨"index.html", session.badge, session.popup⟩ : ScanReport).lines ++ [[]] := by
  intro env url fetch body o
  have hbody : fetch url.text = .ok body := eq_ok_of_toOption (by decide +kernel)
  have hpage : '\n' ∉ "index.html".toList := by decide
  obtain ⟨session, hvisit, -, -, -, -, hlines, -⟩ :=
    report_lines_exact url fetch o "index.html" body hbody hpage
  have hcomplete :
      (⟨"index.html", session.badge, session.popup⟩ : ScanReport).isComplete = true := by
    have hsession : (Session.visit url fetch o).toOption.map (fun session =>
        (⟨"index.html", session.badge, session.popup⟩ : ScanReport).isComplete) = some true := by
      decide +kernel
    rw [hvisit] at hsession
    exact Option.some.inj hsession
  have hfound : (Page.ofHtml body (some url)).scan fetch o
      = [⟨.html, "日本\n語 | Source: a", "Document"⟩, ⟨.html, "b | Source:", "Document"⟩] := by
    decide +kernel
  refine ⟨hbody, hpage, session, hvisit, hcomplete, hlines.2 ⟨hcomplete, ?_⟩⟩
  rw [hfound, List.forall_mem_cons, List.forall_mem_singleton]
  refine ⟨⟨by decide, fun head tail hcut => ?_⟩, by decide, fun head tail hcut => ?_⟩
  · have htail : splitFirst Comment.originSeparator.toList "日本\n語 | Source: a".toList
        = some ("日本\n語".toList, "a".toList) := by decide
    rw [htail] at hcut
    cases hcut
    decide
  · have hnone : splitFirst Comment.originSeparator.toList "b | Source:".toList = none := by
      decide
    rw [hnone] at hcut
    cases hcut

/-- A comment on two lines with a separator on the first of them is reported on
two lines. -/
theorem origin_on_two_lines :
    (Command.run (pageOnly "<!--a | Source: b\nc-->")
        (some (.scan { page := "index.html" }))).stdout
        = "badge: 1  /assets/images/comments_found.png\n\nHTML (1)\n"
          ++ "  a  (b\nc | Source: Document)\n\n✘ Found 1 comment in index.html\n"
      ∧ ¬ ∀ (url : Url) (fetch : Fetcher) (o : Options) (page : String) (session : Session),
          Session.visit url fetch o = .ok session → '\n' ∉ page.toList →
            splitLines ((⟨page, session.badge, session.popup⟩ : ScanReport).text false).toList
              = (⟨page, session.badge, session.popup⟩ : ScanReport).lines ++ [[]] := by
  refine ⟨by decide +kernel, fun h => ?_⟩
  let url := Url.ofFilePath ["index.html"]
  let env := pageOnly "<!--a | Source: b\nc-->"
  let session : Session :=
    ⟨.ofCount 1, ⟨[⟨"a", "b\nc | Source: Document"⟩], [], []⟩, [url.text]⟩
  have hvisit : Session.visit url
      (Local.fetch env.tree (env.network Config.standard.userAgent)) ⟨Kind.all, true, []⟩
        = .ok session :=
    eq_ok_of_toOption (by decide +kernel)
  have hlines := h _ _ _ "index.html" session hvisit (by decide)
  exact absurd hlines (by decide +kernel)

end Report

end Marginalia
