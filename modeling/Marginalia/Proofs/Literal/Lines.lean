/-
Literals and lines. A quoted literal holds a line feed only where a backslash
escapes it, so no literal reaches past the end of a line that ends in
anything else, however many of its marks stand on the line without a partner.
A pass over such lines is a pass over each of them (`pass_append_newline`).

# The second pass

The second pass runs on what the first has left, and it needs the same of its
lines. It has it: a pass adds no character that was not there
(`mem_of_mem_pass`) and keeps the last character of a text, a mark being left
of a literal at both ends (`getLast?_pass`). The third pass has nothing to do
where there are no backticks.
-/
import Marginalia.Proofs.Extract.Cleaned
import Marginalia.Proofs.Literal.Leak

namespace Marginalia.Literal

open Extract Text

variable {q : Quote} {c : Char} {s t : List Char}

-- ================================================== what a pass keeps

/-- A pass only leaves characters out. -/
theorem mem_of_mem_pass (h : c ∈ pass q s) : c ∈ s := by
  induction s using pass_induction (q := q) with
  | nil =>
      rw [pass_nil] at h
      exact h
  | other d s hd ih =>
      rw [pass_cons hd] at h
      rcases List.mem_cons.1 h with rfl | h
      · exact List.mem_cons_self
      · exact List.mem_cons_of_mem d (ih h)
  | literal y rest hy ih =>
      rw [pass_literal hy] at h
      rcases List.mem_cons.1 h with rfl | h
      · exact List.mem_cons_self
      · rcases List.mem_cons.1 h with rfl | h
        · exact List.mem_cons_self
        · simp [ih h]
  | unclosed s hs ih =>
      rw [pass_unclosed hs] at h
      rcases List.mem_cons.1 h with rfl | h
      · exact List.mem_cons_self
      · exact List.mem_cons_of_mem q.mark (ih h)

/-- A text and its pass end in the same character. -/
theorem getLast?_pass (q : Quote) (s : List Char) :
    (pass q s).getLast? = s.getLast? := by
  induction s using pass_induction (q := q) with
  | nil => rw [pass_nil]
  | other d s hd ih => rw [pass_cons hd, List.getLast?_cons, List.getLast?_cons, ih]
  | literal y rest hy ih =>
      rw [pass_literal hy, ← List.cons_append, List.getLast?_append, List.getLast?_cons,
        List.getLast?_cons, List.getLast?_cons (l := rest), ih]
      simp
  | unclosed s hs ih => rw [pass_unclosed hs, List.getLast?_cons, List.getLast?_cons, ih]

-- ================================================ the end of a line

/-- In the body of a quoted literal a line feed is always escaped. -/
theorem Body.pending_newline (hq : q.delimiter.spansLines = false)
    (h : Body q (s ++ '\n' :: t)) : Literal.pending false s = true := by
  cases hs : Literal.pending false s with
  | true => rfl
  | false =>
      have hrest := h.of_append hs
      generalize hb : '\n' :: t = b at hrest
      cases hrest with
      | nil => cases hb
      | escape d _ => exact absurd (List.cons.inj hb).1 (by decide)
      | plain _ _ hline _ =>
          rw [hline (List.cons.inj hb).1.symm] at hq
          cases hq

/-- A mark without a partner on its line has none behind the line. -/
theorem Unclosed.append_newline (hq : q.delimiter.spansLines = false)
    (hlast : s.getLast? ≠ some '\\') (h : Unclosed q s) (t : List Char) :
    Unclosed q (s ++ '\n' :: t) := by
  intro y rest hy hcut
  rcases List.append_eq_append_iff.1 hcut with ⟨u, rfl, hu⟩ | ⟨u, rfl, hu⟩
  · -- the body would reach the line feed, which nothing escapes
    cases u with
    | nil => exact q.mark_ne_newline (List.cons.inj hu).1.symm
    | cons d u =>
        obtain ⟨rfl, -⟩ := List.cons.inj hu
        exact hlast (getLast?_of_pending (hy.pending_newline hq))
  · -- the partner would be on the line, or be the line feed
    cases u with
    | nil => exact q.mark_ne_newline (List.cons.inj hu).1
    | cons d u =>
        obtain ⟨rfl, -⟩ := List.cons.inj hu
        exact h y u hy rfl

/-- The end of a line is the end of each text behind which it ends. -/
theorem getLast?_ne_of_append {u : List Char} (h : (u ++ s).getLast? ≠ some c) :
    s.getLast? ≠ some c := by
  intro hs
  rw [List.getLast?_append, hs] at h
  exact h rfl

theorem leaks_newline (hq : q.delimiter.spansLines = false)
    (hlast : s.getLast? ≠ some '\\') (t : List Char) : leaks q ('\n' :: t) s = false := by
  induction s using pass_induction (q := q) with
  | nil => exact leaks_nil q _
  | other d s hd ih =>
      rw [leaks_cons hd]
      exact ih (getLast?_ne_of_append (u := [d]) hlast)
  | literal y rest hy ih =>
      rw [leaks_literal hy]
      apply ih
      apply getLast?_ne_of_append (u := q.mark :: y ++ [q.mark])
      rwa [List.append_assoc]
  | unclosed s hs ih =>
      have hlast := getLast?_ne_of_append (u := [q.mark]) hlast
      exact (leaks_unclosed hs).2 ⟨hs.append_newline hq hlast t, ih hlast⟩

theorem pass_append_newline (hq : q.delimiter.spansLines = false)
    (hlast : s.getLast? ≠ some '\\') (t : List Char) :
    pass q (s ++ '\n' :: t) = pass q s ++ '\n' :: pass q t := by
  rw [pass_append (leaks_newline hq hlast t), pass_cons (Ne.symm q.mark_ne_newline)]

-- ============================================================ elision

/-- Without backticks there are two passes. -/
theorem elideStrings_of_notMem (h : Quote.template.mark ∉ s) :
    elideStrings s = pass .double (pass .single s) := by
  rw [elideStrings_eq_passes]
  apply pass_of_notMem
  intro hmem
  exact h (mem_of_mem_pass (mem_of_mem_pass hmem))

theorem mem_of_mem_elideStrings (h : c ∈ elideStrings s) : c ∈ s := by
  rw [elideStrings_eq_passes] at h
  exact mem_of_mem_pass (mem_of_mem_pass (mem_of_mem_pass h))

theorem elideStrings_append_newline (hs : Quote.template.mark ∉ s)
    (ht : Quote.template.mark ∉ t) (hlast : s.getLast? ≠ some '\\') :
    elideStrings (s ++ '\n' :: t) = elideStrings s ++ '\n' :: elideStrings t := by
  have hboth : Quote.template.mark ∉ s ++ '\n' :: t := by
    rw [List.mem_append, List.mem_cons]
    rintro (h | h | h)
    · exact hs h
    · exact Quote.template.mark_ne_newline h
    · exact ht h
  rw [elideStrings_of_notMem hboth, elideStrings_of_notMem hs, elideStrings_of_notMem ht,
    pass_append_newline rfl hlast, pass_append_newline rfl]
  rwa [getLast?_pass]

/-- Lines without backticks that do not end in a backslash are elided each by
itself. -/
theorem elideStrings_intercalate {lines : List (List Char)}
    (hticks : ∀ line ∈ lines, Quote.template.mark ∉ line)
    (hends : ∀ line ∈ lines, line.getLast? ≠ some '\\') :
    elideStrings (['\n'].intercalate lines)
      = ['\n'].intercalate (lines.map elideStrings) := by
  induction lines with
  | nil => cbv
  | cons line more ih =>
      cases more with
      | nil => rw [List.map_singleton, List.intercalate_singleton, List.intercalate_singleton]
      | cons second more =>
          obtain ⟨hline, hmore⟩ := List.forall_mem_cons.1 hticks
          obtain ⟨hend, hends⟩ := List.forall_mem_cons.1 hends
          have hrest : Quote.template.mark ∉ ['\n'].intercalate (second :: more) := by
            rw [mem_intercalate_iff Quote.template.mark_ne_newline]
            rintro ⟨piece, hpiece, hin⟩
            exact hmore piece hpiece hin
          have ih := ih hmore hends
          rw [List.map_cons] at ih
          rw [List.intercalate_cons_cons, List.append_assoc, List.singleton_append,
            elideStrings_append_newline hline hrest hend, ih, List.map_cons, List.map_cons,
            List.intercalate_cons_cons, List.append_assoc, List.singleton_append]

-- ====================================================== line comments

/-- A line by itself has at most one line comment. -/
theorem lineComments_of_notMem (h : '\n' ∉ s) :
    lineComments s = ((splitFirst lineOpen s).map fun cut => lineOpen ++ cut.2).toList := by
  rw [lineComments, splitLines, splitOnChar_eq_splitOn, List.splitOn_eq_singleton h,
    List.filterMap_cons]
  cases splitFirst lineOpen s with
  | none => rfl
  | some cut => rfl

theorem lineComments_intercalate {lines : List (List Char)}
    (h : ∀ line ∈ lines, '\n' ∉ line) :
    lineComments (['\n'].intercalate lines) = lines.flatMap lineComments := by
  by_cases hnil : lines = []
  · rw [hnil]
    rfl
  · rw [lineComments, splitLines, splitOnChar_eq_splitOn,
      List.splitOn_intercalate _ h hnil, List.filterMap_eq_flatMap_toList]
    exact List.flatMap_congr fun line hline => (lineComments_of_notMem (h line hline)).symm

/-- The spans of a script that run to the end of their line. -/
def lineSpans (source origin : String) : List Span :=
  (Span.ofText .js source origin).filter fun s => lineOpen <+: s.raw.toList

theorem lineSpans_eq (source origin : String) :
    lineSpans source origin
      = (lineComments (elideStrings source.toList)).map
          fun raw => ⟨.js, String.ofList raw, origin⟩ := by
  unfold lineSpans Span.ofText jsComments
  rw [List.map_append, List.filter_append]
  have hlines : ∀ raw ∈ lineComments (elideStrings source.toList),
      lineOpen <+: (String.ofList raw).toList := by
    intro raw hraw
    obtain ⟨body, rfl, -⟩ := exists_body_of_mem_lineComments hraw
    rw [String.toList_ofList]
    exact List.prefix_append lineOpen body
  have hblocks : ∀ raw ∈ cssComments (elideStrings source.toList),
      ¬ lineOpen <+: (String.ofList raw).toList := by
    intro raw hraw
    obtain ⟨body, rfl, -⟩ := exists_body_of_mem_cssComments hraw
    rw [String.toList_ofList]
    exact not_lineOpen_prefix_blockAround body
  rw [List.filter_eq_self.2, List.filter_eq_nil_iff.2, List.append_nil]
  · intro span hspan
    obtain ⟨raw, hraw, rfl⟩ := List.mem_map.1 hspan
    simpa using hblocks raw hraw
  · intro span hspan
    obtain ⟨raw, hraw, rfl⟩ := List.mem_map.1 hspan
    simpa using hlines raw hraw

-- =============================================================== main

/-- Lines without backticks that do not end in a backslash know nothing of
each other: the literals that are emptied in all of them together are those
of the single lines, and so the comments that run to the end of a line are
those of the single lines, whatever quotes are left open. -/
theorem lines_elided_apart (lines : List String) (origin : String)
    (hlines : ∀ line ∈ lines, '\n' ∉ line.toList ∧ '\x60' ∉ line.toList
      ∧ line.toList.getLast? ≠ some '\\') :
    let source := "\n".intercalate lines
    elideStrings source.toList
        = ['\n'].intercalate (lines.map fun line => elideStrings line.toList)
      ∧ lineSpans source origin = lines.flatMap fun line => lineSpans line origin := by
  intro source
  have hsource : source.toList = ['\n'].intercalate (lines.map String.toList) :=
    String.toList_intercalate
  have helided : elideStrings source.toList
      = ['\n'].intercalate (lines.map fun line => elideStrings line.toList) := by
    rw [hsource, elideStrings_intercalate, List.map_map]
    · rfl
    · rw [List.forall_mem_map]
      intro line hline
      exact (hlines line hline).2.1
    · rw [List.forall_mem_map]
      intro line hline
      exact (hlines line hline).2.2
  refine ⟨helided, ?_⟩
  have hnewlines : ∀ line ∈ lines.map fun line => elideStrings line.toList, '\n' ∉ line := by
    rw [List.forall_mem_map]
    intro line hline hmem
    exact (hlines line hline).1 (mem_of_mem_elideStrings hmem)
  rw [lineSpans_eq, helided, lineComments_intercalate hnewlines, List.flatMap_map,
    List.map_flatMap]
  exact List.flatMap_congr fun line _ => (lineSpans_eq line origin).symm

/-- An apostrophe in a comment, one in a string and a quote that is never
closed leave the other lines as they are. -/
theorem lines_elided_apart_apostrophes :
    let lines := ["// don't touch", "a = 'b'; // it's \"old", "s = \"'\"; t = '//';"]
    (∀ line ∈ lines, '\n' ∉ line.toList ∧ '\x60' ∉ line.toList
        ∧ line.toList.getLast? ≠ some '\\')
      ∧ lineSpans ("\n".intercalate lines) "app.js"
          = [⟨.js, "// don't touch", "app.js"⟩, ⟨.js, "// it's \"old", "app.js"⟩,
            ⟨.js, "//';", "app.js"⟩] := by
  intro lines
  have hlines : ∀ line ∈ lines, '\n' ∉ line.toList ∧ '\x60' ∉ line.toList
      ∧ line.toList.getLast? ≠ some '\\' := by decide +kernel
  refine ⟨hlines, ?_⟩
  rw [(lines_elided_apart lines "app.js" hlines).2]
  decide +kernel

end Marginalia.Literal
