/-
Where the comments of a script stand. The two cuts of a script, into lines
and into block comments, give every span a place in the text (`Region`).
Spans of one sort never overlap, since they are parts of one cut; spans of
different sorts may, since the two cuts know nothing of each other.

# When they do

A line comment and a block comment overlap exactly when a pair of slashes
begins before the block comment's end, with no line feed between it and
the block comment's start (`Region.Slashed`): in front of the block
comment on the line where that begins, inside of it, or in its last
character together with the one after it. Whatever pair of slashes it is,
the line it stands on has a line comment around it (`exists_region`), and
only a line feed could keep that comment away from the block.

Everything about positions goes through the characters at single
positions (`mem_slice_iff`), so that what is left is arithmetic.
-/
import Marginalia.Proofs.Extract.Script

namespace Marginalia.Extract

open Text

-- ============================================================ regions

/-- A stretch of a text by its positions, without the last one. -/
structure Region where
  start : Nat
  stop : Nat
deriving DecidableEq, Repr

namespace Region

/-- Two regions do not overlap. -/
def Apart (a b : Region) : Prop :=
  a.stop ≤ b.start ∨ b.stop ≤ a.start

instance (a b : Region) : Decidable (a.Apart b) :=
  inferInstanceAs (Decidable (_ ∨ _))

/-- What stands in a region. -/
def slice (r : Region) (s : List Char) : List Char :=
  s.extract r.start r.stop

/-- A pair of slashes begins before the end of the region, and unless it is
inside no line feed stands between it and the region. -/
def Slashed (r : Region) (s : List Char) : Prop :=
  ∃ q < r.stop, lineOpen <+: s.drop q ∧ '\n' ∉ (Region.mk q r.start).slice s

theorem mem_slice_iff {r : Region} {s : List Char} {c : Char} :
    c ∈ r.slice s ↔ ∃ j, r.start ≤ j ∧ j < r.stop ∧ s[j]? = some c := by
  rw [slice, List.extract_eq_take_drop, List.mem_iff_getElem?]
  simp only [List.getElem?_take, List.getElem?_drop]
  constructor
  · rintro ⟨i, hi⟩
    split at hi
    · exact ⟨r.start + i, by omega, by omega, hi⟩
    · cases hi
  · rintro ⟨j, hstart, hstop, hj⟩
    refine ⟨j - r.start, ?_⟩
    rw [if_pos (by omega), Nat.add_sub_cancel' hstart]
    exact hj

/-- A text around one of its regions. -/
theorem take_append_slice_append_drop {r : Region} (h : r.start ≤ r.stop) (s : List Char) :
    s.take r.start ++ (r.slice s ++ s.drop r.stop) = s := by
  have hdrop : s.drop r.stop = (s.drop r.start).drop (r.stop - r.start) := by
    rw [List.drop_drop, Nat.add_sub_cancel' h]
  rw [slice, List.extract_eq_take_drop, hdrop, List.take_append_drop, List.take_append_drop]

end Region

variable {s tail : List Char} {i q : Nat}

-- ==================================================== block comments

namespace BlockCut

/-- The places of the comments, in a text of which the cut is the part from
a position on. -/
def regionsFrom (i : Nat) : BlockCut → List Region
  | last _ _ => []
  | comment gap body _ _ rest =>
    let start := i + gap.length
    let stop := start + (blockAround body).length
    ⟨start, stop⟩ :: rest.regionsFrom stop

/-- The places of the comments. -/
def regions (cut : BlockCut) : List Region :=
  cut.regionsFrom 0

theorem le_start_of_mem (cut : BlockCut) :
    ∀ r ∈ cut.regionsFrom i, i ≤ r.start ∧ r.start < r.stop := by
  induction cut generalizing i with
  | last gap _ => simp [regionsFrom]
  | comment gap body _ _ rest ih =>
      rw [regionsFrom, List.forall_mem_cons]
      have hlength : 0 < (blockAround body).length := by simp [blockAround, blockOpen]
      refine ⟨⟨Nat.le_add_right _ _, Nat.lt_add_of_pos_right hlength⟩, fun r hr => ?_⟩
      obtain ⟨hstart, hstop⟩ := ih r hr
      exact ⟨by omega, hstop⟩

/-- Each comment ends before the next one begins. -/
theorem pairwise_regionsFrom (cut : BlockCut) :
    (cut.regionsFrom i).Pairwise Region.Apart := by
  induction cut generalizing i with
  | last gap _ => exact List.Pairwise.nil
  | comment gap body _ _ rest ih =>
      exact List.Pairwise.cons (fun r hr => Or.inl (rest.le_start_of_mem r hr).1) ih

theorem slice_regionsFrom (cut : BlockCut) (h : s.drop i = cut.text) :
    (cut.regionsFrom i).map (·.slice s) = cut.bodies.map blockAround := by
  induction cut generalizing i with
  | last gap _ => rfl
  | comment gap body _ _ rest ih =>
      have hstart : s.drop (i + gap.length) = blockAround body ++ rest.text := by
        rw [← List.drop_drop, h, text, List.append_assoc, List.drop_left]
      have hrest : s.drop (i + gap.length + (blockAround body).length) = rest.text := by
        rw [← List.drop_drop, hstart, List.drop_left]
      rw [regionsFrom, bodies, List.map_cons, List.map_cons, ih hrest, Region.slice,
        List.extract_eq_take_drop, hstart, Nat.add_sub_cancel_left, List.take_left]

theorem exists_body_of_mem (cut : BlockCut) {r : Region} (hr : r ∈ cut.regions) :
    ∃ body, r.slice cut.text = blockAround body := by
  have hslice : r.slice cut.text ∈ cut.bodies.map blockAround := by
    rw [← cut.slice_regionsFrom (i := 0) rfl]
    exact List.mem_map_of_mem hr
  obtain ⟨body, -, hbody⟩ := List.mem_map.1 hslice
  exact ⟨body, hbody.symm⟩

/-- A comment begins with a slash. -/
theorem slash_of_mem (cut : BlockCut) {r : Region} (hr : r ∈ cut.regions) :
    cut.text[r.start]? = some '/' := by
  obtain ⟨body, hbody⟩ := cut.exists_body_of_mem hr
  have hhead : (r.slice cut.text)[0]? = some '/' := by rw [hbody]; rfl
  rw [Region.slice, List.extract_eq_take_drop, List.getElem?_take] at hhead
  split at hhead
  · simpa using hhead
  · cases hhead

/-- A comment ends with a slash. -/
theorem getLast?_slice_of_mem (cut : BlockCut) {r : Region} (hr : r ∈ cut.regions) :
    (r.slice cut.text).getLast? = some '/' := by
  obtain ⟨body, hbody⟩ := cut.exists_body_of_mem hr
  rw [hbody, blockAround, blockClose, List.getLast?_append]
  rfl

end BlockCut

-- ===================================================== line comments

/-- A region that holds the comment at the end of a line: it begins with two
slashes, and the first line feed from there on stands behind it. -/
structure EndsLine (s : List Char) (l : Region) : Prop where
  nonempty : l.start < l.stop
  opens : lineOpen <+: s.drop l.start
  oneLine : '\n' ∉ l.slice s
  ends : ∀ c, s[l.stop]? = some c → c = '\n'

/-- What follows a line is nothing or begins with a line feed. -/
def AfterLine (tail : List Char) : Prop :=
  ∀ c, tail.head? = some c → c = '\n'

/-- A pair of slashes does not reach over the end of a line. -/
theorem lineOpen_prefix_of_append {u : List Char} (htail : AfterLine tail)
    (h : lineOpen <+: u ++ tail) : lineOpen <+: u := by
  obtain ⟨rest, hrest⟩ := h
  rcases u with - | ⟨c, - | ⟨d, u⟩⟩
  · have htext : tail = '/' :: '/' :: rest := hrest.symm
    rw [htext] at htail
    exact absurd (htail '/' rfl) (by decide)
  · have htext : tail = '/' :: rest := (List.cons.inj hrest).2.symm
    rw [htext] at htail
    exact absurd (htail '/' rfl) (by decide)
  · simp only [lineOpen, List.cons_append, List.nil_append, List.cons.injEq] at hrest
    obtain ⟨rfl, rfl, -⟩ := hrest
    exact ⟨u, rfl⟩

namespace ScriptLine

/-- The place of the comment of a line that begins at a position. -/
def region? (i : Nat) : ScriptLine → Option Region
  | plain _ _ _ => none
  | marked code body _ _ => some ⟨i + code.length, i + (code ++ lineOpen ++ body).length⟩

variable {line : ScriptLine} {l : Region}

theorem bounds_of_region? (hl : line.region? i = some l) :
    i ≤ l.start ∧ l.start < l.stop ∧ l.stop = i + line.text.length := by
  cases line with
  | plain code _ _ => cases hl
  | marked code body _ _ =>
      injection hl with hl
      subst hl
      refine ⟨Nat.le_add_right _ _, Nat.add_lt_add_left ?_ i, rfl⟩
      rw [List.length_append, List.length_append]
      exact Nat.lt_add_right _ (Nat.lt_add_of_pos_right Nat.two_pos)

theorem slice_region? (line : ScriptLine) (h : s.drop i = line.text ++ tail) :
    (line.region? i).map (·.slice s) = line.body?.map (lineOpen ++ ·) := by
  cases line with
  | plain code _ _ => rfl
  | marked code body _ _ =>
      have hstart : s.drop (i + code.length) = lineOpen ++ body ++ tail := by
        rw [← List.drop_drop, h, text, List.append_assoc, List.append_assoc,
          List.drop_left, List.append_assoc]
      have hlength : i + (code ++ lineOpen ++ body).length - (i + code.length)
          = (lineOpen ++ body).length := by
        simp only [List.length_append]
        omega
      rw [region?, body?, Option.map_some, Option.map_some, Region.slice,
        List.extract_eq_take_drop, hstart, hlength, List.take_left]

theorem endsLine_of_region? (h : s.drop i = line.text ++ tail) (htail : AfterLine tail)
    (hl : line.region? i = some l) : EndsLine s l := by
  obtain ⟨-, hnonempty, hstop⟩ := bounds_of_region? hl
  have hslice := line.slice_region? h
  have hnewline := line.newline_notMem_text
  rw [hl, Option.map_some] at hslice
  cases line with
  | plain code _ _ => cases hl
  | marked code body _ _ =>
      have hslice : l.slice s = lineOpen ++ body := Option.some.inj hslice
      injection hl with hl
      refine ⟨hnonempty, ?_, ?_, fun c hc => htail c ?_⟩
      · rw [← hl, ← List.drop_drop, h, text, List.append_assoc, List.append_assoc,
          List.drop_left]
        exact List.prefix_append _ _
      · rw [hslice]
        rw [text, List.append_assoc, List.mem_append, not_or] at hnewline
        exact hnewline.2
      · rw [hstop, ← List.getElem?_drop, h, List.getElem?_append_right le_rfl,
          Nat.sub_self] at hc
        rw [List.head?_eq_getElem?]
        exact hc

/-- A pair of slashes that begins on a line stands in the comment of the
line. -/
theorem exists_region? (h : s.drop i = line.text ++ tail) (htail : AfterLine tail)
    (hi : i ≤ q) (hq : q ≤ i + line.text.length) (hpair : lineOpen <+: s.drop q) :
    ∃ l, line.region? i = some l ∧ l.start ≤ q ∧ q < l.stop := by
  obtain ⟨k, rfl⟩ := Nat.exists_eq_add_of_le hi
  have hpair : lineOpen <+: line.text.drop k := by
    rw [← List.drop_drop, h, List.drop_append_of_le_length (by omega)] at hpair
    exact lineOpen_prefix_of_append htail hpair
  have hlength := hpair.length_le
  rw [List.length_drop] at hlength
  cases line with
  | plain code _ hcode =>
      exact absurd (hpair.isInfix.trans (List.drop_suffix k code).isInfix) hcode
  | marked code body _ hfirst =>
      refine ⟨_, rfl, Nat.add_le_add_left ?_ i, Nat.add_lt_add_left ?_ i⟩
      · -- otherwise the pair begins in the code, and the comment would begin there
        by_contra hlate
        have hcut : (code ++ ['/']).drop k <+: (code ++ lineOpen ++ body).drop k := by
          rw [List.append_assoc, List.drop_append_of_le_length (by omega),
            List.drop_append_of_le_length (by omega)]
          exact (List.prefix_append_right_inj _).2 ⟨'/' :: body, rfl⟩
        have hshort : lineOpen <+: (code ++ ['/']).drop k := by
          refine List.prefix_of_prefix_length_le hpair hcut ?_
          rw [List.length_drop, List.length_append, List.length_singleton]
          show 2 ≤ _
          omega
        exact hfirst (hshort.isInfix.trans (List.drop_suffix k _).isInfix)
      · have hlength : 2 ≤ (code ++ lineOpen ++ body).length - k := hlength
        omega

end ScriptLine

namespace LineCut

/-- The places of the comments of some lines, the first of which begins at a
position. -/
def regionsFrom (i : Nat) : List ScriptLine → List Region
  | [] => []
  | line :: more => (line.region? i).toList ++ regionsFrom (i + line.text.length + 1) more

/-- The places of the comments. -/
def regions (cut : LineCut) : List Region :=
  regionsFrom 0 cut.lines

variable {line : ScriptLine} {more : List ScriptLine}

/-- What follows the first of some lines. -/
theorem exists_tail (h : s.drop i = ['\n'].intercalate ((line :: more).map ScriptLine.text)) :
    ∃ tail, s.drop i = line.text ++ tail ∧ AfterLine tail
      ∧ s.drop (i + line.text.length + 1) = ['\n'].intercalate (more.map ScriptLine.text) := by
  cases more with
  | nil =>
      rw [List.map_singleton, List.intercalate_singleton] at h
      refine ⟨[], by rw [h, List.append_nil], nofun, ?_⟩
      rw [Nat.add_assoc, ← List.drop_drop, h, List.drop_eq_nil_of_le (Nat.le_succ _)]
      rfl
  | cons second more =>
      rw [List.map_cons, List.map_cons, List.intercalate_cons_cons, List.append_assoc] at h
      refine ⟨_, h, ?_, ?_⟩
      · intro c hc
        exact (Option.some.inj hc).symm
      · rw [Nat.add_assoc, ← List.drop_drop, h, ← List.drop_drop, List.drop_left]
        rfl

theorem le_start_of_mem (lines : List ScriptLine) :
    ∀ l ∈ regionsFrom i lines, i ≤ l.start := by
  induction lines generalizing i with
  | nil => exact List.forall_mem_nil _
  | cons line more ih =>
      intro l hl
      rcases List.mem_append.1 hl with hl | hl
      · exact (ScriptLine.bounds_of_region? (Option.mem_toList.1 hl)).1
      · have := ih l hl
        omega

/-- Each comment ends before the next one begins. -/
theorem pairwise_regionsFrom (lines : List ScriptLine) :
    (regionsFrom i lines).Pairwise Region.Apart := by
  induction lines generalizing i with
  | nil => exact List.Pairwise.nil
  | cons line more ih =>
      refine List.pairwise_append.2 ⟨?_, ih, fun a ha b hb => Or.inl ?_⟩
      · cases line.region? i with
        | none => exact List.Pairwise.nil
        | some l => exact List.pairwise_singleton _ l
      · obtain ⟨-, -, hstop⟩ := ScriptLine.bounds_of_region? (Option.mem_toList.1 ha)
        have hstart := le_start_of_mem more b hb
        omega

theorem slice_regionsFrom {lines : List ScriptLine}
    (h : s.drop i = ['\n'].intercalate (lines.map ScriptLine.text)) :
    (regionsFrom i lines).map (·.slice s)
      = (lines.filterMap ScriptLine.body?).map (lineOpen ++ ·) := by
  induction lines generalizing i with
  | nil => rfl
  | cons line more ih =>
      obtain ⟨tail, hline, -, hmore⟩ := exists_tail h
      have hfirst := line.slice_region? hline
      rw [regionsFrom, List.map_append, ih hmore]
      cases hregion : line.region? i with
      | none =>
          rw [hregion, Option.map_none] at hfirst
          rw [List.filterMap_cons_none (Option.map_eq_none_iff.1 hfirst.symm)]
          rfl
      | some l =>
          rw [hregion, Option.map_some] at hfirst
          obtain ⟨body, hbody, hslice⟩ := Option.map_eq_some_iff.1 hfirst.symm
          rw [List.filterMap_cons_some hbody, List.map_cons, hslice]
          rfl

theorem endsLine_of_mem {lines : List ScriptLine}
    (h : s.drop i = ['\n'].intercalate (lines.map ScriptLine.text)) :
    ∀ l ∈ regionsFrom i lines, EndsLine s l := by
  induction lines generalizing i with
  | nil => exact List.forall_mem_nil _
  | cons line more ih =>
      obtain ⟨tail, hline, htail, hmore⟩ := exists_tail h
      intro l hl
      rcases List.mem_append.1 hl with hl | hl
      · exact ScriptLine.endsLine_of_region? hline htail (Option.mem_toList.1 hl)
      · exact ih hmore l hl

/-- Every pair of slashes stands in a line comment. -/
theorem exists_region {lines : List ScriptLine}
    (h : s.drop i = ['\n'].intercalate (lines.map ScriptLine.text)) (hi : i ≤ q)
    (hpair : lineOpen <+: s.drop q) :
    ∃ l ∈ regionsFrom i lines, l.start ≤ q ∧ q < l.stop := by
  induction lines generalizing i with
  | nil =>
      rw [← Nat.add_sub_cancel' hi, ← List.drop_drop, h] at hpair
      exact absurd (hpair.length_le) (by simp [lineOpen])
  | cons line more ih =>
      obtain ⟨tail, hline, htail, hmore⟩ := exists_tail h
      by_cases hq : q ≤ i + line.text.length
      · obtain ⟨l, hl, hin⟩ := ScriptLine.exists_region? hline htail hi hq hpair
        exact ⟨l, List.mem_append_left _ (Option.mem_toList.2 hl), hin⟩
      · obtain ⟨l, hl, hin⟩ := ih hmore (by omega)
        exact ⟨l, List.mem_append_right _ hl, hin⟩

end LineCut

-- ============================================================ overlaps

/-- A line comment stays apart from a region that begins with a slash,
unless it opens before the end of the region and no line feed comes in
between. -/
theorem EndsLine.slashed {l r : Region} (h : EndsLine s l) (hr : ¬ l.Apart r) :
    r.Slashed s := by
  obtain ⟨hstart, hstop⟩ := not_or.1 hr
  refine ⟨l.start, Nat.lt_of_not_le hstop, h.opens, fun hin => h.oneLine ?_⟩
  obtain ⟨j, hj, hjr, hc⟩ := Region.mem_slice_iff.1 hin
  have hjr : j < r.start := hjr
  exact Region.mem_slice_iff.2 ⟨j, hj, by omega, hc⟩

/-- Line comments and block comments overlap where there are slashes too
close to a block comment, and only there. -/
theorem apart_iff_not_slashed {lines : LineCut} (hs : lines.text = s) {r : Region}
    (hslash : s[r.start]? = some '/') :
    (∀ l ∈ lines.regions, l.Apart r) ↔ ¬ r.Slashed s := by
  have hdrop : s.drop 0 = ['\n'].intercalate (lines.lines.map ScriptLine.text) := hs.symm
  constructor
  · rintro hapart ⟨q, hq, hpair, hclear⟩
    obtain ⟨l, hl, hstart, hstop⟩ := LineCut.exists_region hdrop (Nat.zero_le q) hpair
    have hends := (LineCut.endsLine_of_mem hdrop l hl).ends
    rcases hapart l hl with hbefore | hafter
    · -- the line would end between the slashes and the region
      have hlength := (List.getElem?_eq_some_iff.1 hslash).1
      have hinside : l.stop < s.length := by omega
      have hnewline := hends _ (List.getElem?_eq_getElem hinside)
      have hc : s[l.stop]? = some '\n' := by rw [List.getElem?_eq_getElem hinside, hnewline]
      have hne : l.stop ≠ r.start := by
        intro he
        rw [he, hslash] at hc
        cases hc
      exact hclear (Region.mem_slice_iff.2 ⟨l.stop, hstop.le, by
        show l.stop < r.start
        omega, hc⟩)
    · omega
  · intro hclear l hl
    by_contra hapart
    exact hclear ((LineCut.endsLine_of_mem hdrop l hl).slashed hapart)

-- ============================================================= scripts

/-- The comments of both cuts of a text stand at their places. -/
theorem slice_regions {lines : LineCut} {blocks : BlockCut} (hlines : lines.text = s)
    (hblocks : blocks.text = s) :
    (lines.regions ++ blocks.regions).map (·.slice s) = lineComments s ++ cssComments s := by
  have hl := LineCut.slice_regionsFrom (s := s) (i := 0) hlines.symm
  have hb := blocks.slice_regionsFrom (s := s) (i := 0) hblocks.symm
  rw [List.map_append, LineCut.regions, hl, BlockCut.regions, hb, ← LineCut.bodies,
    ← lineComments_text, ← blockBodies_text, hlines, hblocks, cssComments]

/-- Every span of a script has a place of its own in the script whose
literals are emptied. No two line comments overlap and no two block comments
do; and no two spans at all do exactly when no pair of slashes begins inside
a block comment or ahead of it on the line where it begins. -/
theorem script_spans_disjoint_iff (source origin : String) :
    ∃ (lines : LineCut) (blocks : BlockCut),
      (∀ other : LineCut, other.text = elideStrings source.toList ↔ other = lines)
      ∧ (∀ other : BlockCut, other.text = elideStrings source.toList ↔ other = blocks)
      ∧ Span.ofText .js source origin
          = (lines.regions ++ blocks.regions).map (fun r =>
              ⟨.js, String.ofList (r.slice (elideStrings source.toList)), origin⟩)
      ∧ lines.regions.Pairwise Region.Apart
      ∧ blocks.regions.Pairwise Region.Apart
      ∧ ((lines.regions ++ blocks.regions).Pairwise Region.Apart
          ↔ ∀ r ∈ blocks.regions, ¬ r.Slashed (elideStrings source.toList)) := by
  obtain ⟨lines, hlines⟩ := LineCut.text_bijective.surjective (elideStrings source.toList)
  obtain ⟨blocks, hblocks⟩ := BlockCut.text_bijective.surjective (elideStrings source.toList)
  have hlinesApart := LineCut.pairwise_regionsFrom (i := 0) lines.lines
  have hblocksApart := blocks.pairwise_regionsFrom (i := 0)
  refine ⟨lines, blocks, fun other => ?_, fun other => ?_, ?_, hlinesApart, hblocksApart, ?_⟩
  · rw [← hlines]
    exact LineCut.text_bijective.injective.eq_iff
  · rw [← hblocks]
    exact BlockCut.text_bijective.injective.eq_iff
  · rw [Span.ofText, jsComments, ← slice_regions hlines hblocks, List.map_map]
    rfl
  · have hslash : ∀ r ∈ blocks.regions, (elideStrings source.toList)[r.start]? = some '/' := by
      intro r hr
      rw [← hblocks]
      exact blocks.slash_of_mem hr
    rw [List.pairwise_append]
    constructor
    · rintro ⟨-, -, hapart⟩ r hr
      exact (apart_iff_not_slashed hlines (hslash r hr)).1 fun l hl => hapart l hl r hr
    · intro hclear
      refine ⟨hlinesApart, hblocksApart, fun l hl r hr => ?_⟩
      exact (apart_iff_not_slashed hlines (hslash r hr)).2 (hclear r hr) l hl

/-- A block comment with two slashes in it is reported once more from there
on. -/
theorem block_comment_reported_twice :
    ofText .js "/* a // b */" "page.js"
        = [⟨.js, "b */", "page.js"⟩, ⟨.js, "a // b", "page.js"⟩]
      ∧ ¬ ∀ (source : String) (lines : LineCut) (blocks : BlockCut),
          lines.text = elideStrings source.toList → blocks.text = elideStrings source.toList →
            (lines.regions ++ blocks.regions).Pairwise Region.Apart := by
  refine ⟨by decide +kernel, fun h => ?_⟩
  let lines : LineCut :=
    ⟨[.marked "/* a ".toList " b */".toList (by decide) (by decide)],
      List.cons_ne_nil _ _⟩
  let blocks : BlockCut :=
    .comment [] " a // b ".toList (by decide) (by decide)
      (.last [] (Or.inl (by decide)))
  have hlines : lines.text = elideStrings "/* a // b */".toList := by decide +kernel
  have hblocks : blocks.text = elideStrings "/* a // b */".toList := by decide +kernel
  have hoverlap : ¬ (lines.regions ++ blocks.regions).Pairwise Region.Apart := by decide
  exact hoverlap (h _ lines blocks hlines hblocks)

end Marginalia.Extract
