/-
Comments of a document. What cleaning makes of a comment node is found by
two removals of patterns, which take white space along, a cut and three
trims. `normalMarkup` is the same without patterns: the trimmed value loses
one closing marker at its end, then one opening marker at its start, then
everything from the next opening marker on, and is trimmed again.

The two agree on every text (`stripMarkup_eq_normalMarkup`). At the end of a
trimmed text there is no white space that a pattern could take along, so
that a closing marker there is the end of the text. The white space behind
an opening marker holds no marker, and whether it goes with the marker or
with the last trim makes no difference.
-/
import Marginalia.Extract
import Marginalia.Proofs.Extract.Kinds
import Marginalia.Proofs.Extract.Stylesheet
import Marginalia.Proofs.Pattern.Removal
import Marginalia.Proofs.Text.Occurrence
import Marginalia.Proofs.Text.Trim

namespace Marginalia

namespace Text

variable {mark s : List Char}

/-- The text without a mark at its end, once. -/
def withoutEnd (mark s : List Char) : List Char :=
  if mark <:+ s then s.take (s.length - mark.length) else s

/-- The text without a mark at its start, once. -/
def withoutStart (mark s : List Char) : List Char :=
  if mark <+: s then s.drop mark.length else s

/-- What stands before the first mark; the whole text if there is none. -/
def beforeFirst (mark : List Char) : List Char → List Char
  | [] => []
  | c :: r => if mark <+: c :: r then [] else c :: beforeFirst mark r

@[simp]
theorem withoutEnd_append (mark s : List Char) : withoutEnd mark (s ++ mark) = s := by
  rw [withoutEnd, if_pos (List.suffix_append s mark), List.length_append,
    Nat.add_sub_cancel, List.take_left]

@[simp]
theorem withoutStart_append (mark s : List Char) : withoutStart mark (mark ++ s) = s := by
  rw [withoutStart, if_pos (List.prefix_append mark s), List.drop_left]

theorem withoutEnd_isInfix (mark s : List Char) : withoutEnd mark s <:+: s := by
  rw [withoutEnd]
  split
  · exact (List.take_prefix _ s).isInfix
  · exact List.infix_rfl

theorem withoutStart_isInfix (mark s : List Char) : withoutStart mark s <:+: s := by
  rw [withoutStart]
  split
  · exact (List.drop_suffix _ s).isInfix
  · exact List.infix_rfl

theorem beforeFirst_isPrefix (mark s : List Char) : beforeFirst mark s <+: s := by
  induction s with
  | nil => exact List.prefix_rfl
  | cons c r ih =>
      rw [beforeFirst]
      split
      · exact List.nil_prefix
      · exact (List.prefix_cons_inj c).2 ih

/-- It is what stands before the first cut. -/
theorem beforeFirst_eq (hmark : mark ≠ []) (s : List Char) :
    beforeFirst mark s = ((splitFirst mark s).map Prod.fst).getD s := by
  induction s with
  | nil => simp [beforeFirst, splitFirst, hmark]
  | cons c r ih =>
      rw [beforeFirst]
      by_cases h : mark <+: c :: r
      · obtain ⟨tail, htail⟩ := id h
        rw [if_pos h, splitFirst_sep_append hmark htail.symm]
        rfl
      · rw [if_neg h, splitFirst_cons h, ih]
        cases splitFirst mark r with
        | none => rfl
        | some cut => rfl

/-- A mark is not found in characters other than its first one. -/
theorem beforeFirst_append {c : Char} {white : List Char} (hc : c ∉ white)
    (mark s : List Char) :
    beforeFirst (c :: mark) (white ++ s) = white ++ beforeFirst (c :: mark) s := by
  induction white with
  | nil => rfl
  | cons d white ih =>
      rw [List.mem_cons, not_or] at hc
      have hstart : ¬ c :: mark <+: d :: (white ++ s) := by
        rw [List.cons_prefix_cons]
        exact fun h => hc.1 h.1
      rw [List.cons_append, beforeFirst, if_neg hstart, ih hc.2]
      rfl

/-- There is no white space at the end of a trimmed text. -/
theorem eq_nil_of_trim_append {white : List Char} (hwhite : ∀ c ∈ white, isBlank c = true)
    (h : trim (s ++ white) = s ++ white) : white = [] := by
  have htrim : trim (s ++ white) = trim s :=
    trim_append_blank (l := []) (by simp) hwhite
  have hlen := (trim_isInfix s).length_le
  rw [← htrim, h, List.length_append] at hlen
  exact List.eq_nil_of_length_eq_zero (by omega)

end Text

namespace Extract

open Text Pattern

/-- The text of a document comment with the given value. -/
def normalMarkup (value : List Char) : List Char :=
  trim (beforeFirst markupOpen (withoutStart markupOpen (withoutEnd markupClose (trim value))))

example : normalMarkup " <!-- outer <!-- inner --> ".toList = "outer".toList := by decide
example : normalMarkup "<!-->".toList = "<!".toList := by decide

-- ============================================================ markers

theorem occurs_trailingClose {t : List Char} (h : markupClose <:+ t) :
    trailingClose.Occurs t := by
  obtain ⟨front, rfl⟩ := h
  have hend : Matches (inOrder [blanks, textEnd])
      ⟨markupClose.getLast?.or front.getLast?, []⟩
      ⟨markupClose.getLast?.or front.getLast?, []⟩ :=
    .sequence (.none _) (.textEnd rfl)
  exact ⟨front, markupClose, _, rfl,
    matches_chars_iff.2 ⟨[], (List.append_nil markupClose).symm, hend⟩⟩

/-- In a trimmed text the pattern for a closing marker reads the marker
alone. -/
theorem remove_trailingClose {t : List Char} (ht : trim t = t) :
    trailingClose.remove t = withoutEnd markupClose t := by
  rcases remove_cases trailingClose t with ⟨hnone, hsame⟩ | ⟨front, rest, b, rfl, hm, hcut⟩
  · have hend : ¬ markupClose <:+ t := fun h => hnone (occurs_trailingClose h)
    rw [hsame, withoutEnd, if_neg hend]
  · obtain ⟨behind, hrest, hmore⟩ := matches_chars_iff.1 hm
    obtain ⟨d, hblanks, hend⟩ := matches_inOrder_cons_iff.1 hmore
    obtain ⟨white, last, hbehind, hwhite, rfl⟩ := matches_blanks_iff.1 hblanks
    have hb : last = [] ∧ b.rest = last := by
      cases hend with
      | textEnd hd => exact ⟨hd, rfl⟩
    obtain ⟨rfl, hb⟩ := hb
    simp only [List.append_nil] at hrest hbehind
    subst hrest hbehind
    rw [← List.append_assoc] at ht
    obtain rfl := eq_nil_of_trim_append hwhite ht
    rw [hcut, hb, List.append_nil, List.append_nil, withoutEnd_append]

theorem occurs_leadingOpen {t : List Char} (h : markupOpen <+: t) : leadingOpen.Occurs t := by
  obtain ⟨behind, rfl⟩ := h
  have hmarker : Matches (inOrder (markupOpen.map char ++ [blanks]))
      ⟨none, markupOpen ++ behind⟩ ⟨markupOpen.getLast?.or none, behind⟩ :=
    matches_chars_iff.2 ⟨behind, rfl, .none _⟩
  exact ⟨[], _, _, rfl, .sequence (.textStart rfl) hmarker⟩

/-- The pattern for an opening marker reads the marker and some of the white
space behind it. -/
theorem remove_leadingOpen (t : List Char) :
    ∃ white, (∀ c ∈ white, isBlank c = true)
      ∧ withoutStart markupOpen t = white ++ leadingOpen.remove t := by
  rcases remove_cases leadingOpen t with ⟨hnone, hsame⟩ | ⟨front, rest, b, rfl, hm, hcut⟩
  · have hstart : ¬ markupOpen <+: t := fun h => hnone (occurs_leadingOpen h)
    refine ⟨[], by simp, ?_⟩
    rw [hsame, withoutStart, if_neg hstart, List.nil_append]
  · obtain ⟨d, hstart, hmore⟩ := matches_inOrder_cons_iff.1 hm
    obtain ⟨hfront, rfl⟩ := matches_textStart_iff.1 hstart
    obtain rfl := List.getLast?_eq_none_iff.1 hfront
    obtain ⟨behind, hrest, hblanks⟩ := matches_chars_iff.1 hmore
    obtain ⟨white, last, hbehind, hwhite, rfl⟩ := matches_blanks_iff.1 hblanks
    refine ⟨white, hwhite, ?_⟩
    rw [hcut, List.nil_append, List.nil_append]
    simp only at hrest hbehind
    rw [hrest, hbehind, withoutStart_append]

-- ============================================================ cleaning

/-- Cleaning gives the normal form. -/
theorem stripMarkup_eq_normalMarkup (value : List Char) :
    stripMarkup value = normalMarkup value := by
  have hended := remove_trailingClose (trim_trim value)
  obtain ⟨white, hwhite, hbegun⟩ := remove_leadingOpen (withoutEnd markupClose (trim value))
  have hmark : '<' ∉ white := by
    intro h
    exact absurd (hwhite '<' h) (by decide)
  have hcut : stripMarkup value
      = trim (beforeFirst markupOpen
          (leadingOpen.remove (withoutEnd markupClose (trim value)))) := by
    rw [stripMarkup, hended, beforeFirst_eq (by decide)]
    cases splitFirst markupOpen (leadingOpen.remove (withoutEnd markupClose (trim value))) with
    | none => rfl
    | some cut => rfl
  have hshift := beforeFirst_append hmark "!--".toList
    (leadingOpen.remove (withoutEnd markupClose (trim value)))
  rw [hcut, normalMarkup, hbegun]
  show _ = trim (beforeFirst ('<' :: "!--".toList) _)
  rw [hshift, ← List.append_nil (white ++ _), trim_append_blank hwhite (by simp)]
  rfl

theorem stripMarkup_isInfix (raw : List Char) : stripMarkup raw <:+: raw := by
  rw [stripMarkup_eq_normalMarkup]
  calc normalMarkup raw
      <:+: beforeFirst markupOpen
          (withoutStart markupOpen (withoutEnd markupClose (trim raw))) := trim_isInfix _
    _ <:+: withoutStart markupOpen (withoutEnd markupClose (trim raw)) :=
        (beforeFirst_isPrefix _ _).isInfix
    _ <:+: withoutEnd markupClose (trim raw) := withoutStart_isInfix _ _
    _ <:+: trim raw := withoutEnd_isInfix _ _
    _ <:+: raw := trim_isInfix raw

theorem normalMarkup_trim (value : List Char) :
    normalMarkup (trim value) = normalMarkup value := by
  rw [normalMarkup, trim_trim]
  rfl

/-- The comment that a comment node holds, if any. -/
def commentOfNode? (origin node : String) : Option Comment :=
  let text := normalMarkup node.toList
  if text = [] then none else some ⟨.html, String.ofList text, origin⟩

/-- The comment in a document span. -/
theorem clean?_html (raw : List Char) (origin : String) :
    (⟨.html, String.ofList raw, origin⟩ : Span).clean?
      = commentOfNode? origin (String.ofList raw) := by
  have hstrip : strip .html raw = normalMarkup raw := stripMarkup_eq_normalMarkup raw
  rw [commentOfNode?, String.toList_ofList]
  by_cases hempty : normalMarkup raw = []
  · rw [if_pos hempty]
    exact clean?_of_nil origin (hstrip.trans hempty)
  · rw [if_neg hempty]
    exact clean?_of_ne_nil origin hstrip (List.isEmpty_eq_false_iff.2 hempty)

/-- A node that is blank holds no comment, and the white space around the
value of another one does not count. -/
theorem clean?_node (origin node : String) :
    (if trim node.toList = [] then none
      else (⟨.html, String.ofList (trim node.toList), origin⟩ : Span).clean?)
      = commentOfNode? origin node := by
  have hsame : commentOfNode? origin (String.ofList (trim node.toList))
      = commentOfNode? origin node := by
    rw [commentOfNode?, commentOfNode?, String.toList_ofList, normalMarkup_trim]
  rw [clean?_html, hsame]
  split
  · next hblank =>
    have hnil : normalMarkup node.toList = [] := by
      rw [normalMarkup, hblank]
      rfl
    rw [commentOfNode?, hnil]
    rfl
  · rfl

/-- Each comment node whose value has a normal form that is not empty gives
one comment, in the order of the nodes, and the other ones give none. All
that cleaning leaves is reported, since comments of a document are kept
whatever their text. -/
theorem document_comments_exact (nodes : List String) (origin : String) :
    ofNodes nodes origin = nodes.filterMap (commentOfNode? origin)
      ∧ ofNodes nodes origin = (Span.ofNodes nodes origin).filterMap Span.clean?
      ∧ ∀ text, (classify .html text).isKeep = true := by
  have hspans : (Span.ofNodes nodes origin).filterMap Span.clean?
      = nodes.filterMap (commentOfNode? origin) := by
    unfold Span.ofNodes
    rw [List.filterMap_map, List.filterMap_filter, List.filterMap_map]
    refine List.filterMap_congr fun node _ => ?_
    rw [← clean?_node]
    by_cases hblank : trim node.toList = []
    · simp [hblank]
    · simp [hblank]
  have hkept : ofNodes nodes origin = (Span.ofNodes nodes origin).filterMap Span.clean? := by
    refine List.filter_eq_self.2 fun c hc => ?_
    obtain ⟨s, hs, hclean⟩ := List.mem_filterMap.1 hc
    obtain ⟨raw, -, rfl⟩ := List.mem_map.1 hs
    rw [kind_of_clean? hclean]
    rfl
  exact ⟨hkept.trans hspans, hkept, fun _ => rfl⟩

end Extract

end Marginalia
