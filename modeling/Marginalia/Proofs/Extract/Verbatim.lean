/-
Whether comments are reported as they stand in their resource. Cleaning
only takes characters away at the ends of a span (`strip_isInfix`), so what
is left to ask is where the spans come from. Those of a document and of a
stylesheet are cut out of its text. Those of a script are cut out of the
text that elision has left, and elision does not keep to code: quotes
inside a comment are emptied like any others.

# What elision does to a comment

The text that is searched is a list of pieces, some of them emptied
literals (Literal/Emptying.lean), and no comment begins or ends inside one
of them: a comment begins with a slash, and ends with one or at a line feed
(`exists_run`). Each span is therefore a run of the pieces with the bodies
of its literals taken out. It is the comment as it stands in the script
exactly if there was nothing in these literals; and if there was, the
script can hold the same characters only in another place.
-/
import Marginalia.Proofs.Extract.Kinds
import Marginalia.Proofs.Extract.Markup
import Marginalia.Proofs.Extract.Region
import Marginalia.Proofs.Literal.Emptying
import Marginalia.Proofs.Text.Trim

namespace Marginalia

namespace Text

-- ============================================================= infixes

theorem getD_dropHead?_isInfix (head s : List Char) : (dropHead? head s).getD s <:+: s := by
  cases h : dropHead? head s with
  | none => exact List.infix_rfl
  | some tail => exact ⟨head, [], by rw [List.append_nil, dropHead?_eq_some.1 h]; rfl⟩

theorem getD_dropTail?_isInfix (tail s : List Char) : (dropTail? tail s).getD s <:+: s := by
  have hreversed := getD_dropHead?_isInfix tail.reverse s.reverse
  rw [← List.reverse_infix, dropTail?]
  cases h : dropHead? tail.reverse s.reverse with
  | none => exact List.infix_rfl
  | some head =>
      rw [h] at hreversed
      rw [Option.map_some, Option.getD_some, List.reverse_reverse]
      exact hreversed

end Text

namespace Extract

open Text Literal

-- ============================================================ cleaning

theorem stripBlock_isInfix (raw : List Char) : stripBlock raw <:+: raw :=
  (trim_isInfix _).trans ((getD_dropTail?_isInfix _ _).trans (getD_dropHead?_isInfix _ _))

theorem stripScript_isInfix (raw : List Char) : stripScript raw <:+: raw := by
  rw [stripScript]
  split
  · next body hbody =>
    have hsuffix : body <:+ raw := ⟨lineOpen, (dropHead?_eq_some.1 hbody).symm⟩
    exact (trim_isInfix body).trans hsuffix.isInfix
  · exact stripBlock_isInfix raw

/-- What cleaning leaves of a span stands in the span. -/
theorem strip_isInfix (kind : Kind) (raw : List Char) : strip kind raw <:+: raw := by
  cases kind with
  | html => exact stripMarkup_isInfix raw
  | css => exact stripBlock_isInfix raw
  | js => exact stripScript_isInfix raw

/-- A comment stands in the span it was made from. -/
theorem exists_span_of_mem_retain {spans : List Span} {c : Comment} (hc : c ∈ retain spans) :
    ∃ s ∈ spans, c.text.toList <:+: s.raw.toList := by
  obtain ⟨s, hs, hclean⟩ := List.mem_filterMap.1 (List.mem_of_mem_filter hc)
  refine ⟨s, hs, ?_⟩
  unfold Span.clean? at hclean
  split at hclean
  · cases hclean
  · injection hclean with hclean
    rw [← hclean, String.toList_ofList]
    exact strip_isInfix s.kind s.raw.toList

-- =================================================== cut from the text

/-- Every span of a resource and every comment reported of it stands in its
text. -/
def Verbatim (kind : Kind) (text origin : String) : Prop :=
  (∀ s ∈ Span.ofText kind text origin, s.raw.toList <:+: text.toList)
    ∧ ∀ c ∈ ofText kind text origin, c.text.toList <:+: text.toList

/-- It is enough that the spans stand in the text. -/
theorem verbatim_iff {kind : Kind} {text origin : String} :
    Verbatim kind text origin
      ↔ ∀ s ∈ Span.ofText kind text origin, s.raw.toList <:+: text.toList := by
  refine ⟨And.left, fun h => ⟨h, fun c hc => ?_⟩⟩
  obtain ⟨s, hs, hin⟩ := exists_span_of_mem_retain hc
  exact hin.trans (h s hs)

theorem infix_of_mem_spans_ofNodes {nodes : List String} {origin : String} :
    ∀ s ∈ Span.ofNodes nodes origin, ∃ node ∈ nodes, s.raw.toList <:+: node.toList := by
  intro s hs
  obtain ⟨raw, hraw, rfl⟩ := List.mem_map.1 hs
  obtain ⟨node, hnode, rfl⟩ := List.mem_map.1 (List.mem_of_mem_filter hraw)
  refine ⟨node, hnode, ?_⟩
  rw [String.toList_ofList]
  exact trim_isInfix node.toList

theorem infix_of_mem_cssComments (s : List Char) : ∀ raw ∈ cssComments s, raw <:+: s := by
  rw [cssComments]
  induction s using block_induction with
  | last gap h =>
      rw [blockBodies_of_noBlock h]
      exact List.forall_mem_nil _
  | comment gap body rest hgap hbody ih =>
      rw [blockBodies_comment hgap hbody, List.map_cons, List.forall_mem_cons]
      refine ⟨⟨gap, rest, rfl⟩, fun raw hraw => ?_⟩
      exact (ih raw hraw).trans (List.suffix_append _ rest).isInfix

-- =================================================== runs of pieces

variable {ps : List Piece} {s : List Char} {r : Region}

theorem slash_ne_mark (k : Quote) : '/' ≠ k.mark := by
  cases k with
  | single => decide
  | double => decide
  | template => decide

/-- A run of pieces is a stretch of their text. -/
theorem text_isInfix {run : List Piece} (h : run <:+: ps) :
    Literal.text run <:+: Literal.text ps := by
  obtain ⟨front, back, rfl⟩ := h
  rw [text_append, text_append]
  exact ⟨_, _, rfl⟩

/-- What stands in a region that begins with a slash, and ends with one or
at the end of a line, is a run of pieces. -/
theorem exists_run (hsingle : ∀ p ∈ ps, p.Single) (htext : Literal.text (emptied ps) = s)
    (hle : r.start ≤ r.stop) (hopens : s[r.start]? = some '/')
    (hcloses : (r.slice s).getLast? = some '/' ∨ AfterLine (s.drop r.stop)) :
    ∃ run, run <:+: ps ∧ Literal.text (emptied run) = r.slice s := by
  have hcut := Region.take_append_slice_append_drop hle s
  have hhead : (r.slice s ++ s.drop r.stop).head? = some '/' := by
    have hdrop : s.drop r.start = r.slice s ++ s.drop r.stop := by
      rw [← List.append_cancel_left_eq (s.take r.start), hcut, List.take_append_drop]
    rw [← hdrop, List.head?_drop, hopens]
  obtain ⟨front, back, rfl, -, hback⟩ := exists_append (a := s.take r.start) hsingle
    (fun k c _ hsevers => slash_ne_mark k (Option.some.inj (hhead.symm.trans hsevers.2)))
    (htext.trans hcut.symm)
  have hends : ∀ k, ¬ Severs k (r.slice s) (s.drop r.stop) := by
    rintro k ⟨hlast, hfirst⟩
    rcases hcloses with hslash | hline
    · exact slash_ne_mark k (Option.some.inj (hslash.symm.trans hlast))
    · exact k.mark_ne_newline (hline _ hfirst)
  obtain ⟨run, rest, rfl, hrun, -⟩ := exists_append
    (fun p hp => hsingle p (List.mem_append_right _ hp)) (fun k c _ => hends k) hback
  exact ⟨run, ⟨front, rest, List.append_assoc _ _ _⟩, hrun⟩

/-- The comments of a script are runs of the pieces that elision cuts it
into. -/
theorem exists_runs (hsingle : ∀ p ∈ ps, p.Single) (htext : Literal.text (emptied ps) = s) :
    ∃ runs : List (List Piece), (∀ run ∈ runs, run <:+: ps)
      ∧ lineComments s ++ cssComments s = runs.map fun run => Literal.text (emptied run) := by
  obtain ⟨lines, hlines⟩ := LineCut.text_bijective.surjective s
  obtain ⟨blocks, hblocks⟩ := BlockCut.text_bijective.surjective s
  have hrun : ∀ r ∈ lines.regions ++ blocks.regions, ∃ run, run <:+: ps
      ∧ Literal.text (emptied run) = r.slice s := by
    intro r hr
    rcases List.mem_append.1 hr with hr | hr
    · have hends := LineCut.endsLine_of_mem (s := s) (i := 0) hlines.symm r hr
      obtain ⟨rest, hrest⟩ := hends.opens
      refine exists_run hsingle htext hends.nonempty.le ?_ (Or.inr fun c hc => hends.ends c ?_)
      · rw [← List.head?_drop, ← hrest]
        rfl
      · rwa [← List.head?_drop]
    · obtain ⟨-, hlt⟩ := blocks.le_start_of_mem r hr
      rw [← hblocks] at htext ⊢
      exact exists_run hsingle htext hlt.le (blocks.slash_of_mem hr)
        (Or.inl (blocks.getLast?_slice_of_mem hr))
  have hraws : lineComments s ++ cssComments s
      ∈ Set.range (List.map fun run : {run // run <:+: ps} => Literal.text (emptied run.1)) := by
    rw [Set.range_list_map, ← slice_regions hlines hblocks]
    intro raw hraw
    obtain ⟨r, hr, rfl⟩ := List.mem_map.1 hraw
    obtain ⟨run, hin, hrun⟩ := hrun r hr
    exact ⟨⟨run, hin⟩, hrun⟩
  obtain ⟨runs, hruns⟩ := hraws
  refine ⟨runs.map Subtype.val, List.forall_mem_map.2 fun run _ => run.2, ?_⟩
  rw [List.map_map, ← hruns]
  rfl

-- =============================================================== main

/-- The comments of a document and of a stylesheet are reported as they
stand there. Those of a script are runs of the pieces that elision cuts it
into, with the literals among them emptied, and such a run stands for itself
exactly if its literals are empty. They are reported as they stand in the
script exactly if each of them has no literal with something in it, or
happens to stand there in its emptied form as well. -/
theorem verbatim_exact (origin : String) :
    (∀ nodes : List String,
        (∀ s ∈ Span.ofNodes nodes origin, ∃ node ∈ nodes, s.raw.toList <:+: node.toList)
        ∧ ∀ c ∈ ofNodes nodes origin, ∃ node ∈ nodes, c.text.toList <:+: node.toList)
      ∧ (∀ text, Verbatim .html text origin)
      ∧ (∀ text, Verbatim .css text origin)
      ∧ ∀ source : String, ∃ (ps : List Piece) (runs : List (List Piece)),
          Literal.text ps = source.toList
          ∧ Literal.text (emptied ps) = elideStrings source.toList
          ∧ (∀ run ∈ runs, run <:+: ps
              ∧ (Literal.text (emptied run) = Literal.text run ↔ ∀ q, Hollow q run))
          ∧ Span.ofText .js source origin
              = runs.map (fun run => ⟨.js, String.ofList (Literal.text (emptied run)), origin⟩)
          ∧ (Verbatim .js source origin
              ↔ ∀ run ∈ runs, (∀ q, Hollow q run)
                  ∨ Literal.text (emptied run) <:+: source.toList) := by
  have hnodes : ∀ nodes : List String, ∀ s ∈ Span.ofNodes nodes origin,
      ∃ node ∈ nodes, s.raw.toList <:+: node.toList :=
    fun _ => infix_of_mem_spans_ofNodes
  refine ⟨fun nodes => ⟨hnodes nodes, fun c hc => ?_⟩, fun text => ?_, fun text => ?_,
    fun source => ?_⟩
  · obtain ⟨s, hs, hin⟩ := exists_span_of_mem_retain hc
    obtain ⟨node, hnode, hraw⟩ := hnodes nodes s hs
    exact ⟨node, hnode, hin.trans hraw⟩
  · rw [verbatim_iff]
    intro s hs
    obtain ⟨node, hnode, hraw⟩ := hnodes [text] s hs
    rwa [List.mem_singleton.1 hnode] at hraw
  · rw [verbatim_iff]
    intro s hs
    obtain ⟨raw, hraw, rfl⟩ := List.mem_map.1 hs
    rw [String.toList_ofList]
    exact infix_of_mem_cssComments text.toList raw hraw
  · obtain ⟨ps, hsingle, hsource, hleft⟩ := exists_pieces source.toList
    obtain ⟨runs, hruns, hcomments⟩ := exists_runs hsingle hleft
    have hspans : Span.ofText .js source origin
        = runs.map fun run => ⟨.js, String.ofList (Literal.text (emptied run)), origin⟩ := by
      rw [Span.ofText, jsComments, hcomments, List.map_map]
      rfl
    refine ⟨ps, runs, hsource, hleft, fun run hrun => ⟨hruns run hrun, text_emptied_eq_iff⟩,
      hspans, ?_⟩
    rw [verbatim_iff, hspans, List.forall_mem_map]
    refine forall₂_congr fun run hrun => ?_
    rw [String.toList_ofList]
    constructor
    · exact Or.inr
    · rintro (hhollow | hin)
      · rw [text_emptied_eq_iff.2 hhollow, ← hsource]
        exact text_isInfix (hruns run hrun)
      · exact hin

/-- A quoted word in a comment is left out of the report. -/
theorem quoted_word_left_out :
    ofText .js "// say 'so'" "page.js" = [⟨.js, "say ''", "page.js"⟩]
      ∧ ¬ ∀ (kind : Kind) (text origin : String), Verbatim kind text origin := by
  refine ⟨by decide +kernel, fun h => ?_⟩
  have hspan : Span.ofText .js "// say 'so'" "page.js"
      = [⟨.js, "// say ''", "page.js"⟩] := by decide +kernel
  have hin := (h .js "// say 'so'" "page.js").1
  rw [hspan, List.forall_mem_singleton] at hin
  exact absurd hin (by decide)

end Extract

end Marginalia
