/-
Elision of a whole script, all three passes together, and what it leaves
for the search for comments.

# When elision is right

Elision is right about a script (`Elided`) when it takes the body out of
every literal and nothing else; no comment is found then, for without the
bodies no slash is left. It is right whenever no pass leaks out of a
literal of another sort, which is a condition on the first two passes
only: after them the literals in quotes are empty, and the backticks of
the third pass have nothing to leak out of.

# When it is not

A single quote inside a literal in double quotes finds its partner in
any later literal, and what stands between the two is taken for the body
of a literal: `"'" + '//'` becomes `"''//'`, and its slashes open a
comment. The converse of the condition above nearly holds. What elision
has been right about is always cut into pieces that no pass leaks out of
(`exists_faithful`), but these may be other pieces than the ones that
were meant, with other bodies in the same code. `Literal.Reading` rules
that out for code that does not end in a backslash.
-/
import Marginalia.Extract.Span
import Marginalia.Proofs.Literal.Reading
import Marginalia.Proofs.Text.Occurrence

namespace Marginalia.Literal

open Extract

/-- A pass does to some pieces what it ought to. -/
structure Treats (q : Quote) (ps : List Piece) : Prop where
  closed : Closed q ps
  contained : Contained q ps

/-- Each pass does what it ought to with what the one before it has
left. -/
structure Faithful (ps : List Piece) : Prop where
  single : Treats .single ps
  double : Treats .double (passed .single ps)
  template : Treats .template (passed .double (passed .single ps))

/-- Elision takes the body out of every literal and nothing else, and no
comment is found. -/
def Elided (ps : List Piece) : Prop :=
  (∀ origin, Span.ofText .js (String.ofList (text ps)) origin = [])
    ∧ elideStrings (text ps) = text (emptied ps)

variable {q k : Quote} {ps qs alt : List Piece}

-- ==================================================== pieces and passes

theorem Piece.WellFormed.passed {p : Piece} (h : p.WellFormed) (q : Quote) :
    (p.passed q).WellFormed := by
  cases p with
  | code s => exact h
  | literal k b =>
      show Body k (if k = q then [] else pass q b)
      by_cases hk : k = q
      · rw [if_pos hk]
        exact .nil
      · rw [if_neg hk]
        exact Body.pass (Ne.symm hk) h

theorem wellFormed_passed (h : ∀ p ∈ ps, p.WellFormed) (q : Quote) :
    ∀ p ∈ passed q ps, p.WellFormed :=
  List.forall_mem_map.2 fun p hp => (h p hp).passed q

theorem closed_of_wellFormed (h : ∀ p ∈ ps, p.WellFormed) (q : Quote) :
    Closed q ps := by
  intro p hp
  have h := h p hp
  cases p with
  | code s => trivial
  | literal k b =>
      rintro rfl
      exact h

theorem hollow_passed (q : Quote) (ps : List Piece) : Hollow q (passed q ps) := by
  refine List.forall_mem_map.2 fun p _ => ?_
  cases p with
  | code s => trivial
  | literal k b => exact fun hk => if_pos hk

theorem Hollow.passed (h : Hollow k ps) (q : Quote) : Hollow k (passed q ps) := by
  refine List.forall_mem_map.2 fun p hp => ?_
  have h := h p hp
  cases p with
  | code s => trivial
  | literal j b =>
      intro hj
      show (if j = q then [] else pass q b) = []
      rw [h hj, pass_nil, ite_self]

/-- A pass does not leak out of empty literals. -/
theorem contained_of_hollow (h : ∀ k, k ≠ q → Hollow k ps) : Contained q ps := by
  induction ps with
  | nil => trivial
  | cons p ps ih =>
      have hrest := ih fun k hk => (List.forall_mem_cons.1 (h k hk)).2
      cases p with
      | code s => exact hrest
      | literal k b =>
          refine ⟨fun hk => ?_, hrest⟩
          rw [(List.forall_mem_cons.1 (h k hk)).1 rfl, leaks_nil]

/-- A pass does not leak out of literals without its mark. -/
theorem contained_of_notMem
    (h : ∀ k b, k ≠ q → Piece.literal k b ∈ ps → q.mark ∉ b) : Contained q ps := by
  induction ps with
  | nil => trivial
  | cons p ps ih =>
      have hrest := ih fun k b hk hb => h k b hk (List.mem_cons_of_mem p hb)
      cases p with
      | code s => exact hrest
      | literal k b =>
          refine ⟨fun hk => leaks_of_notMem ?_, hrest⟩
          exact h k b hk List.mem_cons_self

-- ============================================================== passes

/-- Of pieces as a script may hold them, the first two passes decide. -/
theorem faithful_iff (h : ∀ p ∈ ps, p.WellFormed) :
    Faithful ps ↔ Contained .single ps ∧ Contained .double (passed .single ps) := by
  have hsingle := wellFormed_passed h .single
  have hdouble := wellFormed_passed hsingle .double
  constructor
  · intro hf
    exact ⟨hf.single.contained, hf.double.contained⟩
  · rintro ⟨hs, hd⟩
    refine ⟨⟨closed_of_wellFormed h _, hs⟩, ⟨closed_of_wellFormed hsingle _, hd⟩,
      ⟨closed_of_wellFormed hdouble _, contained_of_hollow ?_⟩⟩
    intro k hk
    cases k with
    | single => exact (hollow_passed _ _).passed _
    | double => exact hollow_passed _ _
    | template => exact absurd rfl hk

theorem elideStrings_text (hfree : ∀ q, MarkFree q ps) (h : Faithful ps) :
    elideStrings (text ps) = text (emptied ps) := by
  have hsingle : ∀ q, MarkFree q (passed .single ps) :=
    fun q => (hfree q).passed .single
  have hdouble : ∀ q, MarkFree q (passed .double (passed .single ps)) :=
    fun q => (hsingle q).passed .double
  rw [elideStrings_eq_passes,
    pass_text (hfree _) h.single.closed h.single.contained,
    pass_text (hsingle _) h.double.closed h.double.contained,
    pass_text (hdouble _) h.template.closed h.template.contained, passed_all]

/-- Only a text in pieces that no pass leaks out of is elided to empty
literals. The passes are undone one by one, the last one first. -/
theorem exists_faithful {s : List Char} (hfree : ∀ q, MarkFree q ps)
    (h : elideStrings s = text (emptied ps)) :
    ∃ alt, emptied alt = emptied ps ∧ text alt = s ∧ Faithful alt := by
  obtain ⟨ps₁, h₁, he₁, closed₁, cont₁⟩ :=
    exists_pieces_of_pass (hfree .template).emptied (hollow_emptied _ ps) h
  have hfree₁ : ∀ q, MarkFree q ps₁ := by
    intro q
    refine .of_passed (q := .template) ?_
    rw [he₁]
    exact (hfree q).emptied
  have hollow₁ : ∀ k, k ≠ .template → Hollow k ps₁ := by
    intro k hk
    refine Hollow.of_passed hk ?_
    rw [he₁]
    exact hollow_emptied k ps
  obtain ⟨ps₂, h₂, rfl, closed₂, cont₂⟩ :=
    exists_pieces_of_pass (hfree₁ .double) (hollow₁ _ (by decide)) h₁.symm
  obtain ⟨ps₃, h₃, rfl, closed₃, cont₃⟩ :=
    exists_pieces_of_pass (.of_passed (hfree₁ .single))
      (Hollow.of_passed (by decide) (hollow₁ .single (by decide))) h₂.symm
  refine ⟨ps₃, ?_, h₃, ⟨closed₃, cont₃⟩, ⟨closed₂, cont₂⟩, ⟨closed₁, cont₁⟩⟩
  rw [← passed_all, he₁]

/-- Literals that the passes close leave no backslash pending, whatever
sort they are of: a pass before theirs does not change that. -/
theorem Faithful.aligned (h : Faithful ps) : ∀ p ∈ ps, p.Aligned := by
  intro p hp
  have hsingle := List.mem_map_of_mem (f := Piece.passed .single) hp
  have hdouble := List.mem_map_of_mem (f := Piece.passed .double) hsingle
  cases p with
  | code s => trivial
  | literal k b =>
      cases k with
      | single => exact (h.single.closed _ hp rfl).pending
      | double =>
          have hb : Body .double (pass .single b) := h.double.closed _ hsingle rfl
          have := hb.pending
          rwa [pending_pass] at this
      | template =>
          have hb : Body .template (pass .double (pass .single b)) :=
            h.template.closed _ hdouble rfl
          have := hb.pending
          rwa [pending_pass, pending_pass] at this

-- ===================================================== without a slash

/-- Where elision leaves no slash there is no comment. -/
theorem ofText_js_eq_nil {s : List Char} (h : '/' ∉ elideStrings s)
    (origin : String) : Span.ofText .js (String.ofList s) origin = [] := by
  have hline : lineComments (elideStrings s) = [] := by
    refine List.filterMap_eq_nil_iff.2 fun line hl => ?_
    rw [Text.splitFirst_eq_none_of_notMem (c := '/') (by decide)
      (fun hc => h (Text.mem_of_mem_splitOnChar hl hc)), Option.map_none]
  have hblock : blockBodies (elideStrings s) = [] := by
    rw [blockBodies]
    split
    · rfl
    · next hs =>
      rw [Text.splitFirst_eq_none_of_notMem (c := '/') (by decide) h] at hs
      cases hs
  unfold Span.ofText
  simp only [String.toList_ofList, jsComments, hline, cssComments, hblock,
    List.map_nil, List.append_nil]

theorem slash_notMem_emptied (h : ∀ p ∈ ps, p.WellFormed) :
    '/' ∉ text (emptied ps) := by
  induction ps with
  | nil => exact List.not_mem_nil
  | cons p ps ih =>
      obtain ⟨hp, hps⟩ := List.forall_mem_cons.1 h
      cases p with
      | code s =>
          show '/' ∉ s ++ text (emptied ps)
          rw [List.mem_append]
          rintro (hs | hs)
          · exact hp '/' hs (by decide)
          · exact ih hps hs
      | literal q b =>
          have hmark : '/' ≠ q.mark := by cases q <;> decide
          show '/' ∉ q.mark :: q.mark :: text (emptied ps)
          rw [List.mem_cons, List.mem_cons]
          rintro (hq | hq | hs)
          · exact hmark hq
          · exact hmark hq
          · exact ih hps hs

theorem elided_iff (h : ∀ p ∈ ps, p.WellFormed) :
    Elided ps ↔ elideStrings (text ps) = text (emptied ps) := by
  constructor
  · exact And.right
  · intro he
    refine ⟨ofText_js_eq_nil ?_, he⟩
    rw [he]
    exact slash_notMem_emptied h

-- ================================================ when elision is right

theorem elided_of_contained (h : ∀ p ∈ ps, p.WellFormed)
    (hs : Contained .single ps) (hd : Contained .double (passed .single ps)) :
    Elided ps := by
  rw [elided_iff h]
  exact elideStrings_text (markFree_of_wellFormed h) ((faithful_iff h).2 ⟨hs, hd⟩)

/-- Literals without the marks of another sort are always elided
right. -/
theorem elided_of_unmixed (h : ∀ p ∈ ps, p.WellFormed)
    (hmarks : ∀ k b, Piece.literal k b ∈ ps → ∀ q, k ≠ q → q.mark ∉ b) :
    Elided ps := by
  refine elided_of_contained h ?_ ?_
  · exact contained_of_notMem fun k b hk hb => hmarks k b hb _ hk
  · refine contained_of_notMem fun k b hk hb => ?_
    obtain ⟨p, hp, hpb⟩ := List.mem_map.1 hb
    cases p with
    | code s => cases hpb
    | literal j c =>
        injection hpb with hj hc
        subst hj
        by_cases hsingle : j = .single
        · rw [if_pos hsingle] at hc
          rw [← hc]
          exact List.not_mem_nil
        · rw [if_neg hsingle, pass_of_notMem (hmarks j c hp _ hsingle)] at hc
          rw [← hc]
          exact hmarks j c hp _ hk

/-- Elision is right about a script exactly when its text can be cut,
around the same code, into literals that no pass leaks out of. The
literals that were meant are such a cut if the first pass does not leak
out of them, and neither does the second out of what the first has left;
and unless code ends in a backslash there is no other. -/
theorem elision_exact (h : ∀ p ∈ ps, p.WellFormed) :
    (Elided ps
        ↔ ∃ alt, emptied alt = emptied ps ∧ text alt = text ps ∧ Faithful alt)
      ∧ (Contained .single ps ∧ Contained .double (passed .single ps) → Elided ps)
      ∧ ((∀ p ∈ ps, p.NoTrailingBackslash) → Elided ps →
          Contained .single ps ∧ Contained .double (passed .single ps)) := by
  have hfree := markFree_of_wellFormed h
  have hiff : Elided ps
      ↔ ∃ alt, emptied alt = emptied ps ∧ text alt = text ps ∧ Faithful alt := by
    rw [elided_iff h]
    constructor
    · exact exists_faithful hfree
    · rintro ⟨alt, hsame, htext, hf⟩
      have halt : ∀ q, MarkFree q alt := by
        intro q
        refine .of_emptied ?_
        rw [hsame]
        exact (hfree q).emptied
      rw [← htext, elideStrings_text halt hf, hsame]
  refine ⟨hiff, ?_, ?_⟩
  · rintro ⟨hs, hd⟩
    exact elided_of_contained h hs hd
  · intro htrail he
    obtain ⟨alt, hsame, htext, hf⟩ := hiff.1 he
    rw [eq_of_text_eq h htrail hf.aligned hsame htext] at hf
    exact (faithful_iff h).1 hf

/-- An apostrophe without a partner does no harm. -/
theorem elision_of_apostrophe :
    let ps : List Piece := [.code "say(".toList,
      .literal .double ['i', 't', '\x27', 's', '/', '/'], .code ")".toList]
    (∀ p ∈ ps, p.WellFormed) ∧ Elided ps := by
  intro ps
  have h : ∀ p ∈ ps, p.WellFormed := by decide
  refine ⟨h, (elision_exact h).2.1 ⟨⟨fun _ => ?_, trivial⟩, ⟨fun hne => ?_, trivial⟩⟩⟩
  · cbv
  · exact absurd rfl hne

/-- An apostrophe finds its partner in another literal, and the slashes
there open a comment. -/
theorem elision_crossing :
    ¬ ∀ ps : List Piece, (∀ p ∈ ps, p.WellFormed) → Elided ps := by
  intro h
  let ps : List Piece := [.literal .double ['\x27'], .code " + ".toList,
    .literal .single ['/', '/']]
  have hfound : Span.ofText .js (String.ofList (text ps)) "page.js"
      = [⟨.js, String.ofList ['/', '/', '\x27'], "page.js"⟩] := by
    cbv
  have hnone := (h ps (by decide)).1 "page.js"
  rw [hfound] at hnone
  cases hnone

end Marginalia.Literal
