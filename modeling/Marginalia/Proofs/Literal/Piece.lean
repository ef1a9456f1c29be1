/-
Scripts as they are meant: code with string literals in it. A script is
a list of pieces (`Piece`), and its text is what one gets by writing them
one after the other. Elision ought to take the body out of every literal
(`emptied`) and nothing else; what a single pass ought to do is take the
bodies out of the literals of its sort and treat every other literal by
itself (`passed`).

# One pass over pieces

`pass_text` says when a pass does what it ought to: the literals of its
sort have to be closed (`Closed`), and it must not leak out of a literal
of another sort (`Contained`). `exists_pieces_of_pass` is the converse: a
text that a pass turns into a list of pieces is itself a list of such
pieces, with other bodies, and the pass did what it ought to on these.
-/
import Marginalia.Proofs.Literal.Leak

namespace Marginalia.Literal

-- ======================================================== vocabulary

/-- A part of a script. -/
inductive Piece where
  | code (s : List Char)
  | literal (q : Quote) (body : List Char)
deriving DecidableEq, Repr

/-- The text of some pieces, one after the other. -/
def text : List Piece → List Char
  | [] => []
  | .code s :: more => s ++ text more
  | .literal q b :: more => q.mark :: (b ++ q.mark :: text more)

/-- A piece without its body, if it is a literal. -/
def Piece.emptied : Piece → Piece
  | .code s => .code s
  | .literal q _ => .literal q []

/-- The pieces with the bodies of all literals taken out. -/
def emptied (ps : List Piece) : List Piece :=
  ps.map Piece.emptied

/-- A piece after a pass that treats it by itself. -/
def Piece.passed (q : Quote) : Piece → Piece
  | .code s => .code s
  | .literal k b => .literal k (if k = q then [] else pass q b)

/-- The pieces after a pass that treats each by itself. -/
def passed (q : Quote) (ps : List Piece) : List Piece :=
  ps.map (Piece.passed q)

/-- The characters that may not stand in code: the marks and the
slash. -/
def special : List Char :=
  ['\x27', '\x22', '\x60', '/']

/-- A piece as a script may hold it. -/
def Piece.WellFormed : Piece → Prop
  | .code s => ∀ c ∈ s, c ∉ special
  | .literal q b => Body q b

instance : (p : Piece) → Decidable p.WellFormed
  | .code s => List.decidableBAll (· ∉ special) s
  | .literal q b => inferInstanceAs (Decidable (Body q b))

/-- A literal of a sort ends where a reader would end it. -/
def Piece.Closed (q : Quote) : Piece → Prop
  | .code _ => True
  | .literal k b => k = q → Body q b

/-- The literals of a sort are closed. -/
def Closed (q : Quote) (ps : List Piece) : Prop :=
  ∀ p ∈ ps, p.Closed q

/-- A pass does not leak out of a literal of another sort. -/
def Contained (q : Quote) : List Piece → Prop
  | [] => True
  | .code _ :: more => Contained q more
  | .literal k b :: more =>
    (k ≠ q → leaks q (k.mark :: text more) b = false) ∧ Contained q more

/-- A mark does not stand in code. -/
def Piece.MarkFree (q : Quote) : Piece → Prop
  | .code s => q.mark ∉ s
  | .literal _ _ => True

/-- The code in some pieces does not hold a mark. -/
def MarkFree (q : Quote) (ps : List Piece) : Prop :=
  ∀ p ∈ ps, p.MarkFree q

/-- The literals of a sort are empty. -/
def Piece.Hollow (q : Quote) : Piece → Prop
  | .code _ => True
  | .literal k b => k = q → b = []

/-- The literals of a sort are empty. -/
def Hollow (q : Quote) (ps : List Piece) : Prop :=
  ∀ p ∈ ps, p.Hollow q

variable {q k : Quote} {p : Piece} {ps qs : List Piece}

-- ============================================== what a pass leaves be

@[simp]
theorem emptied_passed (q : Quote) (ps : List Piece) :
    emptied (passed q ps) = emptied ps := by
  unfold emptied passed
  rw [List.map_map]
  refine List.map_congr_left fun p _ => ?_
  cases p with
  | code s => rfl
  | literal k b => rfl

/-- After a pass for every sort nothing is left of any body. -/
theorem passed_all (ps : List Piece) :
    passed .template (passed .double (passed .single ps)) = emptied ps := by
  unfold emptied passed
  rw [List.map_map, List.map_map]
  refine List.map_congr_left fun p _ => ?_
  cases p with
  | code s => rfl
  | literal k b =>
      cases k with
      | single => simp [Piece.passed, Piece.emptied]
      | double => simp [Piece.passed, Piece.emptied]
      | template => simp [Piece.passed, Piece.emptied]

theorem MarkFree.of_emptied (h : MarkFree q (emptied ps)) : MarkFree q ps := by
  intro p hp
  have h := h p.emptied (List.mem_map_of_mem hp)
  cases p with
  | code s => exact h
  | literal k b => trivial

theorem MarkFree.emptied (h : MarkFree q ps) : MarkFree q (emptied ps) := by
  intro p hp
  obtain ⟨p', hp', rfl⟩ := List.mem_map.1 hp
  have h := h p' hp'
  cases p' with
  | code s => exact h
  | literal k b => trivial

theorem MarkFree.of_passed (h : MarkFree k (passed q ps)) : MarkFree k ps := by
  refine .of_emptied ?_
  rw [← emptied_passed q ps]
  exact h.emptied

theorem MarkFree.passed (h : MarkFree k ps) (q : Quote) : MarkFree k (passed q ps) := by
  refine .of_emptied ?_
  rw [emptied_passed q ps]
  exact h.emptied

theorem hollow_emptied (q : Quote) (ps : List Piece) : Hollow q (emptied ps) := by
  intro p hp
  obtain ⟨p', -, rfl⟩ := List.mem_map.1 hp
  cases p' with
  | code s => trivial
  | literal k b => exact fun _ => rfl

/-- A pass for another sort fills no empty literal. -/
theorem Hollow.of_passed (hk : k ≠ q) (h : Hollow k (passed q ps)) : Hollow k ps := by
  intro p hp
  have h := h (p.passed q) (List.mem_map_of_mem hp)
  cases p with
  | code s => trivial
  | literal j b =>
      intro hj
      have hb := h hj
      rw [if_neg (hj ▸ hk)] at hb
      exact eq_nil_of_pass_eq_nil hb

theorem Piece.WellFormed.markFree (h : p.WellFormed) (q : Quote) : p.MarkFree q := by
  cases p with
  | code s =>
      intro hq
      exact h _ hq (by cases q <;> decide)
  | literal k b => trivial

theorem markFree_of_wellFormed (h : ∀ p ∈ ps, p.WellFormed) (q : Quote) :
    MarkFree q ps :=
  fun p hp => (h p hp).markFree q

-- ================================================ a pass over pieces

theorem pass_text (hfree : MarkFree q ps) (hclosed : Closed q ps)
    (hcont : Contained q ps) : pass q (text ps) = text (passed q ps) := by
  induction ps with
  | nil => exact pass_nil q
  | cons p ps ih =>
      obtain ⟨hp, hps⟩ := List.forall_mem_cons.1 hfree
      obtain ⟨cp, cps⟩ := List.forall_mem_cons.1 hclosed
      cases p with
      | code s =>
          show pass q (s ++ text ps) = s ++ text (passed q ps)
          rw [pass_append_of_notMem hp, ih hps cps hcont]
      | literal k b =>
          have ih := ih hps cps hcont.2
          show pass q (k.mark :: (b ++ k.mark :: text ps))
            = k.mark :: ((if k = q then [] else pass q b)
                ++ k.mark :: text (passed q ps))
          by_cases hk : k = q
          · subst hk
            rw [if_pos rfl, pass_literal (cp rfl), ih, List.nil_append]
          · have hmark : k.mark ≠ q.mark := fun he => hk (Quote.mark_inj.1 he)
            rw [if_neg hk, pass_cons hmark, pass_append (hcont.1 hk), pass_cons hmark,
              ih]

/-- A text that a pass turns into pieces with empty literals of its sort
is made of such pieces, and the pass treated each by itself. -/
theorem exists_pieces_of_pass {s : List Char} (hfree : MarkFree q qs)
    (hhollow : Hollow q qs) (h : pass q s = text qs) :
    ∃ ps, text ps = s ∧ passed q ps = qs ∧ Closed q ps ∧ Contained q ps := by
  induction qs generalizing s with
  | nil =>
      rw [eq_nil_of_pass_eq_nil h]
      exact ⟨[], rfl, rfl, List.forall_mem_nil _, trivial⟩
  | cons p qs ih =>
      obtain ⟨fp, fqs⟩ := List.forall_mem_cons.1 hfree
      obtain ⟨hp, hqs⟩ := List.forall_mem_cons.1 hhollow
      cases p with
      | code u =>
          obtain ⟨r, rfl, hr⟩ := of_pass_eq_append fp h
          obtain ⟨ps, rfl, rfl, hclosed, hcont⟩ := ih fqs hqs hr
          exact ⟨.code u :: ps, rfl, rfl,
            List.forall_mem_cons.2 ⟨trivial, hclosed⟩, hcont⟩
      | literal k b =>
          by_cases hk : k = q
          · subst hk
            rw [hp rfl] at h
            obtain ⟨y, rest, hy, rfl, hrest⟩ := of_pass_eq_marks h
            obtain ⟨ps, rfl, rfl, hclosed, hcont⟩ := ih fqs hqs hrest
            refine ⟨.literal k y :: ps, rfl, ?_,
              List.forall_mem_cons.2 ⟨fun _ => hy, hclosed⟩,
              fun hne => absurd rfl hne, hcont⟩
            show Piece.literal k (if k = k then [] else pass k y) :: passed k ps = _
            rw [if_pos rfl, hp rfl]
          · have hmark : k.mark ≠ q.mark := fun he => hk (Quote.mark_inj.1 he)
            obtain ⟨r, rfl, hr⟩ := of_pass_eq_cons hmark h
            obtain ⟨b', r, rfl, rfl, hleak, hr⟩ := of_pass_eq_body hk hr
            obtain ⟨ps, rfl, rfl, hclosed, hcont⟩ := ih fqs hqs hr
            refine ⟨.literal k b' :: ps, rfl, ?_,
              List.forall_mem_cons.2 ⟨fun he => absurd he hk, hclosed⟩,
              fun _ => hleak, hcont⟩
            show Piece.literal k (if k = q then [] else pass q b') :: passed q ps = _
            rw [if_neg hk]

end Marginalia.Literal
