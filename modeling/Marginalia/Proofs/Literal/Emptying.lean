/-
What elision does to an arbitrary text. Whatever the quotes in a text mean,
a run of the three passes cuts it into pieces: the literals that were
emptied, and single characters that were left alone (`exists_pieces`). The
text that comes out is the pieces with the bodies of the literals taken
out, so that every part of it comes from a part of the source.

# One cut for three passes

Each pass reads the text that the pass before it has left. A literal that
it empties may hold the two marks of a literal that has been emptied
already, and its body is then a stretch of the source with that literal's
body in it. For this the pieces have to be cut where the literal begins and
ends (`exists_append`). A cut can miss the pieces only by falling between
the two marks of an emptied literal, and the marks of another sort never
leave room for that.
-/
import Marginalia.Proofs.Literal.Piece

namespace Marginalia.Literal

open Extract

/-- A piece of code is a single character. -/
def Piece.Single : Piece → Prop
  | .code s => s.length = 1
  | .literal _ _ => True

/-- A cut between two texts may fall between the marks of an emptied literal
of a sort. -/
def Severs (k : Quote) (a b : List Char) : Prop :=
  a.getLast? = some k.mark ∧ b.head? = some k.mark

variable {q : Quote} {p : Piece} {ps qs : List Piece} {a b : List Char}

-- ============================================================== pieces

theorem text_append (ps qs : List Piece) : text (ps ++ qs) = text ps ++ text qs := by
  induction ps with
  | nil => rfl
  | cons p ps ih =>
      cases p with
      | code s =>
          show s ++ text (ps ++ qs) = s ++ text ps ++ text qs
          rw [ih, List.append_assoc]
      | literal q b =>
          show q.mark :: (b ++ q.mark :: text (ps ++ qs))
            = q.mark :: (b ++ q.mark :: text ps) ++ text qs
          rw [ih, List.cons_append, List.append_assoc, List.cons_append]

theorem emptied_append (ps qs : List Piece) :
    emptied (ps ++ qs) = emptied ps ++ emptied qs :=
  List.map_append

theorem length_text_emptied_le (ps : List Piece) :
    (text (emptied ps)).length ≤ (text ps).length := by
  induction ps with
  | nil => exact Nat.le_refl _
  | cons p ps ih =>
      cases p with
      | code s =>
          show (s ++ text (emptied ps)).length ≤ (s ++ text ps).length
          rw [List.length_append, List.length_append]
          omega
      | literal q b =>
          show (q.mark :: q.mark :: text (emptied ps)).length
            ≤ (q.mark :: (b ++ q.mark :: text ps)).length
          simp only [List.length_cons, List.length_append]
          omega

/-- Emptying changes a text exactly if there is something in a literal. -/
theorem text_emptied_eq_iff : text (emptied ps) = text ps ↔ ∀ q, Hollow q ps := by
  induction ps with
  | nil => exact ⟨fun _ _ => List.forall_mem_nil _, fun _ => rfl⟩
  | cons p ps ih =>
      have hcons : (∀ q, Hollow q (p :: ps)) ↔ (∀ q, p.Hollow q) ∧ ∀ q, Hollow q ps := by
        rw [← forall_and]
        exact forall_congr' fun q => List.forall_mem_cons
      rw [hcons, ← ih]
      cases p with
      | code s =>
          have hcode : ∀ q, (Piece.code s).Hollow q := fun _ => trivial
          show s ++ text (emptied ps) = s ++ text ps ↔ _
          rw [List.append_cancel_left_eq, and_iff_right hcode]
      | literal k b =>
          have hbody : (∀ q, (Piece.literal k b).Hollow q) ↔ b = [] :=
            ⟨fun h => h k rfl, fun h _ _ => h⟩
          show k.mark :: k.mark :: text (emptied ps) = k.mark :: (b ++ k.mark :: text ps) ↔ _
          rw [hbody]
          constructor
          · intro h
            have hlength := congrArg List.length h
            have hle := length_text_emptied_le ps
            simp only [List.length_cons, List.length_append] at hlength
            have hb : b = [] := List.length_eq_zero_iff.1 (by omega)
            subst hb
            exact ⟨rfl, (List.cons.inj (List.cons.inj h).2).2⟩
          · rintro ⟨rfl, h⟩
            rw [h, List.nil_append]

/-- Pieces can be cut where their emptied text is cut, unless the cut falls
between the marks of a literal. -/
theorem exists_append (hsingle : ∀ p ∈ ps, p.Single)
    (hsevers : ∀ k c, Piece.literal k c ∈ ps → ¬ Severs k a b)
    (h : text (emptied ps) = a ++ b) :
    ∃ front back, ps = front ++ back ∧ text (emptied front) = a
      ∧ text (emptied back) = b := by
  induction ps generalizing a with
  | nil =>
      obtain ⟨ha, hb⟩ := List.append_eq_nil_iff.1 h.symm
      exact ⟨[], [], rfl, ha.symm, hb.symm⟩
  | cons p ps ih =>
      obtain ⟨hp, hps⟩ := List.forall_mem_cons.1 hsingle
      cases a with
      | nil => exact ⟨[], p :: ps, rfl, rfl, h⟩
      | cons d a =>
          cases p with
          | code s =>
              obtain ⟨c, rfl⟩ := List.length_eq_one_iff.1 hp
              obtain ⟨rfl, hrest⟩ := List.cons.inj h
              have hcut : ∀ k c', Piece.literal k c' ∈ ps → ¬ Severs k a b := by
                rintro k c' hk ⟨hlast, hhead⟩
                refine hsevers k c' (List.mem_cons_of_mem _ hk) ⟨?_, hhead⟩
                rw [List.getLast?_cons, hlast]
                rfl
              obtain ⟨front, back, rfl, rfl, hback⟩ := ih hps hcut hrest
              exact ⟨.code [c] :: front, back, rfl, rfl, hback⟩
          | literal k c =>
              have h : k.mark :: k.mark :: text (emptied ps) = d :: (a ++ b) := h
              obtain ⟨rfl, hrest⟩ := List.cons.inj h
              cases a with
              | nil =>
                  -- the cut falls between the marks
                  have hb : k.mark :: text (emptied ps) = b := hrest
                  exact absurd ⟨rfl, by rw [← hb]; rfl⟩ (hsevers k c List.mem_cons_self)
              | cons e a =>
                  obtain ⟨rfl, hmore⟩ := List.cons.inj hrest
                  have hcut : ∀ k' c', Piece.literal k' c' ∈ ps → ¬ Severs k' a b := by
                    rintro k' c' hk ⟨hlast, hhead⟩
                    refine hsevers k' c' (List.mem_cons_of_mem _ hk) ⟨?_, hhead⟩
                    rw [List.getLast?_cons, List.getLast?_cons, hlast]
                    rfl
                  obtain ⟨front, back, rfl, rfl, hback⟩ := ih hps hcut hmore
                  exact ⟨.literal k c :: front, back, rfl, rfl, hback⟩

-- ============================================================== passes

/-- What a pass makes of pieces: `next` are pieces of the same source, and
their emptied text is what the pass leaves of the emptied text. -/
structure Refines (q : Quote) (ps next : List Piece) : Prop where
  single : ∀ p ∈ next, p.Single
  source : text next = text ps
  left : text (emptied next) = pass q (text (emptied ps))
  sorts : ∀ k b, Piece.literal k b ∈ next → k = q ∨ ∃ b', Piece.literal k b' ∈ ps

namespace Refines

variable {next front back : List Piece} {c : Char} {k : Quote} {y : List Char}

theorem nil (q : Quote) : Refines q [] [] where
  single := List.forall_mem_nil _
  source := rfl
  left := (pass_nil q).symm
  sorts _ _ h := absurd h List.not_mem_nil

/-- The sorts of literals if a piece is kept. -/
theorem sorts_cons (h : Refines q ps next) (p : Piece) :
    ∀ k b, Piece.literal k b ∈ p :: next → k = q ∨ ∃ b', Piece.literal k b' ∈ p :: ps := by
  intro k b hk
  rcases List.mem_cons.1 hk with rfl | hk
  · exact Or.inr ⟨b, List.mem_cons_self⟩
  · rcases h.sorts k b hk with hq | ⟨b', hb'⟩
    · exact Or.inl hq
    · exact Or.inr ⟨b', List.mem_cons_of_mem p hb'⟩

theorem code (hc : c ≠ q.mark) (h : Refines q ps next) :
    Refines q (.code [c] :: ps) (.code [c] :: next) where
  single := List.forall_mem_cons.2 ⟨rfl, h.single⟩
  source := congrArg (c :: ·) h.source
  left := by
    show c :: text (emptied next) = pass q (c :: text (emptied ps))
    rw [pass_cons hc, h.left]
  sorts := h.sorts_cons _

theorem unclosed (hopen : Unclosed q (text (emptied ps))) (h : Refines q ps next) :
    Refines q (.code [q.mark] :: ps) (.code [q.mark] :: next) where
  single := List.forall_mem_cons.2 ⟨rfl, h.single⟩
  source := congrArg (q.mark :: ·) h.source
  left := by
    show q.mark :: text (emptied next) = pass q (q.mark :: text (emptied ps))
    rw [pass_unclosed hopen, h.left]
  sorts := h.sorts_cons _

theorem other (hk : k ≠ q) (h : Refines q ps next) :
    Refines q (.literal k y :: ps) (.literal k y :: next) where
  single := List.forall_mem_cons.2 ⟨trivial, h.single⟩
  source := by
    show k.mark :: (y ++ k.mark :: text next) = k.mark :: (y ++ k.mark :: text ps)
    rw [h.source]
  left := by
    have hmark : k.mark ≠ q.mark := fun he => hk (Quote.mark_inj.1 he)
    show k.mark :: k.mark :: text (emptied next) = pass q (k.mark :: k.mark :: text (emptied ps))
    rw [pass_cons hmark, pass_cons hmark, h.left]
  sorts := h.sorts_cons _

/-- The pieces between two marks become the body of one literal. -/
theorem literal (hbody : Body q (text (emptied front))) (h : Refines q back next) :
    Refines q (.code [q.mark] :: (front ++ .code [q.mark] :: back))
      (.literal q (text front) :: next) where
  single := List.forall_mem_cons.2 ⟨trivial, h.single⟩
  source := by
    show q.mark :: (text front ++ q.mark :: text next)
      = q.mark :: text (front ++ .code [q.mark] :: back)
    rw [text_append, h.source]
    rfl
  left := by
    show q.mark :: q.mark :: text (emptied next)
      = pass q (q.mark :: text (emptied (front ++ .code [q.mark] :: back)))
    rw [emptied_append, text_append, h.left]
    exact (pass_literal hbody _).symm
  sorts := by
    intro k b hk
    rcases List.mem_cons.1 hk with hk | hk
    · injection hk with hk
      exact Or.inl hk
    · rcases h.sorts k b hk with hq | ⟨b', hb'⟩
      · exact Or.inl hq
      · exact Or.inr ⟨b', by simp [hb']⟩

end Refines

/-- Where no literal of a sort has been emptied, its mark is a piece of
code. -/
theorem of_text_emptied_eq_mark {rest : List Char} (hsingle : ∀ p ∈ ps, p.Single)
    (hother : ∀ k b, Piece.literal k b ∈ ps → k ≠ q)
    (h : text (emptied ps) = q.mark :: rest) :
    ∃ more, ps = .code [q.mark] :: more ∧ text (emptied more) = rest := by
  cases ps with
  | nil => cases h
  | cons p ps =>
      cases p with
      | code s =>
          obtain ⟨c, rfl⟩ := List.length_eq_one_iff.1 (hsingle _ List.mem_cons_self)
          obtain ⟨rfl, hrest⟩ := List.cons.inj h
          exact ⟨ps, rfl, hrest⟩
      | literal k b =>
          have hmark := Quote.mark_inj.1 (List.cons.inj h).1
          exact absurd hmark (hother k b List.mem_cons_self)

/-- A pass for a sort of which nothing has been emptied yet makes pieces of
pieces. -/
theorem exists_refines (hsingle : ∀ p ∈ ps, p.Single)
    (hother : ∀ k b, Piece.literal k b ∈ ps → k ≠ q) : ∃ next, Refines q ps next := by
  induction hn : ps.length using Nat.strongRecOn generalizing ps with
  | ind n ih =>
      cases ps with
      | nil => exact ⟨[], .nil q⟩
      | cons p ps =>
          obtain ⟨hp, hps⟩ := List.forall_mem_cons.1 hsingle
          rw [List.length_cons] at hn
          have hothers : ∀ k b, Piece.literal k b ∈ ps → k ≠ q :=
            fun k b hk => hother k b (List.mem_cons_of_mem p hk)
          obtain ⟨next, hnext⟩ := ih _ (by omega) hps hothers rfl
          cases p with
          | literal k b => exact ⟨_, hnext.other (hother k b List.mem_cons_self)⟩
          | code s =>
              obtain ⟨c, rfl⟩ := List.length_eq_one_iff.1 hp
              by_cases hc : c = q.mark
              case neg => exact ⟨_, hnext.code hc⟩
              subst hc
              cases hend : afterLiteral? q.delimiter (text (emptied ps)) with
              | none => exact ⟨_, hnext.unclosed (unclosed_iff.2 hend)⟩
              | some rest =>
                  obtain ⟨y, hy, hcut⟩ := afterLiteral?_eq_some_iff.1 hend
                  -- the closing mark is of a new sort, so the cut severs no literal
                  have hsevers : ∀ k b, Piece.literal k b ∈ ps →
                      ¬ Severs k y (q.mark :: rest) := by
                    rintro k b hk ⟨-, hhead⟩
                    exact hothers k b hk (Quote.mark_inj.1 (Option.some.inj hhead)).symm
                  obtain ⟨front, back, rfl, rfl, hback⟩ := exists_append hps hsevers hcut
                  obtain ⟨back, rfl, -⟩ := of_text_emptied_eq_mark
                    (fun p hp => hps p (List.mem_append_right _ hp))
                    (fun k b hk => hothers k b (List.mem_append_right _ hk)) hback
                  rw [List.length_append, List.length_cons] at hn
                  obtain ⟨rest, hrest⟩ := ih back.length (by omega)
                    (fun p hp => hps p (by simp [hp])) (fun k b hk => hothers k b (by simp [hk]))
                    rfl
                  exact ⟨_, hrest.literal hy⟩

/-- Elision cuts every text into pieces and leaves the pieces with their
literals empty. -/
theorem exists_pieces (s : List Char) :
    ∃ ps : List Piece, (∀ p ∈ ps, p.Single) ∧ text ps = s
      ∧ text (emptied ps) = elideStrings s := by
  let start : List Piece := s.map fun c => .code [c]
  have htext : text start = s := by
    induction s with
    | nil => rfl
    | cons c s ih => exact congrArg (c :: ·) ih
  have hsingle : ∀ p ∈ start, p.Single := List.forall_mem_map.2 fun _ _ => rfl
  have hcode : ∀ k b, Piece.literal k b ∉ start := by
    intro k b hk
    obtain ⟨c, -, hc⟩ := List.mem_map.1 hk
    cases hc
  obtain ⟨first, hfirst⟩ := exists_refines (q := .single) hsingle
    fun k b hk => absurd hk (hcode k b)
  have hsingles : ∀ k b, Piece.literal k b ∈ first → k = .single := by
    intro k b hk
    rcases hfirst.sorts k b hk with hq | ⟨b', hb'⟩
    · exact hq
    · exact absurd hb' (hcode k b')
  obtain ⟨second, hsecond⟩ := exists_refines (q := .double) hfirst.single
    fun k b hk => by rw [hsingles k b hk]; decide
  have hquotes : ∀ k b, Piece.literal k b ∈ second → k ≠ .template := by
    intro k b hk
    rcases hsecond.sorts k b hk with hq | ⟨b', hb'⟩
    · rw [hq]
      decide
    · rw [hsingles k b' hb']
      decide
  obtain ⟨third, hthird⟩ := exists_refines hsecond.single hquotes
  have hstart : text (emptied start) = text start :=
    text_emptied_eq_iff.2 fun _ => List.forall_mem_map.2 fun _ _ => trivial
  refine ⟨third, hthird.single, ?_, ?_⟩
  · rw [hthird.source, hsecond.source, hfirst.source, htext]
  · rw [elideStrings_eq_passes, hthird.left, hsecond.left, hfirst.left, hstart, htext]

end Marginalia.Literal
