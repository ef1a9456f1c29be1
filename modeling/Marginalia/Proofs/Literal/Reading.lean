/-
How many ways there are to cut a text into pieces. Given the code and the
sorts of the literals, only the bodies are open, and for pieces as a
script may hold them there is no choice: reading from the left, every
literal ends at its first mark that is not escaped. A second cut may put
the end of a literal further to the right, so that its bodies need not
be bodies of literals at all; this file shows that it then runs past the
end of the text (`eq_of_text_eq`).

# Running ahead

Once a literal of the second cut ends too late, the cut is ahead of the
first one, and it stays ahead: the next literal of the second cut would
have to begin inside a literal of the first, at a mark that is escaped
there, or behind it. It cannot begin at an escaped mark, because what
stands before it is the end of a literal or some code, and neither is a
backslash. `text_ne_append_text` carries this along the pieces; what it
keeps about the text that the second cut is ahead by is that it is not
empty and does not end in a backslash. Code that ends in a backslash is
the one way in which a second cut can fall back into step.
-/
import Marginalia.Proofs.Literal.Piece

namespace Marginalia.Literal

/-- The body of a piece leaves no backslash pending. -/
def Piece.Aligned : Piece → Prop
  | .code _ => True
  | .literal _ b => pending false b = false

/-- A piece is not code that ends in a backslash. -/
def Piece.NoTrailingBackslash : Piece → Prop
  | .code s => s.getLast? ≠ some '\\'
  | .literal _ _ => True

variable {ps alt : List Piece}

-- ==================================================== the same pieces

theorem of_emptied_eq_nil (h : emptied alt = emptied []) : alt = [] :=
  List.map_eq_nil_iff.1 h

theorem of_emptied_eq_code {s : List Char} (h : emptied alt = emptied (.code s :: ps)) :
    ∃ more, alt = .code s :: more ∧ emptied more = emptied ps := by
  obtain ⟨p, more, rfl, hp, hmore⟩ := List.map_eq_cons_iff.1 h
  cases p with
  | code t =>
      injection hp with hp
      exact ⟨more, by rw [hp], hmore⟩
  | literal q b => cases hp

theorem of_emptied_eq_literal {q : Quote} {b : List Char}
    (h : emptied alt = emptied (.literal q b :: ps)) :
    ∃ b' more, alt = .literal q b' :: more ∧ emptied more = emptied ps := by
  obtain ⟨p, more, rfl, hp, hmore⟩ := List.map_eq_cons_iff.1 h
  cases p with
  | code t => cases hp
  | literal k b' =>
      injection hp with hp
      exact ⟨b', more, by rw [hp], hmore⟩

-- ======================================================= running ahead

theorem getLast?_ne_backslash {q : Quote} {z : List Char}
    (h : z.getLast? = some q.mark) : z.getLast? ≠ some '\\' := by
  rw [h]
  intro he
  exact q.mark_ne_backslash (Option.some.inj he)

/-- Literals keep the second cut ahead: whatever it was ahead by, it is
now ahead by a text that ends in a mark. -/
theorem ahead_of_literal {q : Quote} {u b' rest more : List Char}
    (h : q.mark :: rest = u ++ q.mark :: (b' ++ q.mark :: more)) :
    ∃ z, z.getLast? = some q.mark ∧ rest = z ++ more := by
  cases u with
  | nil =>
      refine ⟨b' ++ [q.mark], List.getLast?_concat, ?_⟩
      rw [(List.cons.inj h).2, List.append_assoc]
      rfl
  | cons c u =>
      have hrest : rest = u ++ q.mark :: (b' ++ q.mark :: more) := (List.cons.inj h).2
      refine ⟨u ++ q.mark :: b' ++ [q.mark], List.getLast?_concat, ?_⟩
      rw [hrest]
      simp only [List.append_assoc, List.cons_append, List.nil_append]

/-- A cut that is ahead never meets the end of the text. -/
theorem text_ne_append_text (hwf : ∀ p ∈ ps, p.WellFormed)
    (htrail : ∀ p ∈ ps, p.NoTrailingBackslash) (hsame : emptied alt = emptied ps)
    {z : List Char} (hz : z ≠ []) (hlast : z.getLast? ≠ some '\\') :
    text ps ≠ z ++ text alt := by
  induction ps generalizing alt z with
  | nil =>
      intro h
      exact hz (List.append_eq_nil_iff.1 h.symm).1
  | cons p ps ih =>
      obtain ⟨hp, hps⟩ := List.forall_mem_cons.1 hwf
      obtain ⟨tp, tps⟩ := List.forall_mem_cons.1 htrail
      intro h
      cases p with
      | code s =>
          -- both cuts go past the same code, the second one later
          obtain ⟨more, rfl, hmore⟩ := of_emptied_eq_code hsame
          have hrest : text ps = (z ++ s).drop s.length ++ text more := by
            have h := congrArg (List.drop s.length) h
            rw [text, text, List.drop_left, ← List.append_assoc,
              List.drop_append_of_le_length (by simp)] at h
            exact h
          have hlen : ¬ (z ++ s).length ≤ s.length := by
            have := List.length_pos_iff.2 hz
            rw [List.length_append]
            omega
          refine ih hps tps hmore ?_ ?_ hrest
          · intro hnil
            exact hlen (List.drop_eq_nil_iff.1 hnil)
          · rw [List.getLast?_drop, if_neg hlen, List.getLast?_append]
            cases hs : s.getLast? with
            | none => exact hlast
            | some c =>
                have tp : s.getLast? ≠ some '\\' := tp
                rw [hs] at tp
                exact tp
      | literal q b =>
          obtain ⟨b', more, rfl, hmore⟩ := of_emptied_eq_literal hsame
          have hstep : ∀ {u : List Char},
              q.mark :: text ps = u ++ q.mark :: (b' ++ q.mark :: text more) → False := by
            intro u hu
            obtain ⟨z', hz', hrest⟩ := ahead_of_literal hu
            refine ih hps tps hmore ?_ (getLast?_ne_backslash hz') hrest
            rintro rfl
            cases hz'
          have h : (q.mark :: b) ++ q.mark :: text ps
              = z ++ q.mark :: (b' ++ q.mark :: text more) := h
          rcases List.append_eq_append_iff.1 h with ⟨u, -, hu⟩ | ⟨u, hb, hu⟩
          · exact hstep hu
          · cases u with
            | nil => exact hstep (u := []) hu.symm
            | cons c u =>
                -- the next literal would begin inside this one
                obtain ⟨rfl, -⟩ := List.cons.inj hu
                obtain ⟨d, z, rfl⟩ := List.exists_cons_of_ne_nil hz
                obtain ⟨rfl, rfl⟩ := List.cons.inj hb
                have hpend := getLast?_of_pending (Body.pending_mark hp)
                rw [List.getLast?_cons, hpend] at hlast
                exact hlast rfl

-- ========================================================= uniqueness

/-- Pieces as a script may hold them are the only ones with their text,
their code and their sorts of literals. -/
theorem eq_of_text_eq (hwf : ∀ p ∈ ps, p.WellFormed)
    (htrail : ∀ p ∈ ps, p.NoTrailingBackslash) (halign : ∀ p ∈ alt, p.Aligned)
    (hsame : emptied alt = emptied ps) (htext : text alt = text ps) : alt = ps := by
  induction ps generalizing alt with
  | nil => exact of_emptied_eq_nil hsame
  | cons p ps ih =>
      obtain ⟨hp, hps⟩ := List.forall_mem_cons.1 hwf
      obtain ⟨tp, tps⟩ := List.forall_mem_cons.1 htrail
      cases p with
      | code s =>
          obtain ⟨more, rfl, hmore⟩ := of_emptied_eq_code hsame
          have halign := (List.forall_mem_cons.1 halign).2
          rw [ih hps tps halign hmore (List.append_cancel_left htext)]
      | literal q b =>
          obtain ⟨b', more, rfl, hmore⟩ := of_emptied_eq_literal hsame
          obtain ⟨hb', halign⟩ := List.forall_mem_cons.1 halign
          have hend : b' ++ q.mark :: text more = b ++ q.mark :: text ps :=
            (List.cons.inj htext).2
          have hdone : b' = b → q.mark :: text more = q.mark :: text ps →
              (.literal q b' :: more : List Piece) = .literal q b :: ps := by
            intro hb hrest
            rw [hb, ih hps tps halign hmore (List.cons.inj hrest).2]
          rcases List.append_eq_append_iff.1 hend with ⟨u, hu, hrest⟩ | ⟨u, hu, hrest⟩
          · cases u with
            | nil => exact hdone (by rw [hu, List.append_nil]) hrest
            | cons c u =>
                -- the literal would end at an escaped mark
                obtain ⟨rfl, -⟩ := List.cons.inj hrest
                rw [hu] at hp
                have hpend := Body.pending_mark hp
                rw [show pending false b' = false from hb'] at hpend
                cases hpend
          · cases u with
            | nil => exact hdone (by rw [hu, List.append_nil]) hrest.symm
            | cons c u =>
                -- the literal would end too late
                have hlate : text ps = (u ++ [q.mark]) ++ text more := by
                  rw [List.append_assoc]
                  exact (List.cons.inj hrest).2
                exact absurd hlate (text_ne_append_text hps tps hmore (by simp)
                  (getLast?_ne_backslash List.getLast?_concat))

end Marginalia.Literal
