/-
The grammar of block comments. A text with block comments in it is a
sequence of gaps and comments that ends with a gap; `BlockCut` is such a
sequence. No gap before a comment holds an opener and no comment's body
holds a closer, so that each comment begins and ends as early as it can,
and the last gap has no place where another comment could both begin and
end.

# One cut for each text

`BlockCut.text_bijective` says that every text can be cut in exactly one
way. Existence is the induction `block_induction`, one comment at a time.
Uniqueness rests on the opener and the closer each being two different
marks: an occurrence of such a separator cannot begin in what stands
before another one and end in it (`splitFirst_pair_iff`), so that to look
through a gap alone is enough to know that the opener after it is the
first.

`blockBodies_text` then says that the search for comments finds the
bodies of the cut, neither more nor fewer nor in another order.
-/
import Marginalia.Extract.Block
import Marginalia.Proofs.Text.Occurrence

namespace Marginalia.Extract

open Text

-- ============================================================== cuts

/-- No comment begins and ends in the text: it has no opener, or no
closer after its first one. -/
def NoBlock (s : List Char) : Prop :=
  ¬ blockOpen <:+: s
    ∨ ∃ gap after, s = gap ++ blockOpen ++ after ∧ ¬ blockOpen <:+: gap
        ∧ ¬ blockClose <:+: after

/-- A text cut into block comments and what stands between them. -/
inductive BlockCut where
  | last (gap : List Char) (noBlock : NoBlock gap)
  | comment (gap body : List Char) (gap_free : ¬ blockOpen <:+: gap)
      (body_free : ¬ blockClose <:+: body) (rest : BlockCut)

namespace BlockCut

/-- The text that is cut. -/
def text : BlockCut → List Char
  | last gap _ => gap
  | comment gap body _ _ rest => gap ++ blockAround body ++ rest.text

/-- The bodies of the comments, in order. -/
def bodies : BlockCut → List (List Char)
  | last _ _ => []
  | comment _ body _ _ rest => body :: rest.bodies

end BlockCut

-- ========================================================== one step

variable {gap body rest : List Char}

/-- What follows the first opener. -/
theorem splitFirst_blockOpen (hgap : ¬ blockOpen <:+: gap) (after : List Char) :
    splitFirst blockOpen (gap ++ blockOpen ++ after) = some (gap, after) :=
  (splitFirst_pair_iff (by decide)).2 ⟨rfl, hgap⟩

/-- What follows the first closer. -/
theorem splitFirst_blockClose (hbody : ¬ blockClose <:+: body) (rest : List Char) :
    splitFirst blockClose (body ++ blockClose ++ rest) = some (body, rest) :=
  (splitFirst_pair_iff (by decide)).2 ⟨rfl, hbody⟩

theorem comment_append (gap body rest : List Char) :
    gap ++ blockAround body ++ rest
      = gap ++ blockOpen ++ (body ++ blockClose ++ rest) := by
  simp only [blockAround, List.append_assoc]

theorem blockBodies_comment (hgap : ¬ blockOpen <:+: gap) (hbody : ¬ blockClose <:+: body) :
    blockBodies (gap ++ blockAround body ++ rest) = body :: blockBodies rest := by
  have hopened := splitFirst_blockOpen hgap (body ++ blockClose ++ rest)
  have hclosed := splitFirst_blockClose hbody rest
  rw [comment_append, blockBodies]
  split
  · next h => rw [hopened] at h; cases h
  · next before found h =>
    rw [hopened] at h
    injection h with h
    injection h with _ hfound
    subst hfound
    split
    · next h => rw [hclosed] at h; cases h
    · next inner more h =>
      rw [hclosed] at h
      injection h with h
      injection h with hinner hmore
      rw [hinner, hmore]

theorem blockBodies_of_noBlock (h : NoBlock gap) : blockBodies gap = [] := by
  rw [blockBodies]
  split
  · rfl
  · next before found hopened =>
    split
    · rfl
    · next inner more hclosed =>
      have hs := eq_of_splitFirst hopened
      have hfound := eq_of_splitFirst hclosed
      rcases h with hnone | ⟨front, after, hcut, hfront, hafter⟩
      · exact absurd ⟨before, found, hs.symm⟩ hnone
      · -- the first opener is the same, and there was no closer after it
        rw [hcut, splitFirst_blockOpen hfront] at hopened
        injection hopened with hopened
        injection hopened with _ hsame
        exact absurd ⟨inner, more, (hsame.trans hfound).symm⟩ hafter

/-- Induction along the comments of a text. -/
theorem block_induction {motive : List Char → Prop}
    (last : ∀ gap, NoBlock gap → motive gap)
    (comment : ∀ gap body rest, ¬ blockOpen <:+: gap → ¬ blockClose <:+: body →
      motive rest → motive (gap ++ blockAround body ++ rest)) :
    ∀ s, motive s := by
  intro s
  induction hn : s.length using Nat.strongRecOn generalizing s with
  | ind n ih =>
      cases hopened : splitFirst blockOpen s with
      | none => exact last s (Or.inl (splitFirst_eq_none_iff.1 hopened))
      | some cut =>
          obtain ⟨gap, after⟩ := cut
          obtain ⟨hs, hgap⟩ := (splitFirst_pair_iff (by decide)).1 hopened
          cases hclosed : splitFirst blockClose after with
          | none =>
              have hafter := splitFirst_eq_none_iff.1 hclosed
              exact last s (Or.inr ⟨gap, after, hs, hgap, hafter⟩)
          | some cut =>
              obtain ⟨body, rest⟩ := cut
              obtain ⟨hafter, hbody⟩ := (splitFirst_pair_iff (by decide)).1 hclosed
              have hwhole : s = gap ++ blockAround body ++ rest := by
                rw [comment_append, hs, hafter]
                rfl
              have hshorter : rest.length < n := by
                rw [← hn, hwhole]
                simp only [blockAround, blockOpen, blockClose, List.length_append,
                  List.length_cons]
                omega
              rw [hwhole]
              exact comment gap body rest hgap hbody (ih _ hshorter rest rfl)

-- ======================================================= every text

namespace BlockCut

theorem text_surjective : Function.Surjective text := by
  intro s
  induction s using block_induction with
  | last gap h => exact ⟨last gap h, rfl⟩
  | comment gap body rest hgap hbody ih =>
      obtain ⟨cut, hcut⟩ := ih
      refine ⟨comment gap body hgap hbody cut, ?_⟩
      rw [text, hcut]

/-- A text that begins with a comment after a gap is no last gap. -/
theorem not_noBlock_comment (hgap : ¬ blockOpen <:+: gap) :
    ¬ NoBlock (gap ++ blockAround body ++ rest) := by
  rw [comment_append]
  rintro (h | ⟨front, after, hcut, hfront, hafter⟩)
  · exact h ⟨gap, _, rfl⟩
  · have hfirst := splitFirst_blockOpen hgap (body ++ blockClose ++ rest)
    rw [hcut, splitFirst_blockOpen hfront] at hfirst
    injection hfirst with hfirst
    injection hfirst with _ hsame
    exact hafter ⟨body, rest, hsame.symm⟩

/-- Two cuts of one text are the same. -/
theorem text_injective : Function.Injective text := by
  intro a b h
  induction a generalizing b with
  | last gap hnone =>
      cases b with
      | last gap' hnone' =>
          rw [text, text] at h
          subst h
          rfl
      | comment gap' body' hgap' hbody' rest' =>
          rw [text, text] at h
          rw [h] at hnone
          exact absurd hnone (not_noBlock_comment hgap')
  | comment gap body hgap hbody rest ih =>
      cases b with
      | last gap' hnone' =>
          rw [text, text] at h
          rw [← h] at hnone'
          exact absurd hnone' (not_noBlock_comment hgap)
      | comment gap' body' hgap' hbody' rest' =>
          -- the first openers agree, then the first closers after them
          rw [text, text, comment_append, comment_append] at h
          have hopened := congrArg (splitFirst blockOpen) h
          rw [splitFirst_blockOpen hgap, splitFirst_blockOpen hgap', Option.some.injEq,
            Prod.mk.injEq] at hopened
          obtain ⟨rfl, hafter⟩ := hopened
          have hclosed := congrArg (splitFirst blockClose) hafter
          rw [splitFirst_blockClose hbody, splitFirst_blockClose hbody', Option.some.injEq,
            Prod.mk.injEq] at hclosed
          obtain ⟨rfl, hrest⟩ := hclosed
          rw [ih hrest]

/-- Every text can be cut into block comments and gaps in exactly one
way. -/
theorem text_bijective : Function.Bijective text :=
  ⟨text_injective, text_surjective⟩

end BlockCut

/-- The search for comments finds those of the cut. -/
theorem blockBodies_text (cut : BlockCut) : blockBodies cut.text = cut.bodies := by
  induction cut with
  | last gap h => exact blockBodies_of_noBlock h
  | comment gap body hgap hbody rest ih =>
      rw [BlockCut.text, blockBodies_comment hgap hbody, ih, BlockCut.bodies]

-- an opener is no closer, and the last opener is never closed
example : blockBodies "/*/ a */ x //* b /* */ /* c".toList
    = ["/ a ".toList, " b /* ".toList] := by cbv

end Marginalia.Extract
