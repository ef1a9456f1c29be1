/-
Comments on the wire. Writing a comment and reading it again never
fails and never changes its wire string, but it need not give the same
comment back: the reader cuts at the first origin separator, and that
need not be the one that the writer put there.

# Which texts survive

The reader finds an earlier separator in two cases only. Either the text
holds one, or the text ends with all of the separator but its last
space: then that text and the first space of the real separator are read
as a separator. No other ending can do it, since a space is the only
text that the separator both begins and ends with
(`prefix_dropLast_of_drop`). `decode_encode_eq_self_iff` says that these
two are the only texts that do not survive.
-/
import Marginalia.Comment.Basic
import Marginalia.Proofs.Text.Occurrence

namespace Marginalia.Comment

open Text

-- ========================================================= the label

/-- The label of a wire string is found again, whatever follows it. -/
theorem splitFirst_label (k : Kind) (s : List Char) :
    splitFirst labelSeparator.toList
        (k.label.toList ++ labelSeparator.toList ++ s)
      = some (k.label.toList, s) := by
  rw [splitFirst_append_iff (by decide)]
  cases k with
  | html => decide
  | css => decide
  | js => decide

theorem ofLabel?_label (k : Kind) :
    Kind.ofLabel? (String.ofList k.label.toList) = some k := by
  cases k with
  | html => rfl
  | css => rfl
  | js => rfl

-- ================================================== text and origin

/-- What follows the label in the wire string of a comment. -/
def body (c : Comment) : List Char :=
  c.text.toList ++ originSeparator.toList ++ c.origin.toList

theorem toList_encode (c : Comment) :
    c.encode.toList = c.kind.label.toList ++ labelSeparator.toList ++ c.body := by
  unfold encode body
  simp only [String.toList_append, List.append_assoc]

theorem encode_inj_of_body {c d : Comment} (hkind : c.kind = d.kind)
    (hbody : c.body = d.body) : c.encode = d.encode := by
  apply String.toList_injective
  rw [toList_encode, toList_encode, hkind, hbody]

/-- What comes back of a comment that is written and read once. -/
def reread (c : Comment) : Comment :=
  let (text, origin) := splitOrigin c.body
  ⟨c.kind, text, origin⟩

@[simp]
theorem kind_reread (c : Comment) : c.reread.kind = c.kind := rfl

/-- Reading what was written never fails. -/
theorem decode_encode (c : Comment) : decode c.encode = .ok c.reread := by
  unfold decode
  rw [toList_encode, splitFirst_label]
  simp only [ofLabel?_label]
  rfl

/-- What follows a label always holds a separator, so that the stand-in
origin is not needed. -/
theorem exists_splitFirst_body (c : Comment) :
    ∃ text origin, splitFirst originSeparator.toList c.body = some (text, origin) := by
  cases h : splitFirst originSeparator.toList c.body with
  | none =>
      rw [splitFirst_eq_none_iff] at h
      exact absurd ⟨c.text.toList, c.origin.toList, rfl⟩ h
  | some cut => exact ⟨cut.1, cut.2, rfl⟩

/-- The two parts that come back lie around a separator in the same
text as before. -/
theorem body_reread (c : Comment) : c.reread.body = c.body := by
  obtain ⟨text, origin, h⟩ := exists_splitFirst_body c
  have hparts : splitOrigin c.body = (String.ofList text, String.ofList origin) := by
    rw [splitOrigin, h]
  rw [eq_of_splitFirst h, body, reread, hparts]
  simp only [String.toList_ofList]

/-- However often a comment is written and read, its wire string stays
the same. -/
@[simp]
theorem encode_reread (c : Comment) : c.reread.encode = c.encode :=
  encode_inj_of_body (kind_reread c) (body_reread c)

-- ============================================ the texts that survive

theorem reread_eq_self_iff (c : Comment) :
    c.reread = c
      ↔ ¬ originSeparator.toList <:+: c.text.toList ++ originSeparator.toList.dropLast := by
  have hfirst : splitFirst originSeparator.toList c.body
        = some (c.text.toList, c.origin.toList)
      ↔ ¬ originSeparator.toList <:+: c.text.toList ++ originSeparator.toList.dropLast :=
    splitFirst_append_iff (by decide)
  obtain ⟨text, origin, h⟩ := exists_splitFirst_body c
  have hparts : c.reread = ⟨c.kind, String.ofList text, String.ofList origin⟩ := by
    rw [reread, splitOrigin, h]
  rw [← hfirst, hparts, h]
  constructor
  · intro hc
    rw [← hc]
    simp only [String.toList_ofList]
  · intro hcut
    injection hcut with hcut
    injection hcut with htext horigin
    rw [htext, horigin, String.ofList_toList, String.ofList_toList]

/-- What is left of the separator after `k` characters begins it again
only if nothing or one space is left. -/
theorem prefix_dropLast_of_drop : ∀ k < 12,
    originSeparator.toList.drop k <+: originSeparator.toList.dropLast →
      originSeparator.toList.take k = originSeparator.toList
        ∨ originSeparator.toList.take k = " | Source:".toList := by
  decide

/-- A separator that begins in a text and may end in the one after it
lies in the text, or the text ends with all of it but the last space. -/
theorem separator_infix_append_iff (s : List Char) :
    originSeparator.toList <:+: s ++ originSeparator.toList.dropLast
      ↔ originSeparator.toList <:+: s ∨ " | Source:".toList <:+ s := by
  have hshort : ¬ originSeparator.toList <:+: originSeparator.toList.dropLast := by
    decide
  rw [List.infix_append_iff]
  constructor
  · rintro (h | h | ⟨front, back, hsep, hfront, hback⟩)
    · exact Or.inl h
    · exact absurd h hshort
    · -- the occurrence straddles the end of the text
      have htake : originSeparator.toList.take front.length = front := by
        rw [hsep, List.take_left]
      have hdrop : originSeparator.toList.drop front.length = back := by
        rw [hsep, List.drop_left]
      have hlen : front.length < 12 := by
        have := congrArg List.length hsep
        rw [List.length_append, show originSeparator.toList.length = 11 from rfl] at this
        omega
      rw [← hdrop] at hback
      rcases prefix_dropLast_of_drop _ hlen hback with h | h
      · rw [← h, htake]
        exact Or.inl hfront.isInfix
      · rw [← h, htake]
        exact Or.inr hfront
  · rintro (h | h)
    · exact Or.inl h
    · exact Or.inr (Or.inr ⟨" | Source:".toList, [' '], rfl, h, by decide⟩)

/-- A text that ends with a separator up to its last space gives that space's
place to the separator behind it. -/
theorem splitFirst_body_of_suffix {c : Comment} {u : List Char}
    (htext : c.text.toList = u ++ " | Source:".toList)
    (hfree : ¬ originSeparator.toList <:+: c.text.toList) :
    splitFirst originSeparator.toList c.body
      = some (u, "| Source: ".toList ++ c.origin.toList) := by
  have hshift : " | Source:".toList ++ originSeparator.toList
      = originSeparator.toList ++ "| Source: ".toList := by decide
  have hbody : c.body
      = u ++ originSeparator.toList ++ ("| Source: ".toList ++ c.origin.toList) := by
    unfold body
    rw [htext, List.append_assoc u, hshift]
    simp only [List.append_assoc]
  rw [hbody, splitFirst_append_iff (by decide)]
  rw [htext] at hfree
  exact hfree

/-- What comes back as the origin has, apart from the characters of the
separator, those of the origin, and those behind the first separator in the
text if there is one. -/
theorem mem_origin_reread_iff (c : Comment) {x : Char} (hx : x ∉ originSeparator.toList) :
    x ∈ c.reread.origin.toList
      ↔ x ∈ c.origin.toList
        ∨ ∃ head tail, splitFirst originSeparator.toList c.text.toList = some (head, tail)
            ∧ x ∈ tail := by
  have hreread : ∀ {text origin : List Char},
      splitFirst originSeparator.toList c.body = some (text, origin) →
        c.reread.origin.toList = origin := by
    intro text origin h
    rw [reread, splitOrigin, h]
    exact String.toList_ofList
  cases hcut : splitFirst originSeparator.toList c.text.toList with
  | some cut =>
      obtain ⟨head, tail⟩ := cut
      have hbody : splitFirst originSeparator.toList c.body
          = some (head, tail ++ (originSeparator.toList ++ c.origin.toList)) := by
        unfold body
        rw [List.append_assoc]
        exact splitFirst_append (by decide) hcut _
      rw [hreread hbody, List.mem_append, List.mem_append, or_iff_right hx]
      simp [or_comm]
  | none =>
      have hfree := splitFirst_eq_none_iff.1 hcut
      by_cases hend : " | Source:".toList <:+ c.text.toList
      · -- the cut is one character early, and the rest of a separator comes along
        obtain ⟨u, hu⟩ := hend
        have hpart : x ∉ "| Source: ".toList := fun hpart =>
          hx ((by decide : "| Source: ".toList ⊆ originSeparator.toList) hpart)
        rw [hreread (splitFirst_body_of_suffix hu.symm hfree), List.mem_append,
          or_iff_right hpart]
        simp
      · have hsame : c.reread = c := by
          rw [reread_eq_self_iff, separator_infix_append_iff, not_or]
          exact ⟨hfree, hend⟩
        rw [hsame]
        simp

/-- Writing and reading a comment keeps its kind and its wire string. It
gives the comment itself back exactly when the text neither holds a
separator nor ends with the beginning of one up to its last space. -/
theorem decode_encode_eq_self_iff (kind : Kind) (text origin : String) :
    (∃ back, decode (encode ⟨kind, text, origin⟩) = .ok back ∧ back.kind = kind
        ∧ back.encode = encode ⟨kind, text, origin⟩)
      ∧ (decode (encode ⟨kind, text, origin⟩) = .ok ⟨kind, text, origin⟩
          ↔ ¬ originSeparator.toList <:+: text.toList
            ∧ ¬ " | Source:".toList <:+ text.toList) := by
  constructor
  · exact ⟨_, decode_encode _, kind_reread _, encode_reread _⟩
  · rw [decode_encode, Except.ok.injEq, reread_eq_self_iff, separator_infix_append_iff,
      not_or]

/-- Without a separator in it a text need not survive. -/
theorem separator_free_text_cut :
    ¬ ∀ (kind : Kind) (text origin : String),
      ¬ originSeparator.toList <:+: text.toList →
        decode (encode ⟨kind, text, origin⟩) = .ok ⟨kind, text, origin⟩ := by
  intro h
  have hcut : decode (encode ⟨.html, "a | Source:", "o"⟩)
      = .ok ⟨.html, "a", "| Source: o"⟩ := by decide
  have hsame := h .html "a | Source:" "o" (by decide)
  rw [hcut] at hsame
  revert hsame
  decide

end Marginalia.Comment
