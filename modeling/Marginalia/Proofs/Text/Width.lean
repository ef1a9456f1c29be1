/-
Where the width of a text can be taken apart. A text is as wide as its
clusters are together, and a cluster is found by looking ahead: what comes
after a character can join it, narrow it or fuse with it. A space does none of
this, and nothing joins a space. So every function that looks ahead sees a
space as it sees the end of the text, and the width of a text that is cut at a
space is the sum of the widths (`width_append_space`).
-/
import Mathlib.Data.List.TakeWhile
import Marginalia.Text.Width

namespace Marginalia.Text

variable {c : Char} {r : List Char} {n k : Nat}

-- ============================================================== emoji

theorem emojiTail?_append_space (c : Char) (r t : List Char) :
    emojiTail? c (r ++ ' ' :: t) = emojiTail? c r := by
  rcases r with - | ⟨d, - | ⟨e, more⟩⟩
  · simp [emojiTail?, isEmojiModifier]
  · simp [emojiTail?]
  · rfl

/-- What belongs to an emoji stands in the text. -/
theorem le_of_emojiTail? (h : emojiTail? c r = some k) : k ≤ r.length := by
  unfold emojiTail? at h
  split at h
  · split at h
    · split at h
      · injection h with h
        split at h
        · simp
          omega
        · simp
          omega
      · injection h with h
        simp [← h]
    · split at h
      · injection h with h
        simp [← h]
      · split at h
        · injection h with h
          simp [← h]
        · cases h
  · split at h
    · injection h with h
      simp [← h]
    · cases h

theorem inRanges_emojiPresentationRanges_space :
    inRanges emojiPresentationRanges ' ' = false := by decide +kernel

/-- A space begins no emoji. -/
theorem emojiTail?_space (t : List Char) : emojiTail? ' ' t = none := by
  have hvariation : inRanges emojiVariationRanges ' ' = false := by decide +kernel
  have hbase : inRanges emojiModifierBaseRanges ' ' = false := by decide +kernel
  unfold emojiTail?
  rw [inRanges_emojiPresentationRanges_space, hvariation, hbase]
  cases t with
  | nil => simp
  | cons d more => simp

theorem joinedLength_append_space (r t : List Char) :
    joinedLength (r ++ ' ' :: t) = joinedLength r := by
  induction r using joinedLength.induct with
  | case1 z c r hz k htail ih =>
      have hk := le_of_emojiTail? htail
      rw [List.cons_append, List.cons_append, joinedLength, joinedLength, if_pos hz, if_pos hz,
        emojiTail?_append_space, htail]
      simp only []
      rw [List.drop_append_of_le_length hk, ih]
  | case2 z c r hz htail =>
      rw [List.cons_append, List.cons_append, joinedLength, joinedLength, if_pos hz, if_pos hz,
        emojiTail?_append_space, htail]
  | case3 z c r hz =>
      rw [List.cons_append, List.cons_append, joinedLength, joinedLength, if_neg hz, if_neg hz]
  | case4 r hshort =>
      rcases r with - | ⟨z, - | ⟨c, r⟩⟩
      · cases t with
        | nil => simp [joinedLength]
        | cons d t => simp [joinedLength]
      · simp [joinedLength, emojiTail?_space]
      · exact absurd rfl (hshort z c r)

theorem joinedLength_le (r : List Char) : joinedLength r ≤ r.length := by
  induction r using joinedLength.induct with
  | case1 z c r hz k htail ih =>
      have hk := le_of_emojiTail? htail
      rw [joinedLength, if_pos hz, htail]
      simp only [List.length_cons, List.length_drop] at ih ⊢
      omega
  | case2 z c r hz htail => simp [joinedLength, hz, htail]
  | case3 z c r hz => simp [joinedLength, hz]
  | case4 r hshort =>
      rw [joinedLength]
      · exact Nat.zero_le _
      · exact hshort

-- ========================================================== ligatures

/-- The marks before a space are those before the end. -/
theorem takeWhile_append_space {holds : Char → Bool} (hspace : holds ' ' = false)
    (r t : List Char) : (r ++ ' ' :: t).takeWhile holds = r.takeWhile holds := by
  induction r with
  | nil => simp [hspace]
  | cons d r ih =>
      rw [List.cons_append, List.takeWhile_cons, List.takeWhile_cons, ih]

theorem ligature?_append_space (c : Char) (r t : List Char) :
    ligature? c (r ++ ' ' :: t) = ligature? c r := by
  have hmarks : inRanges ligature?.graphemeExtending ' ' = false := by decide +kernel
  unfold ligature?
  split
  · have hlen := (List.takeWhile_prefix (inRanges ligature?.graphemeExtending) (l := r)).length_le
    rw [takeWhile_append_space hmarks]
    dsimp only
    rw [List.drop_append_of_le_length hlen]
    cases r.drop (r.takeWhile (inRanges ligature?.graphemeExtending)).length with
    | nil => simp [isAlef]
    | cons d more => rfl
  · rcases r with - | ⟨d, - | ⟨e, more⟩⟩
    · cases t with
      | nil => simp [isCoengLetter]
      | cons e t => simp [isCoengLetter, isTifinaghConsonant]
    · simp [isTifinaghConsonant]
    · rfl

/-- What fuses with a character stands in the text. -/
theorem le_of_ligature? (h : ligature? c r = some (n, k)) : k ≤ r.length := by
  unfold ligature? at h
  split at h
  · dsimp only at h
    split at h
    · next d more hdrop =>
      split at h
      · have hlen := congrArg List.length hdrop
        rw [List.length_drop, List.length_cons] at hlen
        injection h with h
        injection h with _ h
        omega
      · cases h
    · cases h
  · rcases r with - | ⟨d, - | ⟨e, more⟩⟩
    · cases h
    · dsimp only at h
      split_ifs at h
      all_goals
        cases h
        exact Nat.le_refl 1
    · dsimp only at h
      have htwo : 2 ≤ (d :: e :: more).length := Nat.le_add_left 2 more.length
      split_ifs at h
      all_goals
        cases h
        omega

theorem ligature?_space (t : List Char) : ligature? ' ' t = none := by
  rcases t with - | ⟨d, - | ⟨e, more⟩⟩
  · simp [ligature?, isLam]
  · simp [ligature?, isLam]
  · simp [ligature?, isLam, isTifinaghConsonant]

-- ============================================================ clusters

theorem narrowedBySelector_append_space (c : Char) (r t : List Char) :
    narrowedBySelector c (r ++ ' ' :: t) = narrowedBySelector c r := by
  cases r with
  | nil => rfl
  | cons d more => rfl

theorem cluster_append_space (c : Char) (r t : List Char) :
    cluster c (r ++ ' ' :: t) = cluster c r := by
  unfold cluster
  rw [ligature?_append_space, emojiTail?_append_space]
  cases ligature? c r with
  | some found => rfl
  | none =>
      cases htail : emojiTail? c r with
      | some k =>
          simp only []
          rw [List.drop_append_of_le_length (le_of_emojiTail? htail),
            joinedLength_append_space]
      | none =>
          cases r with
          | nil => simp
          | cons d more => rfl

/-- A cluster lies in the text. -/
theorem cluster_le (c : Char) (r : List Char) : (cluster c r).2 ≤ r.length := by
  unfold cluster
  cases hligature : ligature? c r with
  | some found => exact le_of_ligature? hligature
  | none =>
      cases htail : emojiTail? c r with
      | some k =>
          have hk := le_of_emojiTail? htail
          have hjoined := joinedLength_le (r.drop k)
          rw [List.length_drop] at hjoined
          show k + joinedLength (r.drop k) ≤ r.length
          omega
      | none =>
          cases r with
          | nil => simp
          | cons d more =>
              simp only []
              split
              · simp
              · simp

/-- A space is a cluster of its own. -/
theorem width_space (t : List Char) : width (' ' :: t) = 1 + width t := by
  have hnarrow : narrowedBySelector ' ' t = false := by
    cases t with
    | nil => rfl
    | cons d more => simp [narrowedBySelector, inRanges_emojiPresentationRanges_space]
  have hcluster : cluster ' ' t = (1, 0) := by
    unfold cluster
    rw [ligature?_space, emojiTail?_space]
    cases t with
    | nil => rfl
    | cons d more => rfl
  rw [width, hnarrow, hcluster]
  rfl

-- =============================================================== width

/-- The width of a text that is cut at a space. -/
theorem width_append_space (s t : List Char) :
    width (s ++ ' ' :: t) = width s + (1 + width t) := by
  induction s using width.induct with
  | case1 => rw [List.nil_append, width_space, width, Nat.zero_add]
  | case2 c r hnarrow ih =>
      rw [List.cons_append, width, width, narrowedBySelector_append_space, if_pos hnarrow,
        if_pos hnarrow, ih, Nat.add_assoc]
  | case3 c r hnarrow columns more hcluster ih =>
      have hmore := cluster_le c r
      rw [hcluster] at hmore
      rw [List.cons_append, width, width, narrowedBySelector_append_space, if_neg hnarrow,
        if_neg hnarrow, cluster_append_space, hcluster]
      simp only []
      rw [List.drop_append_of_le_length hmore, ih, Nat.add_assoc]

/-- A text with spaces after it is wider by one column for each. -/
theorem width_append_spaces (s : List Char) (n : Nat) :
    width (s ++ List.replicate n ' ') = width s + n := by
  have hspaces : ∀ n, width (List.replicate n ' ') = n := by
    intro n
    induction n with
    | zero => rw [List.replicate_zero, width]
    | succ n ih => rw [List.replicate_succ, width_space, ih, Nat.add_comm]
  cases n with
  | zero => rw [List.replicate_zero, List.append_nil, Nat.add_zero]
  | succ n => rw [List.replicate_succ, width_append_space, hspaces, Nat.add_comm 1]

end Marginalia.Text
