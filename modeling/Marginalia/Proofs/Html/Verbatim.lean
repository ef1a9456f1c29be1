/-
Comments, styles and scripts are read as they were written. A comment's text
ends at the "-->" that was written behind it, and the text of a style or a
script at its end tag, unless an end stands in the text itself. No end can
begin in the text and go on behind it: an end tag has no "<" but the one in
front, and the ends of a comment have dashes only in front.
-/
import Mathlib.Data.List.Infix
import Marginalia.Html.Token

namespace Marginalia.Html

variable {s u v name : List Char} {c x : Char}

-- ============================================================ comments

/-- The end that is written behind a comment. -/
def commentClose : List Char :=
  ['-', '-', '>']

/-- The other end of a comment. -/
def commentBang : List Char :=
  ['-', '-', '!', '>']

theorem isPrefix_of_close_append (h : commentClose <+: x :: s ++ (commentClose ++ u)) :
    commentClose <+: x :: s := by
  rcases s with _ | ⟨y, _ | ⟨z, s⟩⟩
  · simp [commentClose] at h
  · simp [commentClose] at h
  · simpa [commentClose, List.cons_prefix_cons] using h

theorem isPrefix_of_bang_append (h : commentBang <+: x :: s ++ (commentClose ++ u)) :
    commentBang <+: x :: s := by
  rcases s with _ | ⟨y, _ | ⟨z, _ | ⟨w, s⟩⟩⟩
  · simp [commentBang, commentClose] at h
  · simp [commentBang, commentClose] at h
  · simp [commentBang, commentClose] at h
  · simpa [commentBang, List.cons_prefix_cons] using h

theorem commentBody_cons (hs : 3 ≤ s.length) (hclose : ¬ commentClose <+: c :: s)
    (hbang : ¬ commentBang <+: c :: s) :
    commentBody (c :: s) = consFirst (shown c) (commentBody s) := by
  rw [commentBody.eq_def]
  split
  · next r h => exact absurd ⟨r, h.symm⟩ hclose
  · next r h => exact absurd ⟨r, h.symm⟩ hbang
  all_goals simp_all

theorem shown_eq_self (h : '\x00' ∉ c :: s) : shown c = c :=
  if_neg (List.ne_of_not_mem_cons h).symm

theorem commentBody_append (hclose : ¬ commentClose <:+: s) (hbang : ¬ commentBang <:+: s)
    (hnull : '\x00' ∉ s) (u : List Char) : commentBody (s ++ (commentClose ++ u)) = (s, u) := by
  induction s with
  | nil => rfl
  | cons c s ih =>
      have hrest := ih (fun h => hclose (List.infix_cons h)) (fun h => hbang (List.infix_cons h))
        (List.not_mem_of_not_mem_cons hnull)
      rw [List.cons_append, commentBody_cons, hrest, shown_eq_self hnull]
      · rfl
      · simp only [List.length_append, commentClose, List.length_cons]
        omega
      · exact fun h => hclose (isPrefix_of_close_append h).isInfix
      · exact fun h => hbang (isPrefix_of_bang_append h).isInfix

theorem commentText_append (hclose : ¬ commentClose <:+: s) (hbang : ¬ commentBang <:+: s)
    (hnull : '\x00' ∉ s) (hend : ¬ ['>'] <+: s) (hdash : ¬ ['-', '>'] <+: s) (u : List Char) :
    commentText (s ++ (commentClose ++ u)) = (s, u) := by
  rw [← commentBody_append hclose hbang hnull u]
  unfold commentText
  split
  · next r h =>
      cases s with
      | nil => cases h
      | cons x s =>
          cases h
          exact absurd (List.prefix_append ['>'] s) hend
  · next r h =>
      rcases s with _ | ⟨x, _ | ⟨y, s⟩⟩
      · cases h
      · cases h
      · cases h
        exact absurd (List.prefix_append ['-', '>'] s) hdash
  · rfl

-- ================================================== styles and scripts

/-- What stands in front of a character that it does not hold. -/
theorem isPrefix_of_append_cons (hc : c ∉ v) (h : v <+: s ++ c :: u) : v <+: s := by
  induction s generalizing v with
  | nil =>
      cases v with
      | nil => exact List.nil_prefix
      | cons x v => exact absurd (List.cons_prefix_cons.1 h).1 (List.ne_of_not_mem_cons hc).symm
  | cons y s ih =>
      cases v with
      | nil => exact List.nil_prefix
      | cons x v =>
          obtain ⟨rfl, hrest⟩ := List.cons_prefix_cons.1 h
          exact List.cons_prefix_cons.2 ⟨rfl, ih (List.not_mem_of_not_mem_cons hc) hrest⟩

theorem isPrefix_of_closesElement (h : closesElement name s) :
    '/' :: name <+: s.map Char.toLower := by
  unfold closesElement at h
  split at h
  · next r =>
      rw [beginsWithName, Bool.and_eq_true, decide_eq_true_iff] at h
      refine List.cons_prefix_cons.2 ⟨rfl, ?_⟩
      rw [← h.1]
      exact (List.take_prefix _ r).map _
  · cases h

/-- A tag that would end a text in front of the tag that does stands in the
text. -/
theorem not_closesElement (hname : '<' ∉ name)
    (hend : ¬ '<' :: '/' :: name <:+: ('<' :: s).map Char.toLower) :
    ¬ closesElement name (s ++ '<' :: u) := by
  intro h
  have h := isPrefix_of_closesElement h
  rw [List.map_append, List.map_cons] at h
  have hin := isPrefix_of_append_cons (by simpa using hname) h
  exact hend (List.cons_prefix_cons.2 ⟨rfl, hin⟩).isInfix

theorem rawText_append (hname : '<' ∉ name) (hend : ¬ '<' :: '/' :: name <:+: s.map Char.toLower)
    (hnull : '\x00' ∉ s) (hu : closesElement name u) :
    rawText name (s ++ '<' :: u) = (s, '<' :: u) := by
  induction s with
  | nil => rw [List.nil_append, rawText, hu]; rfl
  | cons c s ih =>
      have hrest := ih (fun h => hend (List.infix_cons h)) (List.not_mem_of_not_mem_cons hnull)
      rw [List.cons_append, rawText, if_neg ?_, hrest, shown_eq_self hnull]
      · rfl
      · rw [Bool.and_eq_true, decide_eq_true_iff]
        rintro ⟨rfl, h⟩
        exact not_closesElement hname hend h

theorem scriptText_append (hend : ¬ '<' :: '/' :: scriptName <:+: s.map Char.toLower)
    (hopen : ¬ ['<', '!', '-', '-'] <:+: s) (hnull : '\x00' ∉ s) (hu : closesElement scriptName u) :
    scriptText .outside (s ++ '<' :: u) = (s, '<' :: u) := by
  induction s with
  | nil => rw [List.nil_append, scriptText, hu]; rfl
  | cons c s ih =>
      have hlevel : ScriptLevel.outside.after c (s ++ '<' :: u) = .outside := by
        rw [ScriptLevel.after]
        rintro r rfl h
        have hin : ['!', '-', '-'] <+: s := isPrefix_of_append_cons (by decide) ⟨r, h.symm⟩
        exact hopen (List.cons_prefix_cons.2 ⟨rfl, hin⟩).isInfix
      have hrest := ih (fun h => hend (List.infix_cons h)) (fun h => hopen (List.infix_cons h))
        (List.not_mem_of_not_mem_cons hnull)
      rw [List.cons_append, scriptText, if_neg ?_, hlevel, hrest, shown_eq_self hnull]
      · rfl
      · simp only [ScriptLevel.mayEnd, Bool.and_true, Bool.and_eq_true, decide_eq_true_iff]
        rintro ⟨rfl, h⟩
        exact not_closesElement (by decide) hend h

-- ============================================================== tokens

/-- A letter that is kept as it is in the name of a tag. -/
def isNameLetter (c : Char) : Bool :=
  c.isAlpha && !endsName c && nameChar c == c

/-- A name as a tag has it. -/
def IsTagName (name : List Char) : Prop :=
  name ≠ [] ∧ name.all isNameLetter

instance : Decidable (IsTagName name) :=
  inferInstanceAs (Decidable (_ ∧ _))

theorem isNameLetter_iff :
    isNameLetter c ↔ (c.isAlpha ∧ (!endsName c) = true) ∧ nameChar c = c := by
  rw [isNameLetter, Bool.and_eq_true, Bool.and_eq_true, beq_iff_eq]

theorem IsTagName.letter (h : IsTagName name) (hc : c ∈ name) :
    (c.isAlpha ∧ (!endsName c) = true) ∧ nameChar c = c :=
  isNameLetter_iff.1 (List.all_eq_true.1 h.2 c hc)

theorem tag?_append (hname : IsTagName name) (s : List Char) :
    tag? (name ++ '>' :: s) = some (⟨String.ofList name, [], false⟩, s) := by
  have hall : ∀ c ∈ name, (!endsName c) = true := fun c hc => (hname.letter hc).1.2
  have hkept : name.map nameChar = name :=
    (List.map_congr_left fun c hc => (hname.letter hc).2).trans (List.map_id' name)
  have htail : tagTail? [] ('>' :: s) = some ([], false, s) := by
    rw [tagTail?]
    rfl
  have hcut : tagName (name ++ '>' :: s) = (String.ofList name, '>' :: s) := by
    rw [tagName, List.takeWhile_append_of_pos hall, List.dropWhile_append_of_pos hall]
    rw [show ('>' :: s).takeWhile (!endsName ·) = [] from rfl, List.append_nil, hkept]
    rfl
  rw [tag?, hcut]
  dsimp only
  rw [htail]
  rfl

theorem next?_comment (foreign : Bool) (s : List Char) :
    Token.next? foreign ('<' :: '!' :: '-' :: '-' :: s) = some (commentToken (commentText s)) :=
  rfl

theorem ne_of_isAlpha (hc : c.isAlpha) (hx : x.isAlpha = false) : c ≠ x := by
  rintro rfl
  rw [hc] at hx
  cases hx

theorem next?_startTag (foreign : Bool) (hname : IsTagName name) (s : List Char) :
    Token.next? foreign ('<' :: (name ++ '>' :: s))
      = some (.startTag ⟨String.ofList name, [], false⟩, s) := by
  have htag := tag?_append hname s
  cases name with
  | nil => exact absurd rfl hname.1
  | cons c name =>
      have hletter : c.isAlpha := (hname.letter (List.mem_cons_self ..)).1.1
      rw [List.cons_append] at htag ⊢
      have hbang : c ≠ '!' := ne_of_isAlpha hletter rfl
      have hslash : c ≠ '/' := ne_of_isAlpha hletter rfl
      have hquestion : c ≠ '?' := ne_of_isAlpha hletter rfl
      rw [Token.next?, if_pos hletter, htag]
      · rfl
      all_goals simp [hbang, hslash, hquestion]

theorem next?_endTag (foreign : Bool) (hname : IsTagName name) (s : List Char) :
    Token.next? foreign ('<' :: '/' :: (name ++ '>' :: s))
      = some (.endTag (String.ofList name), s) := by
  have htag := tag?_append hname s
  cases name with
  | nil => exact absurd rfl hname.1
  | cons c name =>
      have hletter : c.isAlpha := (hname.letter (List.mem_cons_self ..)).1.1
      rw [List.cons_append] at htag ⊢
      have hclose : c ≠ '>' := ne_of_isAlpha hletter rfl
      rw [Token.next?, if_pos hletter, htag]
      · rfl
      · exact hclose

theorem unify_eq_self (hreturn : '\r' ∉ s) : normalise.unify s = s := by
  induction s with
  | nil => rfl
  | cons c s ih =>
      have hc := List.ne_of_not_mem_cons hreturn
      rw [normalise.unify, ih (List.not_mem_of_not_mem_cons hreturn)]
      · exact fun _ h => absurd h.symm hc
      · exact fun h => absurd h.symm hc

theorem normalise_eq_self (hreturn : '\r' ∉ s) (hmark : s.head? ≠ some '\uFEFF') :
    normalise s = s := by
  unfold normalise
  split
  · exact absurd rfl hmark
  · exact unify_eq_self hreturn

end Marginalia.Html
