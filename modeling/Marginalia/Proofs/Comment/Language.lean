/-
The strings that are wire strings of comments, and what reading one and
writing it again makes of it. A string is read if and only if it begins
with a label and the label's separator; what follows may be anything,
and nothing is trimmed.

# The normal form

Writing again restores the string that was read, with one exception: a
string that names no origin comes back with the stand-in for it. The
place where the origin separator is looked for matters, since it begins
with the space that the label's separator ends with: "HTML: | Source: x"
holds an origin separator, but not after its label, and so it counts as
a string without an origin (`encode_ofBody`).

Written strings always name an origin, so that one reading and writing
is enough: after that a string passes through any number of contexts
unchanged (`relays_encode`).
-/
import Marginalia.Proofs.Comment.Wire

namespace Marginalia.Comment

open Text

-- ========================================================== the labels

theorem ofLabel?_eq_some_iff {s : String} {kind : Kind} :
    Kind.ofLabel? s = some kind ↔ s = kind.label := by
  constructor
  · intro h
    have hlabel := List.find?_some h
    simp only [decide_eq_true_eq] at hlabel
    exact hlabel.symm
  · rintro rfl
    rw [← ofLabel?_label kind, String.ofList_toList]

/-- The label is what stands before the first separator. -/
theorem splitFirst_labelSeparator_iff {s label rest : List Char} :
    splitFirst labelSeparator.toList s = some (label, rest)
      ↔ s = label ++ labelSeparator.toList ++ rest
        ∧ ¬ labelSeparator.toList <:+: label :=
  splitFirst_pair_iff (by decide)

-- ========================================================= the reading

/-- The comment of a kind that is read from what follows its label. -/
def ofBody (kind : Kind) (body : List Char) : Comment :=
  ⟨kind, (splitOrigin body).1, (splitOrigin body).2⟩

@[simp]
theorem kind_ofBody (kind : Kind) (body : List Char) :
    (ofBody kind body).kind = kind := rfl

/-- A string that begins with a label is read, whatever follows. -/
theorem decode_label_append (kind : Kind) (body : String) :
    decode (kind.label ++ labelSeparator ++ body) = .ok (ofBody kind body.toList) := by
  unfold decode
  rw [String.toList_append, String.toList_append, splitFirst_label]
  simp only [ofLabel?_label]
  rfl

theorem decode_eq_ok_iff {w : String} {c : Comment} :
    decode w = .ok c
      ↔ ∃ body : String, w = c.kind.label ++ labelSeparator ++ body
          ∧ c = ofBody c.kind body.toList := by
  constructor
  · intro h
    unfold decode at h
    split at h
    · cases h
    · next label rest hcut =>
      split at h
      · cases h
      · next kind hkind =>
        have hc : ofBody kind rest = c := Except.ok.inj h
        subst hc
        have hlabel := ofLabel?_eq_some_iff.1 hkind
        refine ⟨String.ofList rest, ?_, by rw [String.toList_ofList]; rfl⟩
        apply String.toList_injective
        rw [eq_of_splitFirst hcut, kind_ofBody, ← hlabel]
        simp only [String.toList_append, String.toList_ofList]
  · rintro ⟨body, rfl, hc⟩
    rw [decode_label_append, ← hc]

/-- A string is refused because it has no separator, or because what
stands before the first one is no label. -/
theorem eq_of_decode_eq_error {w : String} {e : WireError} (h : decode w = .error e) :
    if labelSeparator.toList <:+: w.toList then
      ∃ label rest : String, w = label ++ labelSeparator ++ rest
        ∧ ¬ labelSeparator.toList <:+: label.toList ∧ e = .unknownKind label
    else e = .missingKind w := by
  unfold decode at h
  split at h
  · next hcut =>
    rw [if_neg (splitFirst_eq_none_iff.1 hcut)]
    exact (Except.error.inj h).symm
  · next label rest hcut =>
    obtain ⟨hw, hlabel⟩ := splitFirst_labelSeparator_iff.1 hcut
    rw [if_pos ⟨label, rest, hw.symm⟩]
    split at h
    · refine ⟨String.ofList label, String.ofList rest, ?_, ?_, (Except.error.inj h).symm⟩
      · apply String.toList_injective
        simp only [String.toList_append, String.toList_ofList]
        exact hw
      · rw [String.toList_ofList]
        exact hlabel
    · cases h

-- ===================================================== the normal form

/-- Writing a comment that was read restores what was read, or adds the
stand-in for the origin. -/
theorem encode_ofBody (kind : Kind) (body : String) :
    (ofBody kind body.toList).encode
      = if originSeparator.toList <:+: body.toList then
          kind.label ++ labelSeparator ++ body
        else
          kind.label ++ labelSeparator ++ body ++ (originSeparator ++ unknownOrigin) := by
  unfold encode ofBody splitOrigin
  cases hcut : splitFirst originSeparator.toList body.toList with
  | none =>
      rw [if_neg (splitFirst_eq_none_iff.1 hcut)]
      simp only [String.ofList_toList, String.append_assoc]
  | some cut =>
      have hbody := eq_of_splitFirst hcut
      rw [if_pos ⟨cut.1, cut.2, hbody.symm⟩]
      apply String.toList_injective
      simp only [String.toList_append, String.toList_ofList, hbody, List.append_assoc]

example : (ofBody .html "| Source: x".toList).encode
    = "HTML: | Source: x | Source: Unknown" := by decide

/-- What a context makes of a wire string that it reads and writes
again. -/
def relay (w : String) : Except WireError String :=
  (decode w).map encode

/-- What is left of a wire string after a number of contexts. -/
def relays : Nat → String → Except WireError String
  | 0, w => .ok w
  | n + 1, w => relay w >>= relays n

theorem relay_encode (c : Comment) : relay c.encode = .ok c.encode := by
  unfold relay
  rw [decode_encode]
  exact congrArg Except.ok (encode_reread c)

theorem relays_encode (c : Comment) (n : Nat) : relays n c.encode = .ok c.encode := by
  induction n with
  | zero => rfl
  | succ n ih =>
      rw [relays, relay_encode]
      exact ih

-- ======================================================== the language

/-- Exactly the strings that begin with a label are read, and reading
the others fails for the reason that their beginning gives. Writing
again what was read restores it up to the stand-in for a missing origin,
and changes nothing from then on. -/
theorem decode_language (w : String) :
    ((∃ c, decode w = .ok c)
        ↔ ∃ body : String, w = "HTML: " ++ body ∨ w = "CSS: " ++ body ∨ w = "JS: " ++ body)
      ∧ (match decode w with
          | .ok c =>
            ∃ body : String, w = c.kind.label ++ ": " ++ body
              ∧ c.encode
                = if " | Source: ".toList <:+: body.toList then w
                  else w ++ " | Source: Unknown"
          | .error e =>
            if ": ".toList <:+: w.toList then
              ∃ label rest : String, w = label ++ ": " ++ rest
                ∧ ¬ ": ".toList <:+: label.toList ∧ e = .unknownKind label
            else e = .missingKind w)
      ∧ ∀ (c : Comment) (n : Nat), relays n c.encode = .ok c.encode := by
  refine ⟨⟨?_, ?_⟩, ?_, relays_encode⟩
  · rintro ⟨c, hc⟩
    obtain ⟨body, hw, -⟩ := decode_eq_ok_iff.1 hc
    refine ⟨body, ?_⟩
    cases hkind : c.kind with
    | html =>
        rw [hkind] at hw
        exact Or.inl hw
    | css =>
        rw [hkind] at hw
        exact Or.inr (Or.inl hw)
    | js =>
        rw [hkind] at hw
        exact Or.inr (Or.inr hw)
  · rintro ⟨body, rfl | rfl | rfl⟩
    · exact ⟨_, decode_label_append .html body⟩
    · exact ⟨_, decode_label_append .css body⟩
    · exact ⟨_, decode_label_append .js body⟩
  · cases hw : decode w with
    | ok c =>
        obtain ⟨body, rfl, hc⟩ := decode_eq_ok_iff.1 hw
        refine ⟨body, rfl, ?_⟩
        have hstandIn : originSeparator ++ unknownOrigin = " | Source: Unknown" := by
          decide
        rw [hc, encode_ofBody, kind_ofBody, hstandIn]
        rfl
    | error e => exact eq_of_decode_eq_error hw

end Marginalia.Comment
