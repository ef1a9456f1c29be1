/-
Tags: a name, then attributes, then ">" with or without a slash before it.
Of two attributes of one name the first counts. A tag that the end of the
document cuts off is no tag at all.
-/
import Marginalia.Html.Token.Basic

namespace Marginalia.Html

/-- The text with its character references replaced, as in a value. -/
def decodeValue : List Char → List Char
  | [] => []
  | '&' :: r =>
    match _found : Reference.ofText? true r with
    | some (chars, rest) => chars ++ decodeValue rest
    | none => '&' :: decodeValue r
  | c :: r => shown c :: decodeValue r
termination_by s => s.length
decreasing_by
  · have := Reference.length_ofText? _found
    simp; omega
  all_goals simp

/-- A character of a name: lower case, and the replacement character for
the null character. -/
def nameChar (c : Char) : Char :=
  shown c.toLower

/-- Whether a name in a tag ends at a character. -/
def endsName (c : Char) : Bool :=
  isSpace c || c = '/' || c = '>'

/-- The name of a tag, and what follows it. -/
def tagName (s : List Char) : String × List Char :=
  (String.ofList ((s.takeWhile (!endsName ·)).map nameChar), s.dropWhile (!endsName ·))

/-- Whether an attribute's name ends at a character. -/
def endsAttribute (c : Char) : Bool :=
  endsName c || c = '='

/-- The characters before the next `mark`, and those after it. -/
def quotedValue (mark : Char) (s : List Char) : List Char × List Char :=
  (s.takeWhile (· != mark), (s.dropWhile (· != mark)).drop 1)

/-- The value that follows an attribute's name, and what follows that. A
name without an equals sign has the empty value. -/
def attributeValue (s : List Char) : List Char × List Char :=
  match s.dropWhile isSpace with
  | '=' :: r =>
    match r.dropWhile isSpace with
    | '\x22' :: v => quotedValue '\x22' v
    | '\x27' :: v => quotedValue '\x27' v
    | v =>
      (v.takeWhile fun c => !(isSpace c || c = '>'),
       v.dropWhile fun c => !(isSpace c || c = '>'))
  | r => ([], r)

theorem length_dropWhile_le {α : Type} (p : α → Bool) (s : List α) :
    (s.dropWhile p).length ≤ s.length :=
  (List.dropWhile_sublist p).length_le

theorem length_quotedValue (mark : Char) (s : List Char) :
    (quotedValue mark s).2.length ≤ s.length := by
  have := length_dropWhile_le (· != mark) s
  simp [quotedValue]
  omega

theorem length_attributeValue (s : List Char) :
    (attributeValue s).2.length ≤ s.length := by
  have hs := length_dropWhile_le isSpace s
  unfold attributeValue
  split
  · next r h =>
    rw [h] at hs
    have hr := length_dropWhile_le isSpace r
    simp only [List.length_cons] at hs
    split
    · next v hv =>
      rw [hv] at hr
      have := length_quotedValue '\x22' v
      simp only [List.length_cons] at hr
      omega
    · next v hv =>
      rw [hv] at hr
      have := length_quotedValue '\x27' v
      simp only [List.length_cons] at hr
      omega
    · next v _ _ =>
      have := length_dropWhile_le (fun c => !(isSpace c || c = '>')) (List.dropWhile isSpace r)
      simp only
      omega
  · exact hs

/-- What a tag holds after its name: the attributes, whether there is a
slash at its end, and what follows the tag; `none` where the document ends
first. -/
def tagTail? (read : List (String × String)) (s : List Char) :
    Option (List (String × String) × Bool × List Char) :=
  match _rest : s.dropWhile isSpace with
  | [] => none
  | '>' :: r => some (read.reverse, false, r)
  | '/' :: '>' :: r => some (read.reverse, true, r)
  | '/' :: r => tagTail? read r
  | c :: r =>
    let name := String.ofList
      ((c :: r.takeWhile (!endsAttribute ·)).map nameChar)
    let value := attributeValue (r.dropWhile (!endsAttribute ·))
    if (read.lookup name).isSome then tagTail? read value.2
    else tagTail? ((name, String.ofList (decodeValue value.1)) :: read) value.2
termination_by s.length
decreasing_by
  all_goals
    have hs := length_dropWhile_le isSpace s
    rw [_rest] at hs
    simp only [List.length_cons] at hs
  · omega
  all_goals
    have hv := length_attributeValue (r.dropWhile (!endsAttribute ·))
    have hr := length_dropWhile_le (!endsAttribute ·) r
    omega

/-- A tag after its "<" or "</", and what follows it. -/
def tag? (s : List Char) : Option (Tag × List Char) :=
  let (name, tail) := tagName s
  (tagTail? [] tail).map fun (attributes, selfClosing, rest) =>
    (⟨name, attributes, selfClosing⟩, rest)

theorem length_tagTail? {read : List (String × String)} {s : List Char}
    {a : List (String × String)} {b : Bool} {rest : List Char}
    (h : tagTail? read s = some (a, b, rest)) : rest.length < s.length := by
  induction hn : s.length using Nat.strongRecOn generalizing s read with
  | ind n ih =>
    subst hn
    have hs := length_dropWhile_le isSpace s
    rw [tagTail?] at h
    split at h
    · simp at h
    all_goals
      rename_i hr
      rw [hr] at hs
      simp only [List.length_cons] at hs
    · simp only [Option.some.injEq, Prod.mk.injEq] at h
      rw [← h.2.2]; omega
    · simp only [Option.some.injEq, Prod.mk.injEq] at h
      rw [← h.2.2]; omega
    · have := ih _ (by omega) h rfl
      omega
    · next c r _ _ _ =>
      have hv := length_attributeValue (r.dropWhile (!endsAttribute ·))
      have hd := length_dropWhile_le (!endsAttribute ·) r
      simp only at h
      split at h
      all_goals
        have := ih _ (by omega) h rfl
        omega

theorem length_tag? {s : List Char} {t : Tag} {rest : List Char}
    (h : tag? s = some (t, rest)) : rest.length < s.length := by
  simp only [tag?, Option.map_eq_some_iff] at h
  obtain ⟨⟨a, b, r⟩, hr, he⟩ := h
  simp only [Prod.mk.injEq] at he
  obtain ⟨-, rfl⟩ := he
  have := length_tagTail? hr
  have hd := length_dropWhile_le (!endsName ·) s
  simp only [tagName] at this
  omega

end Marginalia.Html
