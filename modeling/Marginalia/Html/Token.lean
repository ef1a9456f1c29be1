/-
The next token of a document, where tags, comments and text are to be
expected. Every token takes at least one character.
-/
import Marginalia.Html.Token.Comment
import Marginalia.Html.Token.RawText

namespace Marginalia.Html

/-- A comment token and what follows it. -/
def commentToken (p : List Char × List Char) : Token × List Char :=
  (.comment p.1, p.2)

/-- What a document type declaration begins with after "<!", in lower
case. -/
def doctypeName : List Char :=
  ['d', 'o', 'c', 't', 'y', 'p', 'e']

/-- What a CDATA section begins with after "<!". -/
def cdataName : List Char :=
  ['[', 'C', 'D', 'A', 'T', 'A', '[']

/-- The token that begins with "<!". Outside of HTML elements it may be a
CDATA section. -/
def declaration (foreign : Bool) (s : List Char) : Token × List Char :=
  match s with
  | '-' :: '-' :: r => commentToken (commentText r)
  | _ =>
    if (s.take doctypeName.length).map Char.toLower = doctypeName then
      (.doctype, (upToClose s).2)
    else if foreign && s.take cdataName.length = cdataName then
      let (text, rest) := cdataText (s.drop cdataName.length)
      (.text text, rest)
    else commentToken (upToClose s)

/-- The characters of the run of text that begins with the given
character, and what follows it. -/
def textRun (c : Char) (s : List Char) : Token × List Char :=
  let goesOn (d : Char) := d != '<' && d != '&' && isSpace d == isSpace c
  (.text (c :: s.takeWhile goesOn), s.dropWhile goesOn)

/-- The next token, and what follows it; `none` at the end of the
document. -/
def Token.next? (foreign : Bool) : List Char → Option (Token × List Char)
  | [] => none
  | '<' :: '!' :: r => some (declaration foreign r)
  | '<' :: '/' :: '>' :: r => next? foreign r
  | ['<', '/'] => some (.text ['<', '/'], [])
  | '<' :: '/' :: c :: r =>
    if c.isAlpha then
      (tag? (c :: r)).map fun (tag, rest) => (.endTag tag.name, rest)
    else some (commentToken (upToClose (c :: r)))
  | '<' :: '?' :: r => some (commentToken (upToClose ('?' :: r)))
  | '<' :: c :: r =>
    if c.isAlpha then
      (tag? (c :: r)).map fun (tag, rest) => (.startTag tag, rest)
    else some (.text ['<'], c :: r)
  | '&' :: r =>
    match Reference.ofText? false r with
    | some (chars, rest) => some (.text chars, rest)
    | none => some (.text ['&'], r)
  | c :: r => some (textRun c r)

theorem length_declaration (foreign : Bool) (s : List Char) :
    (declaration foreign s).2.length ≤ s.length := by
  unfold declaration
  split
  · next r =>
    have := length_commentText r
    simp [commentToken]; omega
  · split
    · exact length_upToClose s
    · split
      · have := length_cdataText (s.drop cdataName.length)
        simp at this ⊢; omega
      · exact length_upToClose s

theorem Token.length_next? {foreign : Bool} {s rest : List Char} {t : Token}
    (h : next? foreign s = some (t, rest)) : rest.length < s.length := by
  fun_induction next? foreign s with
  | case1 => simp at h
  | case2 r =>
    have := length_declaration foreign r
    simp only [Option.some.injEq] at h
    simp only [h] at this
    simp; omega
  | case3 r ih => have := ih h; simp; omega
  | case4 => simp at h; simp [h]
  | case5 c r hne hc =>
    simp only [Option.map_eq_some_iff] at h
    obtain ⟨⟨tag, u⟩, hu, he⟩ := h
    have := length_tag? hu
    simp_all; omega
  | case6 c r hne hc =>
    have := length_upToClose (c :: r)
    simp only [Option.some.injEq, commentToken, Prod.mk.injEq] at h
    rw [h.2] at this
    simp_all; omega
  | case7 r =>
    have := length_upToClose ('?' :: r)
    simp only [Option.some.injEq, commentToken, Prod.mk.injEq] at h
    rw [h.2] at this
    simp only [List.length_cons] at this ⊢
    omega
  | case8 c r h1 h2 h3 hc =>
    simp only [Option.map_eq_some_iff] at h
    obtain ⟨⟨tag, u⟩, hu, he⟩ := h
    have := length_tag? hu
    simp_all; omega
  | case9 c r => simp at h; simp [← h.2]
  | case10 r chars u hu =>
    have := Reference.length_ofText? hu
    simp only [Option.some.injEq, Prod.mk.injEq] at h
    simp [← h.2]; omega
  | case11 r hu => simp at h; simp [← h.2]
  | case12 c r =>
    simp only [Option.some.injEq, textRun, Prod.mk.injEq] at h
    have := length_dropWhile_le (fun d => d != '<' && d != '&' && isSpace d == isSpace c) r
    rw [h.2] at this
    simp; omega

end Marginalia.Html
