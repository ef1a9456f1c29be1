/-
Labels of linked resources. A label is cut out of the text of a URL, at the
last slash in it. For a resource whose query and fragment have no slash this
is the slash before the last segment of the path, and the label begins with
the name of the file (`fileName_originLabel`). A slash further on is taken
for one of the path: the label is then what stands behind it, or the whole
URL where nothing does. `label_names_resource_iff` says exactly when the
label begins with the file's name nonetheless.
-/
import Marginalia.Fetch
import Marginalia.Proofs.Text.Occurrence

namespace Marginalia

open Text

/-- The URL of a resource on a host, in its parts. -/
structure ResourceUrl where
  scheme : List Char
  host : List Char
  /-- The segments of the path before the last one. -/
  folders : List (List Char)
  /-- The last segment of the path. -/
  name : List Char
  query : Option (List Char) := none
  fragment : Option (List Char) := none
  name_ne_nil : name ≠ []
  name_plain : ∀ c ∈ name, c ≠ '/' ∧ c ≠ '?' ∧ c ≠ '#'

namespace ResourceUrl

/-- What stands before the slash in front of the last segment. -/
def place (r : ResourceUrl) : List Char :=
  r.scheme ++ "://".toList ++ r.host ++ r.folders.flatMap ('/' :: ·)

/-- What stands behind the path: the query and the fragment with their
marks. -/
def trailer (r : ResourceUrl) : List Char :=
  (r.query.map ('?' :: ·)).getD [] ++ (r.fragment.map ('#' :: ·)).getD []

/-- The text of the URL. -/
def text (r : ResourceUrl) : String :=
  String.ofList (r.place ++ '/' :: (r.name ++ r.trailer))

end ResourceUrl

/-- The characters that end the path of a URL. -/
def endsPath (c : Char) : Bool :=
  c = '?' || c = '#'

/-- The file that a label names: what stands before a query or fragment. -/
def fileName (label : String) : List Char :=
  label.toList.takeWhile (!endsPath ·)

-- ======================================================= the last slash

/-- The label is what follows the last slash, or the URL if that is
nothing. -/
theorem originLabel_of_last {url : String} {front last : List Char}
    (hurl : url.toList = front ++ '/' :: last) (hlast : '/' ∉ last) :
    (originLabel url).toList = if last = [] then url.toList else last := by
  have hpiece : (splitOnChar '/' url.toList).getLast? = some last := by
    rw [hurl, splitOnChar_append_cons, splitOnChar_of_notMem hlast, List.getLast?_concat]
  unfold originLabel
  rw [hpiece]
  cases last with
  | nil => simp
  | cons c last => simp

namespace ResourceUrl

variable (r : ResourceUrl)

theorem toList_text : r.text.toList = r.place ++ '/' :: (r.name ++ r.trailer) :=
  String.toList_ofList

theorem slash_notMem_name : '/' ∉ r.name := by
  intro h
  exact (r.name_plain '/' h).1 rfl

/-- Behind the path there is nothing, or a mark that ends it. -/
theorem endsPath_of_head?_trailer : ∀ c ∈ r.trailer.head?, endsPath c = true := by
  intro c hc
  unfold trailer at hc
  cases hquery : r.query with
  | some query =>
      rw [hquery] at hc
      simp at hc
      subst hc
      decide
  | none =>
      rw [hquery] at hc
      cases hfragment : r.fragment with
      | some fragment =>
          rw [hfragment] at hc
          simp at hc
          subst hc
          decide
      | none =>
          rw [hfragment] at hc
          simp at hc

theorem takeWhile_name_trailer :
    (r.name ++ r.trailer).takeWhile (!endsPath ·) = r.name := by
  have hname : ∀ c ∈ r.name, (!endsPath c) = true := by
    intro c hc
    obtain ⟨-, hquery, hfragment⟩ := r.name_plain c hc
    simp [endsPath, hquery, hfragment]
  rw [List.takeWhile_append_of_pos hname]
  have hstop : r.trailer.takeWhile (!endsPath ·) = [] := by
    have hhead := r.endsPath_of_head?_trailer
    cases htrailer : r.trailer with
    | nil => rfl
    | cons c rest =>
        rw [htrailer] at hhead
        simp [hhead c rfl]
  rw [hstop, List.append_nil]

/-- Without a slash behind the path the label is all that follows the
path's last slash. -/
theorem originLabel_of_slash_notMem (h : '/' ∉ r.trailer) :
    (originLabel r.text).toList = r.name ++ r.trailer := by
  have hlast : '/' ∉ r.name ++ r.trailer := by
    rw [List.mem_append, not_or]
    exact ⟨r.slash_notMem_name, h⟩
  have hne : r.name ++ r.trailer ≠ [] := by
    simp [r.name_ne_nil]
  rw [originLabel_of_last r.toList_text hlast, if_neg hne]

theorem fileName_originLabel (h : '/' ∉ r.trailer) : fileName (originLabel r.text) = r.name := by
  rw [fileName, r.originLabel_of_slash_notMem h, takeWhile_name_trailer]

/-- A slash behind the path takes the place of the path's last one. -/
theorem originLabel_of_trailer {front last : List Char}
    (htrailer : r.trailer = front ++ '/' :: last) (hlast : '/' ∉ last) :
    (originLabel r.text).toList = if last = [] then r.text.toList else last := by
  have htext : r.text.toList = (r.place ++ '/' :: (r.name ++ front)) ++ '/' :: last := by
    rw [r.toList_text, htrailer]
    simp only [List.append_assoc, List.cons_append]
  exact originLabel_of_last htext hlast

/-- The label of a resource begins with the name of its file exactly when
there is no slash in its query and fragment, or the text behind the last one
(the whole URL if there is none) happens to begin with that name. In the
first case the file that the label names is the resource's, whatever else
the query and the fragment hold. -/
theorem label_names_resource_iff :
    (r.name <+: (originLabel r.text).toList
        ↔ '/' ∉ r.trailer
          ∨ ∃ front last, r.trailer = front ++ '/' :: last ∧ '/' ∉ last
            ∧ r.name <+: if last = [] then r.text.toList else last)
      ∧ ('/' ∉ r.trailer →
          ∀ s : ResourceUrl, s.place = r.place → s.name = r.name → '/' ∉ s.trailer →
            fileName (originLabel s.text) = fileName (originLabel r.text)) := by
  refine ⟨?_, ?_⟩
  · by_cases hslash : '/' ∈ r.trailer
    · constructor
      · intro hname
        obtain ⟨front, last, htrailer, hlast⟩ := exists_cut_at_last hslash
        rw [r.originLabel_of_trailer htrailer hlast] at hname
        exact Or.inr ⟨front, last, htrailer, hlast, hname⟩
      · rintro (hnone | ⟨front', last', htrailer', hlast', hname⟩)
        · exact absurd hslash hnone
        · rw [r.originLabel_of_trailer htrailer' hlast']
          exact hname
    · rw [r.originLabel_of_slash_notMem hslash]
      simp [hslash]
  · intro hr s hplace hname hs
    rw [s.fileName_originLabel hs, r.fileName_originLabel hr, hname]

/-- A script that is given where to go on. -/
def redirecting : ResourceUrl where
  scheme := "https".toList
  host := "example.com".toList
  folders := []
  name := "app.js".toList
  query := some "next=/home".toList
  name_ne_nil := by decide
  name_plain := by simp

/-- The label of a resource need not begin with the name of its file. -/
theorem label_taken_from_query :
    ¬ ∀ r : ResourceUrl, r.name <+: (originLabel r.text).toList := by
  intro h
  have htext : redirecting.text = "https://example.com/app.js?next=/home" := by decide
  have hlabel : originLabel "https://example.com/app.js?next=/home" = "home" := by decide
  have hname := h redirecting
  rw [htext, hlabel] at hname
  revert hname
  decide

end ResourceUrl

end Marginalia
