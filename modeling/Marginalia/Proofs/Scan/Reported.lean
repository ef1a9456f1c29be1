/-
What is true of every comment that a scan reports. A comment comes from
exactly one place, the page itself or the answer for one of the requests
(`mem_scan_iff`); what it looks like was settled when it was extracted
there (Extract/Cleaned.lean), and its origin names that place. Scripts are
numbered together, so that the number of an inline one can be as large as
the number of all script elements, but no larger.
-/
import Marginalia.Proofs.Extract.Cleaned

namespace Marginalia.Page

open Extract

variable {p : Page} {fetch : Fetcher} {o : Options} {c : Comment} {kind : Kind}

-- ================================================= where it comes from

/-- A comment of a scan is of a kind that was asked for, and comes from
the page or from the answer for a request. -/
theorem mem_scan_iff :
    c ∈ p.scan fetch o
      ↔ o.includes c.kind = true
        ∧ (c ∈ p.ownComments c.kind
          ∨ ∃ url ∈ o.requests (p.links c.kind), c ∈ answerComments c.kind url (fetch url)) := by
  have hkind : ∀ kind, c ∈ (p.commentsOfKind fetch o kind).value
      ↔ o.includes kind = true ∧ (c ∈ p.ownComments kind
        ∨ ∃ url ∈ o.requests (p.links kind), c ∈ answerComments kind url (fetch url)) := by
    intro kind
    rw [value_commentsOfKind, value_linkedComments]
    split
    · next hincludes =>
      rw [List.mem_append, List.mem_flatMap, and_iff_right hincludes]
    · next hleft => simp [hleft]
  unfold scan
  rw [value_gather, List.mem_flatMap]
  constructor
  · rintro ⟨kind, -, hc⟩
    rw [kind_of_mem_commentsOfKind c hc]
    exact (hkind kind).1 hc
  · intro hc
    have hall : c.kind ∈ Kind.all := by cases c.kind <;> decide
    exact ⟨c.kind, hall, (hkind c.kind).2 hc⟩

theorem exists_body_of_mem_answerComments {url : String} {answer : Except FetchError String}
    (hc : c ∈ answerComments kind url answer) :
    ∃ body, answer = .ok body ∧ c ∈ ofText kind body (originLabel url) := by
  cases answer with
  | error e => cases hc
  | ok body => exact ⟨body, rfl, hc⟩

theorem mem_ownComments_css_iff :
    c ∈ p.ownComments .css
      ↔ ∃ i : Fin p.styles.length,
          c ∈ ofText .css (p.styles.get i) ("Inline style #" ++ toString (i.val + 1)) := by
  rw [ownComments_css, List.mem_flatMap]
  simp only [List.mem_finRange, true_and]

/-- A comment in a script of the page comes from an inline script, and
not from a blank one. -/
theorem exists_inline_of_mem_ownComments_js (hc : c ∈ p.ownComments .js) :
    ∃ (i : Fin p.scripts.length) (text : String), p.scripts.get i = .inline text
      ∧ c ∈ ofText .js text ("Inline script #" ++ toString (i.val + 1)) := by
  rw [ownComments_js] at hc
  obtain ⟨i, -, hc⟩ := List.mem_flatMap.1 hc
  cases hscript : p.scripts.get i with
  | external url => rw [hscript] at hc; cases hc
  | inline text =>
      rw [hscript] at hc
      dsimp only at hc
      split at hc
      · cases hc
      · exact ⟨i, text, hscript, hc⟩

-- ============================================================ cleaned

theorem cleaned_of_mem_ownComments (hc : c ∈ p.ownComments kind) : Cleaned c := by
  cases kind with
  | html => exact cleaned_of_mem_ofNodes hc
  | css =>
      obtain ⟨i, hc⟩ := mem_ownComments_css_iff.1 hc
      exact cleaned_of_mem_ofText hc
  | js =>
      obtain ⟨i, text, -, hc⟩ := exists_inline_of_mem_ownComments_js hc
      exact cleaned_of_mem_ofText hc

theorem cleaned_of_mem_scan (hc : c ∈ p.scan fetch o) : Cleaned c := by
  obtain ⟨-, hown | ⟨url, -, hc⟩⟩ := mem_scan_iff.1 hc
  · exact cleaned_of_mem_ownComments hown
  · obtain ⟨body, -, hc⟩ := exists_body_of_mem_answerComments hc
    exact cleaned_of_mem_ofText hc

-- ============================================================ origins

/-- An origin that names a place in the page itself. -/
def OwnOrigin (p : Page) : Kind → String → Prop
  | .html, origin => origin = "Document"
  | .css, origin =>
    ∃ i, 1 ≤ i ∧ i ≤ p.styles.length ∧ origin = "Inline style #" ++ toString i
  | .js, origin =>
    ∃ i text, 1 ≤ i ∧ i ≤ p.scripts.length ∧ p.scripts[i - 1]? = some (.inline text)
      ∧ origin = "Inline script #" ++ toString i

/-- An origin that is the label of a linked resource of the kind which no
pattern ignores. -/
def LinkedOrigin (p : Page) (o : Options) (kind : Kind) (origin : String) : Prop :=
  ∃ url ∈ p.links kind, origin = originLabel url
    ∧ ∀ g ∈ o.ignore, g.accepts url = false ∧ g.accepts (originLabel url) = false

theorem ownOrigin_of_mem_ownComments (hc : c ∈ p.ownComments kind) :
    p.OwnOrigin kind c.origin := by
  cases kind with
  | html => exact origin_of_mem_ofNodes hc
  | css =>
      obtain ⟨i, hc⟩ := mem_ownComments_css_iff.1 hc
      exact ⟨i.val + 1, Nat.le_add_left _ _, i.isLt, origin_of_mem_ofText hc⟩
  | js =>
      obtain ⟨i, text, hscript, hc⟩ := exists_inline_of_mem_ownComments_js hc
      refine ⟨i.val + 1, text, Nat.le_add_left _ _, i.isLt, ?_, origin_of_mem_ofText hc⟩
      rw [Nat.add_sub_cancel, List.getElem?_eq_getElem i.isLt, ← hscript]
      rfl

theorem ownOrigin_or_linkedOrigin (hc : c ∈ p.scan fetch o) :
    p.OwnOrigin c.kind c.origin ∨ p.LinkedOrigin o c.kind c.origin := by
  obtain ⟨-, hown | ⟨url, hurl, hc⟩⟩ := mem_scan_iff.1 hc
  · exact Or.inl (ownOrigin_of_mem_ownComments hown)
  · obtain ⟨body, -, hc⟩ := exists_body_of_mem_answerComments hc
    obtain ⟨-, hlinked, hpatterns⟩ := mem_requests_iff.1 hurl
    exact Or.inr ⟨url, hlinked, origin_of_mem_ofText hc, hpatterns⟩

-- =============================================================== main

/-- Every comment of a scan is of a kind that was asked for, has a text
that is trimmed, not empty and kept by the classifier, and holds no mark
that would have ended it; its origin is the place in the page where it
stands, or the label of a linked resource that is not ignored. -/
theorem reported_comment (hc : c ∈ p.scan fetch o) :
    c.kind ∈ o.kinds ∧ c.text ≠ "" ∧ Text.trim c.text.toList = c.text.toList
      ∧ (∃ reason, classify c.kind c.text = .keep reason)
      ∧ match c.kind with
        | .html => ¬ "<!--".toList <:+: c.text.toList ∧ c.origin = "Document"
        | .css =>
          ¬ "*/".toList <:+: c.text.toList
            ∧ ((∃ i, 1 ≤ i ∧ i ≤ p.styles.length ∧ c.origin = "Inline style #" ++ toString i)
              ∨ ∃ url ∈ p.stylesheets, c.origin = originLabel url
                ∧ ∀ g ∈ o.ignore, g.accepts url = false ∧ g.accepts (originLabel url) = false)
        | .js =>
          ('\n' ∉ c.text.toList ∨ ¬ "*/".toList <:+: c.text.toList)
            ∧ ((∃ i text, 1 ≤ i ∧ i ≤ p.scripts.length
                  ∧ p.scripts[i - 1]? = some (.inline text)
                  ∧ c.origin = "Inline script #" ++ toString i)
              ∨ ∃ url, .external url ∈ p.scripts ∧ c.origin = originLabel url
                ∧ ∀ g ∈ o.ignore,
                    g.accepts url = false ∧ g.accepts (originLabel url) = false) := by
  obtain ⟨hne, htrimmed, hkept, hunmarked⟩ := cleaned_of_mem_scan hc
  have hplace := ownOrigin_or_linkedOrigin hc
  have hkinds : c.kind ∈ o.kinds := List.contains_iff_mem.1 (mem_scan_iff.1 hc).1
  have hreason : ∃ reason, classify c.kind c.text = .keep reason := by
    cases hverdict : classify c.kind c.text with
    | keep reason => exact ⟨reason, rfl⟩
    | discard found => rw [hverdict] at hkept; cases hkept
  refine ⟨hkinds, hne, htrimmed, hreason, ?_⟩
  cases hkind : c.kind with
  | html =>
      rw [hkind] at hunmarked hplace
      rcases hplace with hdocument | ⟨url, hurl, -⟩
      · exact ⟨hunmarked, hdocument⟩
      · cases hurl
  | css =>
      rw [hkind] at hunmarked hplace
      exact ⟨hunmarked, hplace⟩
  | js =>
      rw [hkind] at hunmarked hplace
      refine ⟨hunmarked, hplace.imp_right ?_⟩
      rintro ⟨url, hurl, hlabel⟩
      obtain ⟨script, hscript, hexternal⟩ := List.mem_filterMap.1 hurl
      cases script with
      | inline text => cases hexternal
      | external link =>
          obtain rfl := Option.some.inj hexternal
          exact ⟨link, hscript, hlabel⟩

/-- A comment of an inline script that stands after a linked one. -/
theorem reported_comment_second_script :
    let p : Page :=
      { styles := ["/* Grid */"]
        scripts := [.external "http://b/app.js", .inline "x = 1; //  Wire up */ again "] }
    let c : Comment := ⟨.js, "Wire up */ again", "Inline script #2"⟩
    c ∈ p.scan (fun _ => .ok "// Wire up the menu") .standard
      ∧ ('\n' ∉ c.text.toList ∨ ¬ "*/".toList <:+: c.text.toList)
      ∧ ((∃ i text, 1 ≤ i ∧ i ≤ p.scripts.length
            ∧ p.scripts[i - 1]? = some (.inline text)
            ∧ c.origin = "Inline script #" ++ toString i)
        ∨ ∃ url, .external url ∈ p.scripts ∧ c.origin = originLabel url
          ∧ ∀ g ∈ Options.standard.ignore,
              g.accepts url = false ∧ g.accepts (originLabel url) = false) := by
  intro p c
  have hc : c ∈ p.scan (fun _ => .ok "// Wire up the menu") .standard := by decide +kernel
  exact ⟨hc, (reported_comment hc).2.2.2.2⟩

end Marginalia.Page
