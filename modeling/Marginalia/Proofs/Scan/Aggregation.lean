/-
What a scan collects. A scan runs through the kinds, asks for resources
on the way and puts the answers together as they come; this file takes
that run apart. `gather_closed` says in one equation what it finds, and
in which order, and what it asks for.

The two numberings of a page are the point of care. Style elements are
counted among themselves, but scripts are counted together with the
links between them and with the blank ones, so that the number in an
origin is the position in the page (`ownComments_js`). Nothing that is
left out takes a number away from what follows it.
-/
import Mathlib.Data.List.FinRange
import Marginalia.Proofs.Scan.Fetching
import Marginalia.Scan

namespace Marginalia.Page

-- ========================================================== numbering

/-- A numbered list is a list by positions. -/
theorem zipIdx_eq_map_finRange {α : Type} (l : List α) (k : Nat) :
    l.zipIdx k = (List.finRange l.length).map fun i => (l.get i, k + i.val) := by
  apply List.ext_getElem
  · rw [List.length_zipIdx, List.length_map, List.length_finRange]
  · intro i hl hr
    rw [List.getElem_zipIdx, List.getElem_map, List.getElem_finRange]
    rfl

/-- Members with nothing to them can be left out. -/
theorem flatMap_filter_of_nil {α β : Type} {l : List α} {q : α → Bool} {f : α → List β}
    (h : ∀ a ∈ l, q a = false → f a = []) : (l.filter q).flatMap f = l.flatMap f := by
  induction l with
  | nil => rfl
  | cons a l ih =>
      have hrest := ih fun b hb => h b (List.mem_cons_of_mem a hb)
      cases ha : q a with
      | true =>
          rw [List.filter_cons_of_pos ha, List.flatMap_cons, List.flatMap_cons, hrest]
      | false =>
          rw [List.filter_cons_of_neg (by simp [ha]), List.flatMap_cons,
            h a List.mem_cons_self ha, List.nil_append, hrest]

theorem ownComments_css (p : Page) :
    p.ownComments .css
      = (List.finRange p.styles.length).flatMap fun i =>
          Extract.ofText .css (p.styles.get i)
            ("Inline style #" ++ toString (i.val + 1)) := by
  show (p.styles.zipIdx 1).flatMap _ = _
  rw [zipIdx_eq_map_finRange, List.flatMap_map]
  refine List.flatMap_congr fun i _ => ?_
  rw [Nat.add_comm 1]
  rfl

theorem ownComments_js (p : Page) :
    p.ownComments .js
      = (List.finRange p.scripts.length).flatMap fun i =>
          match p.scripts.get i with
          | .external _ => []
          | .inline text =>
            if (Text.trim text.toList).isEmpty then []
            else Extract.ofText .js text ("Inline script #" ++ toString (i.val + 1)) := by
  show (p.scripts.zipIdx 1).flatMap _ = _
  rw [zipIdx_eq_map_finRange, List.flatMap_map]
  refine List.flatMap_congr fun i _ => ?_
  rw [Nat.add_comm 1]
  cases p.scripts.get i with
  | external url => rfl
  | inline text => rfl

-- ======================================================= one kind's run

/-- Resources are asked for where any are fetched, apart from those whose
URL or label a pattern matches. -/
theorem mem_requests_iff {o : Options} {urls : List String} {url : String} :
    url ∈ o.requests urls
      ↔ o.fetchExternal = true ∧ url ∈ urls
        ∧ ∀ g ∈ o.ignore, g.accepts url = false ∧ g.accepts (originLabel url) = false := by
  unfold Options.requests
  split
  · next hfetch =>
    rw [List.mem_filter, and_iff_right hfetch, Options.ignores, Bool.not_eq_true',
      List.any_eq_false]
    simp only [Bool.or_eq_true, not_or, Bool.not_eq_true]
  · next hnone => simp [hnone]

theorem value_linkedComments (p : Page) (fetch : Fetcher) (o : Options)
    (kind : Kind) :
    (p.linkedComments fetch o kind).value
      = (o.requests (p.links kind)).flatMap fun url =>
          answerComments kind url (fetch url) := by
  unfold linkedComments
  rw [Fetching.value_bind, Fetching.value_mapM, Fetching.value_pure,
    List.flatMap_def]
  rfl

/-- Each resource is asked for once for each time it is linked to,
whatever the answers are. -/
theorem fetched_linkedComments (p : Page) (fetch : Fetcher) (o : Options)
    (kind : Kind) :
    (p.linkedComments fetch o kind).fetched = o.requests (p.links kind) := by
  unfold linkedComments
  rw [Fetching.fetched_bind, Fetching.fetched_mapM, Fetching.fetched_pure,
    List.append_nil]
  exact List.flatMap_singleton' _

theorem value_commentsOfKind (p : Page) (fetch : Fetcher) (o : Options)
    (kind : Kind) :
    (p.commentsOfKind fetch o kind).value
      = if o.includes kind then
          p.ownComments kind ++ (p.linkedComments fetch o kind).value
        else [] := by
  unfold commentsOfKind
  split
  case isTrue => rfl
  case isFalse => rfl

theorem fetched_commentsOfKind (p : Page) (fetch : Fetcher) (o : Options)
    (kind : Kind) :
    (p.commentsOfKind fetch o kind).fetched = p.requestsFor o kind := by
  unfold commentsOfKind requestsFor
  split
  case isTrue =>
    rw [Fetching.fetched_bind, Fetching.fetched_pure, List.append_nil,
      fetched_linkedComments]
  case isFalse => rfl

-- ====================================================== the whole run

theorem value_gather (p : Page) (fetch : Fetcher) (o : Options) :
    (p.gather fetch o).value
      = Kind.all.flatMap fun kind => (p.commentsOfKind fetch o kind).value := by
  unfold gather
  rw [Fetching.value_bind, Fetching.value_mapM, Fetching.value_pure,
    List.flatMap_def]

/-- What a scan asks for does not depend on what it is answered. -/
theorem fetched_gather (p : Page) (fetch : Fetcher) (o : Options) :
    (p.gather fetch o).fetched = p.requests o := by
  unfold gather requests
  rw [Fetching.fetched_bind, Fetching.fetched_mapM, Fetching.fetched_pure,
    List.append_nil]
  simp only [fetched_commentsOfKind]

/-- A scan finds the comments of the document, then those of the style
elements and of the stylesheets, then those of the script elements and
of the linked scripts, and asks for nothing but the linked resources. -/
theorem gather_closed (p : Page) (fetch : Fetcher) (o : Options) :
    let asked (urls : List String) : List String :=
      if o.fetchExternal then
        urls.filter fun url => !o.ignores url (originLabel url)
      else []
    let linked (kind : Kind) (urls : List String) : List Comment :=
      (asked urls).flatMap fun url =>
        match fetch url with
        | .ok body => Extract.ofText kind body (originLabel url)
        | .error _ => []
    let scriptLinks : List String :=
      p.scripts.filterMap fun
        | .external url => some url
        | .inline _ => none
    p.scan fetch o
        = (if o.includes .html then Extract.ofNodes p.comments "Document" else [])
          ++ (if o.includes .css then
                ((List.finRange p.styles.length).flatMap fun i =>
                  Extract.ofText .css (p.styles.get i)
                    ("Inline style #" ++ toString (i.val + 1)))
                ++ linked .css p.stylesheets
              else [])
          ++ (if o.includes .js then
                ((List.finRange p.scripts.length).flatMap fun i =>
                  match p.scripts.get i with
                  | .external _ => []
                  | .inline text =>
                    if (Text.trim text.toList).isEmpty then []
                    else Extract.ofText .js text
                      ("Inline script #" ++ toString (i.val + 1)))
                ++ linked .js scriptLinks
              else [])
      ∧ (p.gather fetch o).fetched
        = (if o.includes .css then asked p.stylesheets else [])
          ++ (if o.includes .js then asked scriptLinks else []) := by
  intro asked linked scriptLinks
  have hlinks : p.links .js = scriptLinks := rfl
  have hlinked : ∀ kind urls, (o.requests urls).flatMap
      (fun url => answerComments kind url (fetch url)) = linked kind urls := by
    intro kind urls
    refine List.flatMap_congr fun url _ => ?_
    cases fetch url with
    | ok body => rfl
    | error e => rfl
  constructor
  · unfold scan
    rw [value_gather]
    simp only [Kind.all, List.flatMap_cons, List.flatMap_nil, List.append_nil,
      value_commentsOfKind, value_linkedComments, hlinked, ownComments_css,
      ownComments_js, hlinks, List.append_assoc]
    have hhtml : linked .html (p.links .html) = [] := by
      simp [linked, asked, links]
    rw [hhtml, List.append_nil]
    rfl
  · rw [fetched_gather]
    unfold requests
    simp only [Kind.all, List.flatMap_cons, List.flatMap_nil, List.append_nil,
      requestsFor, hlinks]
    have hhtml : o.requests (p.links .html) = [] := by
      simp [Options.requests, links]
    rw [hhtml, ite_self, List.nil_append]
    rfl

end Marginalia.Page
