/-
The options of a scan only leave out. Which kinds are collected, whether
linked resources are fetched and which of them are ignored decide what a
scan takes in; they move nothing, relabel nothing and stop nothing early.

A scan for several kinds is the scans for one kind put one after the
other (`commentsOfKind_eq_gather`), so that the kinds that are asked for
matter as a set. Within a kind only the list of requests looks at the
other options, and it is a filter: another pattern takes requests out of
it, with the comments in the answers, and leaves the rest in its order
(`requests_sublist`). The pattern that matches every name takes out all.
-/
import Mathlib.Data.List.Flatten
import Marginalia.Proofs.Config.Loading
import Marginalia.Proofs.Scan.Aggregation

namespace Marginalia

namespace Glob

-- ======================================================= every name

/-- The pattern that matches every name. -/
def star : Glob :=
  ⟨"*", [.anyText]⟩

theorem parse_star : parse "*" = .ok star :=
  eq_ok_of_toOption (by decide +kernel)

theorem accepts_star (name : String) : star.accepts name = true := by
  show atSomeSuffix (matchesAll []) name.toList = true
  induction name.toList with
  | nil => rfl
  | cons c r ih => rw [atSomeSuffix, ih, Bool.or_true]

end Glob

namespace Page

variable (p : Page) (fetch : Fetcher) (o : Options)

-- ============================================================= kinds

/-- Options act through the kinds they include and the resources they ask
for. -/
theorem gather_congr {o o' : Options} (hincludes : ∀ kind, o.includes kind = o'.includes kind)
    (hrequests : ∀ urls, o.requests urls = o'.requests urls) :
    p.gather fetch o = p.gather fetch o' := by
  have hkind : p.commentsOfKind fetch o = p.commentsOfKind fetch o' := by
    funext kind
    unfold commentsOfKind linkedComments
    rw [hincludes, hrequests]
  unfold gather
  rw [hkind]

/-- Kinds count by whether they are asked for. -/
theorem gather_congr_kinds {kinds : List Kind} (h : ∀ kind, kind ∈ kinds ↔ kind ∈ o.kinds) :
    p.gather fetch { o with kinds } = p.gather fetch o := by
  refine gather_congr p fetch (fun kind => ?_) fun urls => rfl
  rw [Bool.eq_iff_iff, Options.includes, Options.includes, List.contains_iff_mem,
    List.contains_iff_mem]
  exact h kind

/-- A kind that is the only one asked for. -/
theorem includes_singleton_iff {kind other : Kind} :
    Options.includes { o with kinds := [kind] } other = true ↔ other = kind := by
  rw [Options.includes, List.contains_iff_mem, List.mem_singleton]

/-- Of a list for each kind, the one that is not empty. -/
theorem flatMap_all_eq_of_nil {α : Type} {f : Kind → List α} {kind : Kind}
    (h : ∀ other, other ≠ kind → f other = []) : Kind.all.flatMap f = f kind := by
  simp only [Kind.all, List.flatMap_cons, List.flatMap_nil, List.append_nil]
  cases kind with
  | html => rw [h .css (by decide), h .js (by decide), List.append_nil, List.append_nil]
  | css => rw [h .html (by decide), h .js (by decide), List.append_nil, List.nil_append]
  | js => rw [h .html (by decide), h .css (by decide), List.nil_append, List.nil_append]

/-- What a scan does for a kind is what it does where no other kind is
asked for. -/
theorem commentsOfKind_eq_gather {kind : Kind} (h : o.includes kind = true) :
    p.commentsOfKind fetch o kind = p.gather fetch { o with kinds := [kind] } := by
  have hother : ∀ other, other ≠ kind →
      p.commentsOfKind fetch { o with kinds := [kind] } other = pure [] := by
    intro other hne
    have hnot : ¬ Options.includes { o with kinds := [kind] } other = true := by
      rwa [includes_singleton_iff]
    exact if_neg hnot
  have hsame : p.commentsOfKind fetch { o with kinds := [kind] } kind
      = p.commentsOfKind fetch o kind := by
    unfold commentsOfKind
    rw [if_pos h, if_pos ((includes_singleton_iff o).2 rfl)]
    rfl
  rw [Fetching.ext_iff_parts, ← hsame]
  constructor
  · rw [value_gather, flatMap_all_eq_of_nil]
    intro other hne
    rw [hother other hne]
    rfl
  · rw [fetched_gather, requests, flatMap_all_eq_of_nil]
    · exact fetched_commentsOfKind p fetch _ kind
    · intro other hne
      rw [← fetched_commentsOfKind p fetch, hother other hne]
      rfl

/-- A scan is the scans for the single kinds that are asked for, in the
order of kinds. -/
theorem gather_eq_flatMap_single :
    (p.gather fetch o).value
        = ((Kind.all.filter o.includes).flatMap fun kind =>
            (p.gather fetch { o with kinds := [kind] }).value)
      ∧ (p.gather fetch o).fetched
        = (Kind.all.filter o.includes).flatMap fun kind =>
            (p.gather fetch { o with kinds := [kind] }).fetched := by
  have hleft : ∀ kind, o.includes kind = false → p.commentsOfKind fetch o kind = pure [] := by
    intro kind h
    exact if_neg (Bool.eq_false_iff.1 h)
  constructor
  · rw [value_gather, ← flatMap_filter_of_nil (q := o.includes)]
    · refine List.flatMap_congr fun kind hkind => ?_
      rw [commentsOfKind_eq_gather p fetch o (List.mem_filter.1 hkind).2]
    · intro kind _ h
      rw [hleft kind h]
      rfl
  · rw [fetched_gather, requests, ← flatMap_filter_of_nil (q := o.includes)]
    · refine List.flatMap_congr fun kind hkind => ?_
      rw [← commentsOfKind_eq_gather p fetch o (List.mem_filter.1 hkind).2,
        fetched_commentsOfKind]
    · intro kind _ h
      rw [← fetched_commentsOfKind p fetch, hleft kind h]
      rfl

-- ========================================================== ignoring

variable {o} {more : List Glob}

/-- Another pattern leaves requests out and the others in order. -/
theorem requests_sublist (h : ∀ g ∈ o.ignore, g ∈ more) (urls : List String) :
    (Options.requests { o with ignore := more } urls).Sublist (o.requests urls) := by
  have hfilter : (urls.filter fun url =>
        !Options.ignores { o with ignore := more } url (originLabel url)).Sublist
      (urls.filter fun url => !o.ignores url (originLabel url)) := by
    refine List.monotone_filter_right urls fun url hurl => ?_
    rw [Bool.not_eq_true', Options.ignores, List.any_eq_false] at hurl ⊢
    exact fun g hg => hurl g (h g hg)
  unfold Options.requests
  split
  · exact hfilter
  · exact List.Sublist.refl []

theorem commentsOfKind_sublist (h : ∀ g ∈ o.ignore, g ∈ more) (kind : Kind) :
    (p.commentsOfKind fetch { o with ignore := more } kind).value.Sublist
        (p.commentsOfKind fetch o kind).value
      ∧ (p.requestsFor { o with ignore := more } kind).Sublist (p.requestsFor o kind) := by
  have hrequests := requests_sublist h (p.links kind)
  rw [value_commentsOfKind, value_commentsOfKind, value_linkedComments, value_linkedComments,
    requestsFor, requestsFor]
  have hsame : Options.includes { o with ignore := more } kind = o.includes kind := rfl
  rw [hsame]
  split
  · exact ⟨(List.Sublist.refl _).append (hrequests.flatMap _), hrequests⟩
  · exact ⟨List.Sublist.refl [], List.Sublist.refl []⟩

/-- Under another pattern a scan finds a part of what it finds without it,
and asks for a part of what it asks for. -/
theorem gather_sublist (h : ∀ g ∈ o.ignore, g ∈ more) :
    (p.gather fetch { o with ignore := more }).value.Sublist (p.gather fetch o).value
      ∧ (p.gather fetch { o with ignore := more }).fetched.Sublist
          (p.gather fetch o).fetched := by
  rw [value_gather, value_gather, fetched_gather, fetched_gather]
  exact ⟨List.Sublist.flatMap_right _ fun kind _ => (commentsOfKind_sublist p fetch h kind).1,
    List.Sublist.flatMap_right _ fun kind _ => (commentsOfKind_sublist p fetch h kind).2⟩

/-- What is asked for is linked to and matched by no pattern. -/
theorem mem_fetched {url : String} (h : url ∈ (p.gather fetch o).fetched) :
    o.fetchExternal = true
      ∧ ∀ g ∈ o.ignore, g.accepts url = false ∧ g.accepts (originLabel url) = false := by
  rw [fetched_gather] at h
  obtain ⟨kind, -, h⟩ := List.mem_flatMap.1 h
  unfold requestsFor at h
  split at h
  · obtain ⟨hfetch, -, hpatterns⟩ := mem_requests_iff.1 h
    exact ⟨hfetch, hpatterns⟩
  · cases h

/-- To fetch nothing comes to the same as to ignore every name. -/
theorem gather_fetch_nothing :
    p.gather fetch { o with fetchExternal := false }
      = p.gather fetch { o with ignore := [Glob.star] } := by
  refine gather_congr p fetch (fun kind => rfl) fun urls => ?_
  have hnone : Options.requests { o with fetchExternal := false } urls = [] := rfl
  rw [hnone, eq_comm, List.eq_nil_iff_forall_not_mem]
  intro url hurl
  obtain ⟨-, -, hpatterns⟩ := mem_requests_iff.1 hurl
  have hstar := (hpatterns Glob.star List.mem_cons_self).1
  rw [Glob.accepts_star] at hstar
  cases hstar

-- =============================================================== main

/-- The options of a scan are filters. The kinds count as a set, and a scan
is the scans for its single kinds in the order of kinds. With more patterns
to ignore, a scan finds and asks for a part of what it finds and asks for
otherwise, in the same order, and for nothing that one of the patterns
matches. Not to fetch linked resources is to ignore every name. -/
theorem options_filter (p : Page) (fetch : Fetcher) (o : Options) :
    (∀ kinds : List Kind, (∀ kind, kind ∈ kinds ↔ kind ∈ o.kinds) →
        p.scan fetch { o with kinds } = p.scan fetch o
          ∧ (p.gather fetch { o with kinds }).fetched = (p.gather fetch o).fetched)
      ∧ p.scan fetch o
          = ((Kind.all.filter (· ∈ o.kinds)).flatMap fun kind =>
              p.scan fetch { o with kinds := [kind] })
      ∧ (p.gather fetch o).fetched
          = ((Kind.all.filter (· ∈ o.kinds)).flatMap fun kind =>
              (p.gather fetch { o with kinds := [kind] }).fetched)
      ∧ (∀ more : List Glob, (∀ g ∈ o.ignore, g ∈ more) →
          (p.scan fetch { o with ignore := more }).Sublist (p.scan fetch o)
            ∧ (p.gather fetch { o with ignore := more }).fetched.Sublist
                (p.gather fetch o).fetched
            ∧ ∀ url ∈ (p.gather fetch { o with ignore := more }).fetched, ∀ g ∈ more,
                g.accepts url = false ∧ g.accepts (originLabel url) = false)
      ∧ ∃ star : Glob, Glob.parse "*" = .ok star ∧ (∀ name, star.accepts name = true)
          ∧ p.scan fetch { o with fetchExternal := false }
              = p.scan fetch { o with ignore := [star] }
          ∧ (p.gather fetch { o with fetchExternal := false }).fetched = []
          ∧ (p.gather fetch { o with ignore := [star] }).fetched = [] := by
  have hincluded : Kind.all.filter (· ∈ o.kinds) = Kind.all.filter o.includes := by
    refine List.filter_congr fun kind _ => ?_
    rw [Bool.eq_iff_iff, decide_eq_true_iff, Options.includes, List.contains_iff_mem]
  obtain ⟨hfound, hasked⟩ := gather_eq_flatMap_single p fetch o
  have hnothing : (p.gather fetch { o with fetchExternal := false }).fetched = [] := by
    rw [List.eq_nil_iff_forall_not_mem]
    intro url hurl
    exact Bool.false_ne_true (mem_fetched p fetch hurl).1
  refine ⟨?_, ?_, ?_, ?_, ?_⟩
  · intro kinds h
    unfold scan
    rw [gather_congr_kinds p fetch o h]
    exact ⟨rfl, rfl⟩
  · rw [hincluded]
    exact hfound
  · rw [hincluded]
    exact hasked
  · intro more h
    obtain ⟨hpart, hrequests⟩ := gather_sublist p fetch h
    exact ⟨hpart, hrequests, fun url hurl => (mem_fetched p fetch hurl).2⟩
  · refine ⟨Glob.star, Glob.parse_star, Glob.accepts_star, ?_, hnothing, ?_⟩
    · unfold scan
      rw [gather_fetch_nothing]
    · rw [← gather_fetch_nothing, hnothing]

/-- A page with two stylesheets, of which the second is ignored by its
label and then the first by its URL as well. -/
theorem options_filter_stylesheets :
    let p : Page :=
      { styles := ["/* Grid */"], stylesheets := ["http://a/x.css", "http://a/y.css"],
        scripts := [.external "http://b/z.js"] }
    let fetch : Fetcher := fun _ => .ok "/* Grid overrides */"
    let label : Glob := ⟨"y.css", "y.css".toList.map .char⟩
    let url : Glob := ⟨"*x.css", .anyText :: "x.css".toList.map .char⟩
    let o : Options := ⟨[.js, .css, .js], true, [label]⟩
    (∀ kind, kind ∈ [Kind.css, .js] ↔ kind ∈ o.kinds)
      ∧ p.scan fetch { o with kinds := [.css, .js] } = p.scan fetch o
      ∧ (∀ g ∈ o.ignore, g ∈ [url, label])
      ∧ (p.gather fetch o).fetched = ["http://a/x.css", "http://b/z.js"]
      ∧ (p.gather fetch { o with ignore := [url, label] }).fetched = ["http://b/z.js"]
      ∧ (p.scan fetch { o with ignore := [url, label] }).Sublist (p.scan fetch o) := by
  intro p fetch label url o
  have hkinds : ∀ kind, kind ∈ [Kind.css, .js] ↔ kind ∈ o.kinds := by
    intro kind
    cases kind with
    | html => decide
    | css => decide
    | js => decide
  have hmore : ∀ g ∈ o.ignore, g ∈ [url, label] := by decide
  obtain ⟨hset, -, -, hpatterns, -⟩ := options_filter p fetch o
  exact ⟨hkinds, (hset _ hkinds).1, hmore, by decide +kernel, by decide +kernel,
    (hpatterns _ hmore).1⟩

end Page

end Marginalia
