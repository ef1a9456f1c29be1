/-
Failures stay where they are. What a scan finds is put together from
parts, the comments of a kind in the page itself and those of each
linked resource, and which parts there are, and in which order, does not
depend on any answer (`Page.parts`). An answer only decides what its own
part holds, and a failure empties it (`partComments_of_error`). So two
scans that are answered differently for one URL differ in the parts for
that URL, and nowhere else.

Together with the schedules (Schedule.lean) this is all that a scan owes
to the outside: neither the order of the answers nor the failure of some
of them is seen by the other resources.
-/
import Marginalia.Proofs.Scan.Schedule

namespace Marginalia

-- =========================================================== the parts

/-- A part of what a scan finds. -/
inductive Part where
  /-- The comments of a kind in the page itself. -/
  | own (kind : Kind)
  /-- The comments in one linked resource. -/
  | linked (kind : Kind) (url : String)
deriving DecidableEq, Repr

/-- The URL that a part is asked for with. -/
def Part.url? : Part → Option String
  | own _ => none
  | linked _ url => some url

namespace Page

variable {p : Page} {o : Options} {fetch fetch' : Fetcher} {u : String}

/-- The parts of what a scan finds, in order; a resource that is linked
to twice is two parts. -/
def parts (p : Page) (o : Options) : List Part :=
  Kind.all.flatMap fun kind =>
    if o.includes kind then .own kind :: (o.requests (p.links kind)).map (.linked kind)
    else []

/-- The comments of a part. -/
def partComments (p : Page) (fetch : Fetcher) : Part → List Comment
  | .own kind => p.ownComments kind
  | .linked kind url => answerComments kind url (fetch url)

theorem scan_eq_flatMap_parts (p : Page) (fetch : Fetcher) (o : Options) :
    p.scan fetch o = (p.parts o).flatMap (p.partComments fetch) := by
  unfold scan parts
  rw [value_gather, List.flatMap_assoc]
  refine List.flatMap_congr fun kind _ => ?_
  rw [value_commentsOfKind, value_linkedComments]
  split
  · rw [List.flatMap_cons, List.flatMap_map]
    rfl
  · rfl

/-- A part does not depend on what other URLs are answered. -/
theorem partComments_congr (h : ∀ url, url ≠ u → fetch url = fetch' url) {part : Part}
    (hpart : part.url? ≠ some u) : p.partComments fetch part = p.partComments fetch' part := by
  cases part with
  | own kind => rfl
  | linked kind url =>
      have hurl : url ≠ u := fun hu => hpart (congrArg some hu)
      exact congrArg (answerComments kind url) (h url hurl)

/-- A resource that cannot be fetched has no comments. -/
theorem partComments_of_error {e : FetchError} (h : fetch u = .error e) {part : Part}
    (hpart : part.url? = some u) : p.partComments fetch part = [] := by
  cases part with
  | own kind => cases hpart
  | linked kind url =>
      have hurl : url = u := Option.some.inj hpart
      show answerComments kind url (fetch url) = []
      rw [hurl, h]
      rfl

/-- What is found without a URL is all that is found when it fails. -/
theorem flatMap_parts_of_error {e : FetchError} (h : fetch u = .error e)
    (parts : List Part) :
    parts.flatMap (p.partComments fetch)
      = (parts.filter fun part => part.url? ≠ some u).flatMap (p.partComments fetch) := by
  refine (flatMap_filter_of_nil fun part _ hpart => partComments_of_error h ?_).symm
  simpa using hpart

-- ====================================================== the whole scan

open Schedule

/-- Under every schedule a scan comes to its end, with the same result:
whatever the requests are answered, the order of the answers makes no
difference, and any order can occur. No script is asked for before all
stylesheets have been answered. Two scans that are answered differently
for one URL consist of the same parts in the same order, of which only
those for that URL may differ; where it fails, these are empty and all
others are there. -/
theorem scan_isolated (p : Page) (o : Options) :
    (∀ net : Network, ∃ found : List Comment, ∀ events s,
        Run p o net start events s → s.Finished → s.collected = found)
      ∧ (∀ fetch events s, Run p o fetch.network start events s → s.Finished →
          s.collected = p.scan fetch o
            ∧ events.flatMap Event.urls = (p.gather fetch o).fetched)
      ∧ (∀ (net : Network) (order : Kind → List Nat),
          (∀ kind, (order kind).Perm (List.range (p.requestsFor o kind).length)) →
            ∃ s, Run p o net start (Kind.all.flatMap (inOrder p o order)) s ∧ s.Finished)
      ∧ (∀ (net : Network) events s, Run p o net start events s →
          ∃ more s', Run p o net s more s' ∧ s'.Finished)
      ∧ (∀ (net : Network) before urls later s,
          Run p o net start (before ++ .issue .js urls :: later) s →
            ∀ place < (p.requestsFor o .css).length, .settle .css place ∈ before)
      ∧ (∀ (fetch fetch' : Fetcher) (u : String),
          (∀ url, url ≠ u → fetch url = fetch' url) →
            p.scan fetch o = (p.parts o).flatMap (p.partComments fetch)
              ∧ p.scan fetch' o = (p.parts o).flatMap (p.partComments fetch')
              ∧ (∀ part, part.url? ≠ some u →
                  p.partComments fetch part = p.partComments fetch' part)
              ∧ ∀ e, fetch u = .error e →
                  (∀ part, part.url? = some u → p.partComments fetch part = [])
                    ∧ p.scan fetch o
                      = ((p.parts o).filter fun part => part.url? ≠ some u).flatMap
                          (p.partComments fetch')) := by
  refine ⟨?_, ?_, ?_, ?_, ?_, ?_⟩
  · intro net
    exact ⟨_, fun events s => collected_of_run⟩
  · intro fetch events s hrun hs
    constructor
    · rw [collected_of_run hrun hs]
      unfold scan
      rw [value_gather]
      exact List.flatMap_congr fun kind _ => commentsOf_network p o fetch kind
    · rw [asked_of_run hrun hs, fetched_gather]
  · intro net order horder
    exact exists_run_inOrder p o net horder [] Kind.all
  · intro net events s _
    exact exists_run_finished p o net s
  · intro net before urls later s hrun
    exact answered_css_of_issue_js hrun
  · intro fetch fetch' u h
    refine ⟨scan_eq_flatMap_parts p fetch o, scan_eq_flatMap_parts p fetch' o,
      fun part => partComments_congr h, ?_⟩
    intro e he
    refine ⟨fun part => partComments_of_error he, ?_⟩
    rw [scan_eq_flatMap_parts, flatMap_parts_of_error he]
    refine List.flatMap_congr fun part hpart => partComments_congr h ?_
    simpa using (List.mem_filter.1 hpart).2

/-- Two stylesheets of which the second is answered first, and the first
not at all. -/
theorem scan_isolated_reversed :
    let p : Page := { stylesheets := ["a.css", "b.css"] }
    let fetch : Fetcher := fun _ => .ok "/* Grid overrides */"
    let failing : Fetcher := fetch.change "a.css" (.error (.status "a.css" missingStatus))
    let order : Kind → List Nat := fun kind => if kind = .css then [1, 0] else []
    (∃ s, Run p .standard failing.network start (Kind.all.flatMap (inOrder p .standard order)) s
        ∧ s.Finished ∧ s.collected = p.scan failing .standard)
      ∧ p.scan failing .standard
        = ((p.parts .standard).filter fun part => part.url? ≠ some "a.css").flatMap
            (p.partComments fetch) := by
  intro p fetch failing order
  have horder : ∀ kind,
      (order kind).Perm (List.range (p.requestsFor .standard kind).length) := by
    intro kind
    cases kind with
    | html => decide
    | css => decide
    | js => decide
  have hsame : ∀ url, url ≠ "a.css" → failing url = fetch url := fun _ hurl => if_neg hurl
  obtain ⟨-, hfound, hrun, -, -, hisolated⟩ := scan_isolated p .standard
  obtain ⟨s, hs, hfinished⟩ := hrun failing.network order horder
  obtain ⟨-, -, -, hwithout⟩ := hisolated failing fetch "a.css" hsame
  exact ⟨⟨s, hs, hfinished, (hfound failing _ s hs hfinished).1⟩, (hwithout _ rfl).2⟩

end Page

end Marginalia
