/-
Kinds through extraction. A comment has the kind of the resource it was
taken from: a span has the kind it was looked for with, cleaning keeps
it, and judging only leaves comments out. What a scan finds is therefore
ordered by kind, since a scan takes one kind after the other, and a scan
for some kinds is a part of a scan for every kind (`scan_eq_filter`).
-/
import Marginalia.Proofs.Scan.Aggregation

namespace Marginalia

namespace Extract

theorem kind_of_clean? {s : Span} {c : Comment} (h : s.clean? = some c) :
    c.kind = s.kind := by
  unfold Span.clean? at h
  split at h
  · cases h
  · injection h with h
    rw [← h]

theorem kind_of_mem_retain {spans : List Span} {k : Kind}
    (hspans : ∀ s ∈ spans, s.kind = k) :
    ∀ c ∈ retain spans, c.kind = k := by
  intro c hc
  obtain ⟨s, hs, hclean⟩ := List.mem_filterMap.1 (List.mem_of_mem_filter hc)
  rw [kind_of_clean? hclean, hspans s hs]

theorem kind_of_mem_ofNodes {nodes : List String} {origin : String} :
    ∀ c ∈ ofNodes nodes origin, c.kind = .html := by
  apply kind_of_mem_retain
  intro s hs
  obtain ⟨raw, -, rfl⟩ := List.mem_map.1 hs
  rfl

theorem kind_of_mem_ofText {kind : Kind} {text origin : String} :
    ∀ c ∈ ofText kind text origin, c.kind = kind := by
  cases kind with
  | html => exact kind_of_mem_ofNodes
  | css =>
      apply kind_of_mem_retain
      intro s hs
      obtain ⟨raw, -, rfl⟩ := List.mem_map.1 hs
      rfl
  | js =>
      apply kind_of_mem_retain
      intro s hs
      obtain ⟨raw, -, rfl⟩ := List.mem_map.1 hs
      rfl

end Extract

namespace Page

open Extract

theorem kind_of_mem_ownComments {p : Page} {kind : Kind} :
    ∀ c ∈ p.ownComments kind, c.kind = kind := by
  intro c hc
  cases kind with
  | html => exact kind_of_mem_ofNodes c hc
  | css =>
      rw [ownComments_css] at hc
      obtain ⟨i, -, hc⟩ := List.mem_flatMap.1 hc
      exact kind_of_mem_ofText c hc
  | js =>
      rw [ownComments_js] at hc
      obtain ⟨i, -, hc⟩ := List.mem_flatMap.1 hc
      split at hc
      · cases hc
      · split at hc
        · cases hc
        · exact kind_of_mem_ofText c hc

theorem kind_of_mem_linkedComments {p : Page} {fetch : Fetcher} {o : Options}
    {kind : Kind} :
    ∀ c ∈ (p.linkedComments fetch o kind).value, c.kind = kind := by
  intro c hc
  rw [value_linkedComments] at hc
  obtain ⟨url, -, hc⟩ := List.mem_flatMap.1 hc
  cases hanswer : fetch url with
  | error e => rw [hanswer] at hc; cases hc
  | ok body => rw [hanswer] at hc; exact kind_of_mem_ofText c hc

theorem kind_of_mem_commentsOfKind {p : Page} {fetch : Fetcher} {o : Options}
    {kind : Kind} :
    ∀ c ∈ (p.commentsOfKind fetch o kind).value, c.kind = kind := by
  intro c hc
  rw [value_commentsOfKind] at hc
  split at hc
  · rcases List.mem_append.1 hc with hc | hc
    · exact kind_of_mem_ownComments c hc
    · exact kind_of_mem_linkedComments c hc
  · cases hc

/-- A scan for some kinds finds what a scan for every kind finds of
those. -/
theorem scan_eq_filter (p : Page) (fetch : Fetcher) (o : Options) :
    p.scan fetch o
      = (p.scan fetch { o with kinds := Kind.all }).filter fun c => o.includes c.kind := by
  unfold scan
  rw [value_gather, value_gather, List.filter_flatMap]
  refine List.flatMap_congr fun kind _ => ?_
  have hall : Options.includes { o with kinds := Kind.all } kind = true := by
    cases kind <;> rfl
  have hkind : ∀ c ∈ (p.commentsOfKind fetch { o with kinds := Kind.all } kind).value,
      c.kind = kind := kind_of_mem_commentsOfKind
  rw [value_commentsOfKind, if_pos hall] at hkind
  rw [value_commentsOfKind, value_commentsOfKind, if_pos hall]
  cases hincludes : o.includes kind with
  | true =>
      rw [if_pos rfl]
      refine (List.filter_eq_self.2 fun c hc => ?_).symm
      rw [hkind c hc]
      exact hincludes
  | false =>
      rw [if_neg Bool.false_ne_true]
      refine (List.filter_eq_nil_iff.2 fun c hc => ?_).symm
      rw [hkind c hc, hincludes]
      exact Bool.false_ne_true

end Page

end Marginalia
