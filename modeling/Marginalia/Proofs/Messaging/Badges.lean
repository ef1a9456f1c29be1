/-
The badges over a whole run. The background keeps no history, and still
the badge of a tab says something about the history: it counts the
comments of the latest report for the tab that has reached the
background. The badges are the reports in reverse (`badges_after`), and
looking a tab up finds the latest one for it (`lookup_noted`).

# Which steps a badge depends on

Of all the steps of a run, the badge of a tab depends on the reports for
that tab only, and through the number of comments found on the changes
of sites (`Step.concerns`). Leaving out all other steps does not change
it (`agrees_after_filter`): two runs are followed side by side that
agree on the pages and on this one badge. Steps of different tabs can
therefore change places.
-/
import Marginalia.Proofs.Messaging.Run

namespace Marginalia.World

variable {w w' : World} {tab : TabId} {s s' : Step}

-- ========================================================= the reports

/-- The reports that have reached the background, in order. -/
def reports (history : List (Step × Outcome)) : List (TabId × Nat) :=
  history.filterMap fun (s, o) => s.report? o.result

/-- The number of comments in the latest report for a tab. -/
def latestReport (tab : TabId) (history : List (Step × Outcome)) : Option Nat :=
  ((reports history).reverse.find? fun r => r.1 = tab).map (·.2)

theorem reports_cons (s : Step) (o : Outcome) (history : List (Step × Outcome)) :
    reports ((s, o) :: history) = (s.report? o.result).toList ++ reports history := by
  show List.filterMap _ _ = _
  cases hreport : s.report? o.result with
  | none => exact List.filterMap_cons_none hreport
  | some r => exact List.filterMap_cons_some hreport

/-- The badges are the reports, the latest first. -/
theorem badges_after (w : World) (steps : List Step) :
    (w.after steps).badges
      = (reports (w.history steps)).reverse.map reportNote ++ w.badges := by
  induction steps generalizing w with
  | nil => rfl
  | cons s steps ih =>
      have hhistory : w.history (s :: steps)
          = (s, w.step s) :: (w.step s).world.history steps := rfl
      have hbadges : (w.step s).world.badges
          = (s.report? (w.step s).result).toList.map reportNote ++ w.badges := by
        rw [world_step]
      have honce : (s.report? (w.step s).result).toList.reverse
          = (s.report? (w.step s).result).toList := by
        cases s.report? (w.step s).result with | _ => rfl
      show ((w.step s).world.after steps).badges = _
      rw [ih, hhistory, reports_cons, hbadges, List.reverse_append, List.map_append,
        List.append_assoc, honce]

theorem lookup_noted (tab : TabId) (l : List (TabId × Nat))
    (badges : List (TabId × Badge)) :
    (l.map reportNote ++ badges).lookup tab
      = ((l.find? fun r => r.1 = tab).map fun r => Badge.ofCount r.2).or
          (badges.lookup tab) := by
  induction l with
  | nil => rfl
  | cons r l ih =>
      rw [List.map_cons, List.cons_append, List.find?_cons]
      by_cases h : r.1 = tab
      · simp [h, reportNote]
      · have hne : (tab == r.1) = false := by simpa using Ne.symm h
        simp [h, hne, List.lookup_cons, reportNote, ih]

/-- Without a report for a tab it has the badge it had before, with one
the badge for the number of comments in the latest. -/
theorem badge?_after (w : World) (steps : List Step) (tab : TabId) :
    (w.after steps).badge? tab
      = ((latestReport tab (w.history steps)).map Badge.ofCount).or (w.badge? tab) := by
  unfold badge? latestReport
  rw [badges_after, lookup_noted, Option.map_map]
  rfl

-- ============================================== the steps that matter

/-- Whether a step matters for the badge of a tab: it reports to the
background for the tab, or changes a site, on which later reports
depend. -/
def Step.concerns (tab : TabId) : Step → Bool
  | .send .background sender (.set _) => sender = some tab
  | .load _ t .background => t = tab
  | .change _ _ _ => true
  | _ => false

/-- Two worlds that differ in the badges of other tabs at most. -/
def Agrees (tab : TabId) (w w' : World) : Prop :=
  w.pages = w'.pages ∧ w.badge? tab = w'.badge? tab

theorem badge?_step (w : World) (s : Step) (tab : TabId) :
    (w.step s).world.badge? tab
      = (((s.report? (w.step s).result).filter fun r => r.1 = tab).map
            fun r => Badge.ofCount r.2).or (w.badge? tab) := by
  unfold badge?
  rw [world_step, lookup_noted]
  congr 2
  cases s.report? (w.step s).result with
  | none => rfl
  | some r =>
      by_cases h : r.1 = tab
      · simp [h, Option.filter]
      · simp [h, Option.filter]

theorem Agrees.step (h : Agrees tab w w') (s : Step) :
    Agrees tab (w.step s).world (w'.step s).world := by
  constructor
  · rw [world_step, world_step, h.1]
  · rw [badge?_step, badge?_step, h.2, result_step_congr h.1]

/-- Reports come from two forms of steps only. -/
theorem Step.eq_of_report? {r : Result} {n : Nat} (h : s.report? r = some (tab, n)) :
    (∃ comments, s = .send .background (some tab) (.set comments))
      ∨ ∃ i, s = .load i tab .background := by
  unfold report? at h
  split at h
  · cases h
    exact Or.inl ⟨_, rfl⟩
  · cases h
    exact Or.inr ⟨_, rfl⟩
  · cases h

theorem badge?_step_of_no_report (h : ∀ n, s.report? (w.step s).result ≠ some (tab, n)) :
    (w.step s).world.badge? tab = w.badge? tab := by
  have hnone : ((s.report? (w.step s).result).filter fun r => r.1 = tab) = none := by
    rw [Option.filter_eq_none_iff]
    rintro ⟨t, n⟩ hreport ht
    have ht : t = tab := by simpa using ht
    exact h n (ht ▸ hreport)
  rw [badge?_step, hnone]
  rfl

/-- A step that does not concern a tab changes neither the pages nor the
badge of the tab. -/
theorem agrees_step_of_not_concerns (h : s.concerns tab = false) :
    Agrees tab (w.step s).world w := by
  constructor
  · rw [world_step]
    cases s with
    | change index url answer => cases h
    | _ => rfl
  · refine badge?_step_of_no_report fun n hreport => ?_
    rcases Step.eq_of_report? hreport with ⟨comments, rfl⟩ | ⟨i, rfl⟩
    · simp [Step.concerns] at h
    · simp [Step.concerns] at h

theorem agrees_after_filter (h : Agrees tab w w') (steps : List Step) :
    Agrees tab (w.after steps) (w'.after (steps.filter (Step.concerns tab))) := by
  induction steps generalizing w w' with
  | nil => exact h
  | cons s steps ih =>
      cases hs : s.concerns tab with
      | true =>
          rw [List.filter_cons_of_pos hs]
          exact ih (h.step s)
      | false =>
          rw [List.filter_cons_of_neg (by rw [hs]; decide)]
          have hskip : Agrees tab (w.step s).world w := agrees_step_of_not_concerns hs
          exact ih ⟨hskip.1.trans h.1, hskip.2.trans h.2⟩

-- ====================================================== the whole run

/-- The tab in which a step is taken, where it is taken in one. -/
def Step.tab? : Step → Option TabId
  | .send _ sender _ => sender
  | .load _ tab _ => some tab
  | _ => none

/-- A step taken in a tab concerns no other tab. -/
theorem Step.concerns_eq_false_of_tab? {t : TabId} (h : s.tab? = some t) (hne : t ≠ tab) :
    s.concerns tab = false := by
  cases s with
  | send receiver sender m =>
      have hsender : sender = some t := h
      rw [hsender]
      cases receiver with
      | background =>
          cases m with
          | get => rfl
          | set comments => simpa [concerns] using hne
      | page i => rfl
      | detached => rfl
  | load index loaded receiver =>
      have hloaded : loaded = t := Option.some.inj h
      rw [hloaded]
      cases receiver with
      | background => simpa [concerns] using hne
      | page i => rfl
      | detached => rfl
  | scan index => cases h
  | popup receiver => cases h
  | change index url answer => cases h

/-- A step that fails leaves everything as it was. -/
theorem world_step_of_failed {e : DeliveryError} (h : (w.step s).result = .failed e) :
    (w.step s).world = w := by
  have hreport : s.report? (.failed e) = none := by
    unfold Step.report?
    split
    · cases ‹Result.failed e = .reply _›
    · cases ‹Result.failed e = .count _›
    · rfl
  rw [world_step, h, hreport]
  cases s with
  | change index url answer => cases h
  | _ => rfl

/-- The steps that concern a tab determine its badge. -/
theorem badge?_after_eq_of_filter_eq (w : World) {steps steps' : List Step}
    (h : steps.filter (Step.concerns tab) = steps'.filter (Step.concerns tab)) :
    (w.after steps).badge? tab = (w.after steps').badge? tab := by
  have hself : Agrees tab w w := ⟨rfl, rfl⟩
  rw [(agrees_after_filter hself steps).2, h, (agrees_after_filter hself steps').2]

/-- At every point of a run, the badge of a tab counts the comments of
the latest report for the tab that has reached the background. All other
steps leave it alone, and so do steps that fail. It only depends on the
order of the steps that concern the tab, and not on how steps of other
tabs come between them. -/
theorem badge_follows_reports (pages : List PageContext) (steps : List Step)
    (tab : TabId) :
    (∀ k o, ((start pages).run steps)[k]? = some o →
        o.world.badge? tab
          = (latestReport tab (((start pages).history steps).take (k + 1))).map
              Badge.ofCount)
      ∧ (∀ (w : World) (s : Step),
          (∀ comments, s ≠ .send .background (some tab) (.set comments)) →
          (∀ i, s ≠ .load i tab .background) →
            (w.step s).world.badge? tab = w.badge? tab)
      ∧ (∀ (w : World) (s : Step) (e : DeliveryError),
          (w.step s).result = .failed e → e = .noReceiver ∧ (w.step s).world = w)
      ∧ (∀ steps' : List Step,
          steps.filter (Step.concerns tab) = steps'.filter (Step.concerns tab) →
            ((start pages).after steps).badge? tab
              = ((start pages).after steps').badge? tab)
      ∧ (∀ (before later : List Step) (s s' : Step) (t t' : TabId),
          s.tab? = some t → s'.tab? = some t' → t ≠ t' →
            ((start pages).after (before ++ s :: s' :: later)).badge? tab
              = ((start pages).after (before ++ s' :: s :: later)).badge? tab) := by
  refine ⟨?_, ?_, ?_, ?_, ?_⟩
  · intro k o ho
    rw [world_of_getElem?_run ho, take_history, badge?_after]
    exact Option.or_none
  · intro w s hset hload
    refine badge?_step_of_no_report fun n hreport => ?_
    rcases Step.eq_of_report? hreport with ⟨comments, hs⟩ | ⟨i, hs⟩
    · exact hset comments hs
    · exact hload i hs
  · intro w s e he
    cases e with
    | noReceiver => exact ⟨rfl, world_step_of_failed he⟩
  · intro steps' h
    exact badge?_after_eq_of_filter_eq (start pages) h
  · intro before later s s' t t' hs hs' hne
    apply badge?_after_eq_of_filter_eq
    -- one of the two does not concern the tab, and drops out on both sides
    by_cases ht : t = tab
    · have ht' : t' ≠ tab := fun h => hne (ht.trans h.symm)
      simp [Step.concerns_eq_false_of_tab? hs' ht', List.filter_cons]
    · simp [Step.concerns_eq_false_of_tab? hs ht, List.filter_cons]

/-- Two reports for different tabs, in either order. -/
theorem badge_follows_reports_swapped :
    let first : Step := .send .background (some 1) (.set [⟨.html, "Hello world", "Document"⟩])
    let second : Step := .send .background (some 2) (.set [])
    first.tab? = some 1 ∧ second.tab? = some 2
      ∧ ((start []).after [first, second]).badge? 1
        = ((start []).after [second, first]).badge? 1
      ∧ ((start []).after [first, second]).badge? 1 = some ⟨"1", .commentsFound⟩ := by
  intro first second
  obtain ⟨hlatest, -, -, -, hswap⟩ := badge_follows_reports [] [first, second] 1
  refine ⟨rfl, rfl, hswap [] [] first second 1 2 rfl rfl (by decide), ?_⟩
  exact hlatest 1 _ rfl

end Marginalia.World
