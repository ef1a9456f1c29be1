/-
Scans under any schedule. What a scan collects does not depend on the
order in which its requests are answered, every order can occur, and
every scan that has begun can be brought to its end.

# The invariant

`State.outcome` names, for a scan under way, what it will have collected
in the end: what it has, what the answers that are still missing will
be, and what the kinds that are left will bring. Nothing that happens
changes it (`outcome_step`). The one case with an argument is an answer
that comes in: it fills its own place with what the outcome has counted
on there, and touches no other place (`mapIdx_comments_set`), which is
why the order of answers cannot matter.

# The end

`State.remaining` counts what has still to happen. Every event lowers it
by one, and something can happen as long as the scan is not finished, so
that a scan cannot stall and cannot go on for ever.
-/
import Marginalia.Proofs.Scan.Aggregation
import Marginalia.Scan.Schedule

namespace Marginalia.Schedule

open Page

variable {p : Page} {o : Options} {net : Network} {s s' s'' : State} {e : Event}
  {events later : List Event} {kind : Kind} {slots : List Slot} {place : Nat}
  {url : String}

-- ================================================================ runs

theorem Run.trans (first : Run p o net s events s') (rest : Run p o net s' later s'') :
    Run p o net s (events ++ later) s'' := by
  induction first with
  | nil => exact rest
  | cons step _ ih => exact .cons step (ih rest)

/-- A run can be cut at every point. -/
theorem Run.exists_of_append (h : Run p o net s (events ++ later) s'') :
    ∃ s', Run p o net s events s' ∧ Run p o net s' later s'' := by
  induction events generalizing s with
  | nil => exact ⟨s, .nil s, h⟩
  | cons e events ih =>
      cases h with
      | cons step rest =>
          obtain ⟨s', hevents, hlater⟩ := ih rest
          exact ⟨s', .cons step hevents, hlater⟩

-- ========================================================= the outcome

/-- The comments that a place holds or will hold. -/
def Slot.comments (net : Network) (kind : Kind) (place : Nat) (slot : Slot) : List Comment :=
  slot.found.getD (answerComments kind slot.url (net kind place slot.url))

/-- The comments of one kind. -/
def commentsOf (p : Page) (o : Options) (net : Network) (kind : Kind) : List Comment :=
  p.ownIncluded o kind
    ++ ((p.requestsFor o kind).mapIdx fun place url =>
          answerComments kind url (net kind place url)).flatten

/-- What a scan will have collected in the end. -/
def State.outcome (p : Page) (o : Options) (net : Network) : State → List Comment
  | ⟨collected, .between left⟩ => collected ++ left.flatMap (commentsOf p o net)
  | ⟨collected, .waiting kind slots left⟩ =>
    collected ++ (slots.mapIdx (Slot.comments net kind)).flatten
      ++ left.flatMap (commentsOf p o net)

theorem mapIdx_comments_issued (net : Network) (kind : Kind) (urls : List String) :
    (urls.map fun url => Slot.mk url none).mapIdx (Slot.comments net kind)
      = urls.mapIdx fun place url => answerComments kind url (net kind place url) := by
  rw [List.mapIdx_eq_iff]
  intro i
  rw [List.getElem?_mapIdx, List.getElem?_map, Option.map_map]
  rfl

/-- An answer puts into its place what was going to be there. -/
theorem mapIdx_comments_set (h : slots[place]? = some ⟨url, none⟩) :
    (slots.set place
        ⟨url, some (answerComments kind url (net kind place url))⟩).mapIdx
          (Slot.comments net kind)
      = slots.mapIdx (Slot.comments net kind) := by
  obtain ⟨hplace, hslot⟩ := List.getElem?_eq_some_iff.1 h
  have hlen : place < (slots.mapIdx (Slot.comments net kind)).length := by
    rw [List.length_mapIdx]
    exact hplace
  have hsame : Slot.comments net kind place
        ⟨url, some (answerComments kind url (net kind place url))⟩
      = (slots.mapIdx (Slot.comments net kind))[place] := by
    rw [List.getElem_mapIdx, hslot]
    rfl
  rw [List.mapIdx_set, hsame, List.set_getElem_self]

theorem mapIdx_comments_filled {found : List (List Comment)}
    (h : slots.map Slot.found = found.map some) :
    slots.mapIdx (Slot.comments net kind) = found := by
  rw [List.mapIdx_eq_iff]
  intro i
  have hi := congrArg (·[i]?) h
  simp only [List.getElem?_map] at hi
  cases hslot : slots[i]? with
  | none =>
      rw [hslot] at hi
      exact Option.map_eq_none_iff.1 hi.symm
  | some slot =>
      rw [hslot] at hi
      obtain ⟨comments, hfound, hsome⟩ := Option.map_eq_some_iff.1 hi.symm
      rw [hfound]
      show some comments = some (slot.found.getD _)
      rw [← hsome, Option.getD_some]

/-- Nothing that happens changes the outcome. -/
theorem outcome_step (h : Step p o net s e s') : s'.outcome p o net = s.outcome p o net := by
  cases h with
  | issue collected kind left =>
      simp only [State.outcome, mapIdx_comments_issued, List.flatMap_cons, commentsOf,
        List.append_assoc]
  | settle pending => simp only [State.outcome, mapIdx_comments_set pending]
  | join filled => simp only [State.outcome, mapIdx_comments_filled filled]

theorem outcome_run (h : Run p o net s events s') :
    s'.outcome p o net = s.outcome p o net := by
  induction h with
  | nil => rfl
  | cons step _ ih => rw [ih, outcome_step step]

theorem outcome_of_finished (h : s.Finished) : s.outcome p o net = s.collected := by
  obtain ⟨collected, stage⟩ := s
  have hstage : stage = .between [] := h
  rw [hstage]
  exact List.append_nil _

/-- Whatever the schedule, a scan that has finished has collected the
comments of all kinds. -/
theorem collected_of_run (h : Run p o net start events s) (hs : s.Finished) :
    s.collected = Kind.all.flatMap (commentsOf p o net) := by
  rw [← outcome_of_finished hs, outcome_run h]
  rfl

/-- Where every URL has one answer, the schedule drops out. -/
theorem commentsOf_network (p : Page) (o : Options) (fetch : Fetcher) (kind : Kind) :
    commentsOf p o fetch.network kind = (p.commentsOfKind fetch o kind).value := by
  have hplaces : (p.requestsFor o kind).mapIdx
        (fun place url => answerComments kind url (fetch.network kind place url))
      = (p.requestsFor o kind).map fun url => answerComments kind url (fetch url) := by
    rw [List.mapIdx_eq_iff]
    intro i
    rw [List.getElem?_map]
    rfl
  rw [value_commentsOfKind, value_linkedComments, commentsOf, hplaces, ← List.flatMap_def]
  unfold ownIncluded requestsFor
  split
  · rfl
  · rfl

-- ==================================================== requests in a run

/-- The URLs that have still to be asked for. -/
def State.unasked (p : Page) (o : Options) (s : State) : List String :=
  match s.stage with
  | .between left => left.flatMap (p.requestsFor o)
  | .waiting _ _ left => left.flatMap (p.requestsFor o)

theorem unasked_step (h : Step p o net s e s') :
    e.urls ++ s'.unasked p o = s.unasked p o := by
  cases h with
  | issue collected kind left => rfl
  | settle pending => rfl
  | join filled => rfl

theorem unasked_run (h : Run p o net s events s') :
    events.flatMap Event.urls ++ s'.unasked p o = s.unasked p o := by
  induction h with
  | nil => rfl
  | cons step _ ih => rw [List.flatMap_cons, List.append_assoc, ih, unasked_step step]

theorem asked_of_run (h : Run p o net start events s) (hs : s.Finished) :
    events.flatMap Event.urls = p.requests o := by
  have hrun := unasked_run h
  have hnone : s.unasked p o = [] := by
    unfold State.unasked
    rw [show s.stage = .between [] from hs]
    rfl
  rw [hnone, List.append_nil] at hrun
  exact hrun

-- ============================================================ progress

/-- What has still to happen in a scan: for each kind that is left two
events and its answers, and for the kind in progress one event and the
answers that are missing. -/
def State.remaining (p : Page) (o : Options) (s : State) : Nat :=
  let ahead (left : List Kind) : Nat :=
    (left.flatMap (p.requestsFor o)).length + 2 * left.length
  match s.stage with
  | .between left => ahead left
  | .waiting _ slots left => slots.countP (·.found.isNone) + 1 + ahead left

/-- Places can be put together when no answer is missing. -/
theorem exists_filled_iff :
    (∃ found : List (List Comment), slots.map Slot.found = found.map some)
      ↔ ∀ slot ∈ slots, slot.found ≠ none := by
  constructor
  · rintro ⟨found, h⟩ slot hslot hnone
    have hmem : none ∈ found.map some := by
      rw [← h, ← hnone]
      exact List.mem_map_of_mem hslot
    obtain ⟨comments, -, hsome⟩ := List.mem_map.1 hmem
    cases hsome
  · intro h
    refine ⟨slots.map fun slot => slot.found.getD [], ?_⟩
    rw [List.map_map]
    refine List.map_congr_left fun slot hslot => ?_
    obtain ⟨comments, hfound⟩ := Option.ne_none_iff_exists'.1 (h slot hslot)
    show slot.found = some (slot.found.getD [])
    rw [hfound, Option.getD_some]

theorem remaining_step (h : Step p o net s e s') :
    s.remaining p o = s'.remaining p o + 1 := by
  cases h with
  | issue collected kind left =>
      have hall : ((p.requestsFor o kind).map fun url => Slot.mk url none).countP
          (·.found.isNone) = (p.requestsFor o kind).length := by
        rw [List.countP_map]
        exact List.countP_eq_length.2 fun _ _ => rfl
      simp only [State.remaining, List.flatMap_cons, List.length_append,
        List.length_cons, hall]
      omega
  | settle pending =>
      obtain ⟨hplace, hslot⟩ := List.getElem?_eq_some_iff.1 pending
      have hone : 0 < List.countP (fun slot : Slot => slot.found.isNone) _ :=
        List.countP_pos_iff.2 ⟨_, List.getElem_mem hplace, by rw [hslot]; rfl⟩
      simp only [State.remaining, List.countP_set hplace, hslot, Option.isNone_none,
        Option.isNone_some, Bool.false_eq_true, if_true, if_false]
      omega
  | @join collected kind slots left found filled =>
      have hnone : slots.countP (·.found.isNone) = 0 := by
        rw [List.countP_eq_zero]
        intro slot hslot
        rw [Option.isNone_iff_eq_none]
        exact exists_filled_iff.1 ⟨found, filled⟩ slot hslot
      simp only [State.remaining, hnone]
      omega

/-- A run is as long as what it takes off the events to come, so no scan
goes on for ever. -/
theorem remaining_run (h : Run p o net s events s') :
    s.remaining p o = s'.remaining p o + events.length := by
  induction h with
  | nil => rfl
  | cons step _ ih =>
      rw [remaining_step step, ih, List.length_cons]
      omega

/-- As long as a scan is not finished, something can happen. -/
theorem exists_step (p : Page) (o : Options) (net : Network) (s : State)
    (hs : ¬ s.Finished) : ∃ e s', Step p o net s e s' := by
  obtain ⟨collected, stage⟩ := s
  cases stage with
  | between left =>
      cases left with
      | nil => exact absurd rfl hs
      | cons kind left => exact ⟨_, _, .issue collected kind left⟩
  | waiting kind slots left =>
      by_cases hpending : ∃ slot ∈ slots, slot.found = none
      · obtain ⟨⟨url, found⟩, hmem, hfound⟩ := hpending
        obtain ⟨place, hplace⟩ := List.mem_iff_getElem?.1 hmem
        have hfound : found = none := hfound
        subst hfound
        exact ⟨_, _, .settle hplace⟩
      · have hall : ∀ slot ∈ slots, slot.found ≠ none := fun slot hslot hnone =>
          hpending ⟨slot, hslot, hnone⟩
        obtain ⟨found, filled⟩ := exists_filled_iff.2 hall
        exact ⟨_, _, .join filled⟩

/-- Every scan under way can be brought to its end. -/
theorem exists_run_finished (p : Page) (o : Options) (net : Network) (s : State) :
    ∃ events s', Run p o net s events s' ∧ s'.Finished := by
  by_cases hs : s.Finished
  · exact ⟨[], s, .nil s, hs⟩
  · obtain ⟨e, s', step⟩ := exists_step p o net s hs
    have hless := remaining_step step
    obtain ⟨events, s'', hrun, hfinished⟩ := exists_run_finished p o net s'
    exact ⟨e :: events, s'', .cons step hrun, hfinished⟩
termination_by s.remaining p o
decreasing_by omega

-- ============================================================== orders

/-- What happens in a scan when the answers for each kind come in in the
given order. -/
def inOrder (p : Page) (o : Options) (order : Kind → List Nat) (kind : Kind) : List Event :=
  .issue kind (p.requestsFor o kind) :: (order kind).map (.settle kind) ++ [.join kind]

/-- Answers can come in for any places that wait for one, in any order.
Other places are left alone. -/
theorem exists_run_settle (p : Page) (o : Options) (net : Network) (collected : List Comment)
    (kind : Kind) (left : List Kind) {places : List Nat} (hnodup : places.Nodup)
    (hpending : ∀ place ∈ places, ∃ url, slots[place]? = some ⟨url, none⟩) :
    ∃ slots', Run p o net ⟨collected, .waiting kind slots left⟩ (places.map (.settle kind))
        ⟨collected, .waiting kind slots' left⟩
      ∧ (∀ place ∈ places, ∃ slot, slots'[place]? = some slot ∧ slot.found ≠ none)
      ∧ ∀ place, place ∉ places → slots'[place]? = slots[place]? := by
  induction places generalizing slots with
  | nil =>
      refine ⟨slots, .nil _, ?_, fun _ _ => rfl⟩
      intro place hplace
      cases hplace
  | cons first places ih =>
      obtain ⟨hfirst, hnodup⟩ := List.nodup_cons.1 hnodup
      obtain ⟨url, hurl⟩ := hpending first List.mem_cons_self
      obtain ⟨hlen, -⟩ := List.getElem?_eq_some_iff.1 hurl
      let slot : Slot := ⟨url, some (answerComments kind url (net kind first url))⟩
      have hset : ∀ place, place ≠ first → (slots.set first slot)[place]? = slots[place]? :=
        fun place hne => List.getElem?_set_ne hne.symm
      have hpending' : ∀ place ∈ places, ∃ url,
          (slots.set first slot)[place]? = some ⟨url, none⟩ := by
        intro place hplace
        rw [hset place fun h => hfirst (h ▸ hplace)]
        exact hpending place (List.mem_cons_of_mem first hplace)
      obtain ⟨slots', hrun, hfilled, hother⟩ := ih hnodup hpending'
      refine ⟨slots', .cons (.settle hurl) hrun, ?_, ?_⟩
      · intro place hplace
        rcases List.mem_cons.1 hplace with rfl | hplace
        · refine ⟨slot, ?_, Option.some_ne_none _⟩
          rw [hother _ hfirst, List.getElem?_set_self hlen]
        · exact hfilled place hplace
      · intro place hplace
        rw [hother place (List.not_mem_of_not_mem_cons hplace),
          hset place (List.ne_of_not_mem_cons hplace)]

/-- One kind can be gone through with its answers in any order. -/
theorem exists_run_kind (p : Page) (o : Options) (net : Network) (collected : List Comment)
    (kind : Kind) (left : List Kind) {order : Kind → List Nat}
    (horder : (order kind).Perm (List.range (p.requestsFor o kind).length)) :
    ∃ collected', Run p o net ⟨collected, .between (kind :: left)⟩ (inOrder p o order kind)
      ⟨collected', .between left⟩ := by
  have hplaces : ∀ place, place ∈ order kind ↔ place < (p.requestsFor o kind).length := by
    intro place
    rw [horder.mem_iff, List.mem_range]
  have hpending : ∀ place ∈ order kind, ∃ url,
      ((p.requestsFor o kind).map fun url => Slot.mk url none)[place]? = some ⟨url, none⟩ := by
    intro place hplace
    rw [hplaces] at hplace
    refine ⟨(p.requestsFor o kind)[place], ?_⟩
    rw [List.getElem?_map, List.getElem?_eq_getElem hplace, Option.map_some]
  obtain ⟨slots', hrun, hfilled, hother⟩ :=
    exists_run_settle p o net (collected ++ p.ownIncluded o kind) kind left
      (horder.nodup_iff.2 List.nodup_range) hpending
  have hall : ∀ slot ∈ slots', slot.found ≠ none := by
    intro slot hslot
    obtain ⟨place, hplace⟩ := List.mem_iff_getElem?.1 hslot
    by_cases hmem : place ∈ order kind
    · obtain ⟨slot', hslot', hfound⟩ := hfilled place hmem
      rw [hplace] at hslot'
      exact Option.some.inj hslot' ▸ hfound
    · rw [hother place hmem, List.getElem?_map] at hplace
      rw [hplaces, Nat.not_lt] at hmem
      rw [List.getElem?_eq_none hmem] at hplace
      cases hplace
  obtain ⟨found, filled⟩ := exists_filled_iff.2 hall
  exact ⟨_, .cons (.issue collected kind left) (hrun.trans (.cons (.join filled) (.nil _)))⟩

/-- Every order of the answers can occur. -/
theorem exists_run_inOrder (p : Page) (o : Options) (net : Network) {order : Kind → List Nat}
    (horder : ∀ kind, (order kind).Perm (List.range (p.requestsFor o kind).length))
    (collected : List Comment) (left : List Kind) :
    ∃ s, Run p o net ⟨collected, .between left⟩ (left.flatMap (inOrder p o order)) s
      ∧ s.Finished := by
  induction left generalizing collected with
  | nil => exact ⟨_, .nil _, rfl⟩
  | cons kind left ih =>
      obtain ⟨collected', hkind⟩ :=
        exists_run_kind p o net collected kind left (horder kind)
      obtain ⟨s, hrun, hs⟩ := ih collected'
      exact ⟨s, hkind.trans hrun, hs⟩

-- ================================================== one kind at a time

/-- Every request for a kind has been answered. -/
def Answered (p : Page) (o : Options) (events : List Event) (kind : Kind) : Prop :=
  ∀ place < (p.requestsFor o kind).length, Event.settle kind place ∈ events

/-- The state of a scan shows what has been answered: everything for the
kinds that are done, and for the kind in progress what the filled places
stand for. -/
def Recorded (p : Page) (o : Options) (events : List Event) (s : State) : Prop :=
  match s.stage with
  | .between left =>
    ∃ done, Kind.all = done ++ left ∧ ∀ kind ∈ done, Answered p o events kind
  | .waiting kind slots left =>
    ∃ done, Kind.all = done ++ kind :: left ∧ (∀ kind ∈ done, Answered p o events kind)
      ∧ slots.length = (p.requestsFor o kind).length
      ∧ ∀ place slot, slots[place]? = some slot → slot.found ≠ none →
          Event.settle kind place ∈ events

theorem Answered.append (h : Answered p o events kind) (later : List Event) :
    Answered p o (events ++ later) kind :=
  fun place hplace => List.mem_append_left later (h place hplace)

theorem recorded_step (hs : Recorded p o events s) (step : Step p o net s e s') :
    Recorded p o (events ++ [e]) s' := by
  cases step with
  | issue collected kind left =>
      obtain ⟨done, hall, hdone⟩ := hs
      refine ⟨done, hall, fun k hk => (hdone k hk).append _, List.length_map _, ?_⟩
      intro place slot hslot hfound
      rw [List.getElem?_map] at hslot
      obtain ⟨url, -, rfl⟩ := Option.map_eq_some_iff.1 hslot
      exact absurd rfl hfound
  | @settle collected kind slots left place url pending =>
      obtain ⟨done, hall, hdone, hlen, hfilled⟩ := hs
      refine ⟨done, hall, fun k hk => (hdone k hk).append _, ?_, ?_⟩
      · rw [List.length_set, hlen]
      · intro place' slot hslot hfound
        by_cases hne : place = place'
        · rw [hne]
          exact List.mem_append_right events List.mem_cons_self
        · rw [List.getElem?_set_ne hne] at hslot
          exact List.mem_append_left [_] (hfilled place' slot hslot hfound)
  | @join collected kind slots left found filled =>
      obtain ⟨done, hall, hdone, hlen, hfilled⟩ := hs
      refine ⟨done ++ [kind], ?_, ?_⟩
      · rw [hall, List.append_assoc]
        rfl
      · intro k hk
        rcases List.mem_append.1 hk with hk | hk
        · exact (hdone k hk).append _
        · rw [List.mem_singleton.1 hk]
          intro place hplace
          rw [← hlen] at hplace
          have hslot := exists_filled_iff.1 ⟨found, filled⟩ _ (List.getElem_mem hplace)
          exact List.mem_append_left [_]
            (hfilled place _ (List.getElem?_eq_getElem hplace) hslot)

theorem recorded_run (h : Run p o net s later s') (hs : Recorded p o events s) :
    Recorded p o (events ++ later) s' := by
  induction h generalizing events with
  | nil => rwa [List.append_nil]
  | cons step _ ih =>
      have hlater := ih (recorded_step hs step)
      rwa [List.append_assoc] at hlater

/-- Before the first request for a script is issued, all requests for
stylesheets have been answered. -/
theorem answered_css_of_issue_js {urls : List String}
    (h : Run p o net start (events ++ .issue .js urls :: later) s) :
    Answered p o events .css := by
  obtain ⟨s', hbefore, hafter⟩ := h.exists_of_append
  have hrecorded : Recorded p o ([] ++ events) s' := by
    refine recorded_run hbefore ⟨[], rfl, ?_⟩
    intro kind hkind
    cases hkind
  cases hafter with
  | cons step _ =>
      cases step with
      | issue collected kind left =>
          obtain ⟨done, hall, hdone⟩ := hrecorded
          apply hdone
          rcases done with _ | ⟨a, _ | ⟨b, done⟩⟩
          · simp [Kind.all] at hall
          · simp [Kind.all] at hall
          · simp only [Kind.all, List.cons_append, List.cons.injEq] at hall
            rw [← hall.2.1]
            exact List.mem_cons_of_mem a List.mem_cons_self

end Marginalia.Schedule
