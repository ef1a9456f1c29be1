/-
Runs. What a step does to the contexts is said once, in one equation
(`world_step`): it may change what one page gets for a URL, and it may
bring the background one report of a number of comments for a tab;
nothing else is ever changed. Everything about runs follows from that
equation by induction on the steps.

# Two independent parts

The pages and the badges do not depend on each other. What a step
answers is read off the pages alone (`result_step_congr`), and pages
change by `change` steps alone (`getElem?_pages_after`). So a page after
some steps is the page of the beginning with a newer site behind it, and
badges are a record that no step looks at.
-/
import Marginalia.Proofs.Messaging.Delivery

namespace Marginalia.World

variable {w w' : World} {i : Nat} {c : PageContext}

-- =========================================================== one step

theorem step_send (w : World) (receiver : Address) (sender : Option TabId) (m : Message) :
    w.step (.send receiver sender m)
      = match replyAt w.pages receiver m with
        | .error e => ⟨w, .failed e, []⟩
        | .ok (reply, fetched) => ⟨w.noted receiver sender m, .reply reply, fetched⟩ := by
  rw [step, send_eq]
  cases replyAt w.pages receiver m with
  | error e => rfl
  | ok answer => rfl

theorem step_load (tab : TabId) (receiver : Address) (h : w.pages[i]? = some c) :
    w.step (.load i tab receiver)
      = match replyAt w.pages receiver (.set c.scan) with
        | .error e => ⟨w, .failed e, c.requests.map fun url => (i, url)⟩
        | .ok _ =>
          ⟨w.noted receiver (some tab) (.set c.scan), .count c.scan.length,
            c.requests.map fun url => (i, url)⟩ := by
  rw [step, load_eq tab receiver h]
  cases replyAt w.pages receiver (.set c.scan) with
  | error e => rfl
  | ok answer => rfl

/-- Where there is no page, nothing is loaded. -/
theorem step_load_none (tab : TabId) (receiver : Address) (h : w.pages[i]? = none) :
    w.step (.load i tab receiver) = ⟨w, .failed .noReceiver, []⟩ := by
  have hload : w.load i tab receiver = (.error .noReceiver, []) := by
    unfold load
    simp only [h]
  rw [step, hload]

-- ================================================ what a step changes

/-- The pages after a step. -/
def Step.alter (pages : List PageContext) : Step → List PageContext
  | .change i url answer =>
    pages.modify i fun c => { c with fetch := c.fetch.change url answer }
  | _ => pages

/-- The report that a step with this result has brought to the
background: the tab, and the number of comments. -/
def Step.report? : Step → Result → Option (TabId × Nat)
  | .send .background (some tab) (.set comments), .reply _ => some (tab, comments.length)
  | .load _ tab .background, .count n => some (tab, n)
  | _, _ => none

/-- What the background notes of a report. -/
def reportNote (r : TabId × Nat) : TabId × Badge :=
  (r.1, .ofCount r.2)

/-- All that a step does to the contexts. -/
theorem world_step (w : World) (s : Step) :
    (w.step s).world
      = ⟨s.alter w.pages,
          (s.report? (w.step s).result).toList.map reportNote ++ w.badges⟩ := by
  cases s with
  | send receiver sender m =>
      rw [step_send]
      cases receiver with
      | detached => rfl
      | background =>
          cases m with
          | get => cases sender with | _ => rfl
          | set comments => cases sender with | _ => rfl
      | page j => cases replyAt w.pages (.page j) m with | _ => rfl
  | load index tab receiver =>
      cases hindex : w.pages[index]? with
      | none =>
          rw [step_load_none tab receiver hindex]
          cases receiver with | _ => rfl
      | some c =>
          rw [step_load tab receiver hindex]
          cases receiver with
          | detached => rfl
          | background => rfl
          | page j => cases replyAt w.pages (.page j) (.set c.scan) with | _ => rfl
  | scan index =>
      rw [step]
      cases w.pages[index]? with | _ => rfl
  | popup receiver => rfl
  | change index url answer => rfl

/-- The result of a step depends on the pages alone. -/
theorem result_step_congr (h : w.pages = w'.pages) (s : Step) :
    (w.step s).result = (w'.step s).result := by
  cases s with
  | send receiver sender m =>
      rw [step_send, step_send, h]
      cases replyAt w'.pages receiver m with | _ => rfl
  | load index tab receiver =>
      cases hindex : w'.pages[index]? with
      | none =>
          rw [step_load_none tab receiver hindex,
            step_load_none tab receiver (h ▸ hindex)]
      | some c =>
          rw [step_load tab receiver hindex, step_load tab receiver (h ▸ hindex), h]
          cases replyAt w'.pages receiver (.set c.scan) with | _ => rfl
  | scan index =>
      rw [step, step, h]
      cases w'.pages[index]? with | _ => rfl
  | popup receiver =>
      show Result.popup (w.openPopup receiver).1 = .popup (w'.openPopup receiver).1
      rw [openPopup_eq, openPopup_eq, h]
  | change index url answer => rfl

-- =============================================================== runs

/-- The contexts after some steps. -/
def after (w : World) (steps : List Step) : World :=
  steps.foldl (fun w s => (w.step s).world) w

/-- Steps with what has become of each. -/
def history (w : World) (steps : List Step) : List (Step × Outcome) :=
  steps.zip (w.run steps)

theorem run_append (w : World) (before later : List Step) :
    w.run (before ++ later) = w.run before ++ (w.after before).run later := by
  induction before generalizing w with
  | nil => rfl
  | cons s before ih =>
      rw [List.cons_append, run, ih]
      rfl

theorem take_history (w : World) (steps : List Step) (k : Nat) :
    (w.history steps).take k = w.history (steps.take k) := by
  induction steps generalizing w k with
  | nil => rw [List.take_nil]; exact List.take_nil
  | cons s steps ih =>
      cases k with
      | zero => rfl
      | succ k =>
          show (s, w.step s) :: (history _ steps).take k = _
          rw [ih]
          rfl

/-- What becomes of a step in a run. -/
theorem getElem?_run (w : World) (steps : List Step) (k : Nat) :
    (w.run steps)[k]? = steps[k]?.map (w.after (steps.take k)).step := by
  induction steps generalizing w k with
  | nil => rfl
  | cons s steps ih =>
      cases k with
      | zero => rfl
      | succ k =>
          show (run _ steps)[k]? = _
          rw [ih]
          rfl

/-- What becomes of a step leaves the contexts as they are after the
steps up to it. -/
theorem world_of_getElem?_run {steps : List Step} {k : Nat} {o : Outcome}
    (h : (w.run steps)[k]? = some o) : o.world = w.after (steps.take (k + 1)) := by
  rw [getElem?_run] at h
  obtain ⟨s, hs, rfl⟩ := Option.map_eq_some_iff.1 h
  rw [List.take_add_one, hs]
  show _ = List.foldl _ w (_ ++ [s])
  rw [List.foldl_append]
  rfl

-- ===================================================== pages and sites

/-- What a page gets for URLs after a step. -/
def Step.site (i : Nat) (fetch : Fetcher) : Step → Fetcher
  | .change index url answer => if index = i then fetch.change url answer else fetch
  | _ => fetch

/-- What a page gets for URLs after some steps. -/
def siteAfter (i : Nat) (fetch : Fetcher) (steps : List Step) : Fetcher :=
  steps.foldl (Step.site i) fetch

theorem Step.getElem?_alter (s : Step) (pages : List PageContext) (i : Nat) :
    (s.alter pages)[i]? = pages[i]?.map fun c => { c with fetch := s.site i c.fetch } := by
  cases s with
  | change index url answer =>
      rw [alter, List.getElem?_modify]
      cases pages[i]? with
      | none => rfl
      | some c =>
          by_cases h : index = i
          · simp [site, h]
          · simp [site, h]
  | send receiver sender m => exact Option.map_id'.symm
  | load index tab receiver => exact Option.map_id'.symm
  | scan index => exact Option.map_id'.symm
  | popup receiver => exact Option.map_id'.symm

/-- Of a page, nothing but the site behind it is ever changed, and that
only by the steps that say so. -/
theorem getElem?_pages_after (w : World) (steps : List Step) (i : Nat) :
    (w.after steps).pages[i]?
      = w.pages[i]?.map fun c => { c with fetch := siteAfter i c.fetch steps } := by
  induction steps generalizing w with
  | nil => exact Option.map_id'.symm
  | cons s steps ih =>
      show ((w.step s).world.after steps).pages[i]? = _
      rw [ih, world_step, Step.getElem?_alter, Option.map_map]
      rfl

end Marginalia.World
