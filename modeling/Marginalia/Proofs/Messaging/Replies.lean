/-
What pages reply over a whole run. A page keeps nothing between two
requests: its reply is a scan of its own document with the site as it is
when the request arrives, whatever has happened before. The site is
followed through the run apart from everything else (`siteAfter`), and a
page after some steps is the page of the beginning with that site behind
it (`getElem?_pages_after`).

Asking changes nothing (`world_step_of_asks`). A request to a page, or a
popup, can therefore be taken out of a run without any change to what
becomes of the steps after it, badges included (`run_asks`).
-/
import Marginalia.Proofs.Messaging.Run
import Marginalia.Proofs.Popup.Scanned

namespace Marginalia.World

variable {w : World} {i : Nat} {c : PageContext} {s : Step}

-- ========================================================== the replies

/-- A page sends the wire strings of a new scan. -/
theorem step_get (sender : Option TabId) (h : w.pages[i]? = some c) :
    w.step (.send (.page i) sender .get)
      = ⟨w, .reply (some (.array ((c.scan.map Comment.encode).map .string))),
          c.requests.map fun url => (i, url)⟩ := by
  rw [step_send]
  simp only [replyAt, h, atPage, Message.wiresJson_eq]
  rfl

/-- A page that is sent a report does not look at anything. -/
theorem step_set (sender : Option TabId) (comments : List Comment)
    (h : w.pages[i]? = some c) :
    w.step (.send (.page i) sender (.set comments)) = ⟨w, .reply none, []⟩ := by
  rw [step_send]
  simp only [replyAt, h, atPage]
  rfl

theorem step_popup_page (h : w.pages[i]? = some c) :
    w.step (.popup (.page i))
      = ⟨w, .popup (.ofWire (c.scan.map Comment.encode)),
          c.requests.map fun url => (i, url)⟩ := by
  rw [step, openPopup_page h]

/-- Where nobody replies there is nothing to show. -/
theorem step_popup_of_no_reply {receiver : Address}
    (h : replyAt w.pages receiver .get = .ok (none, [])
      ∨ replyAt w.pages receiver .get = .error .noReceiver) :
    w.step (.popup receiver) = ⟨w, .popup {}, []⟩ := by
  rw [step, openPopup_eq]
  rcases h with h | h
  · rw [h]
    rfl
  · rw [h]

-- =========================================================== asking

/-- Whether a step is a message to a page or a popup. -/
def Step.asks : Step → Bool
  | .send (.page _) _ _ => true
  | .popup _ => true
  | _ => false

/-- Asking leaves all contexts as they are. -/
theorem world_step_of_asks (w : World) (h : s.asks = true) : (w.step s).world = w := by
  rw [world_step]
  cases s with
  | send receiver sender m =>
      cases receiver with
      | page j => rfl
      | background => cases h
      | detached => cases h
  | popup receiver => rfl
  | load index tab receiver => cases h
  | scan index => cases h
  | change index url answer => cases h

/-- What is asked on the way makes no difference to the rest of a
run. -/
theorem run_asks (w : World) (before later : List Step) (h : s.asks = true) :
    w.run (before ++ s :: later)
        = w.run before ++ (w.after before).step s :: (w.after before).run later
      ∧ w.run (before ++ later) = w.run before ++ (w.after before).run later := by
  refine ⟨?_, run_append w before later⟩
  rw [run_append, run, world_step_of_asks _ h]

-- ====================================================== the whole run

/-- At every point of a run, a page that is asked replies with the wire
strings of a scan of its document with the site as it is then, and a
popup shows that list. A report to a page is answered by nothing, and
leads to no request. All of this leaves no trace: whatever is done later
comes out the same without it. -/
theorem replies_follow_site (pages : List PageContext) (before : List Step)
    (i : Fin pages.length) :
    let w := (start pages).after before
    let page := (pages.get i).page
    let options := (pages.get i).options
    let site := siteAfter i (pages.get i).fetch before
    let wires := (page.scan site options).map Comment.encode
    let urls : List Request := (page.gather site options).fetched.map fun url => (i.val, url)
    (∀ sender, w.step (.send (.page i) sender .get)
          = ⟨w, .reply (some (.array (wires.map .string))), urls⟩)
      ∧ w.step (.popup (.page i)) = ⟨w, .popup (.ofWire wires), urls⟩
      ∧ (Popup.ofWire wires).total = wires.length
      ∧ (∀ sender comments, w.step (.send (.page i) sender (.set comments))
          = ⟨w, .reply none, []⟩)
      ∧ w.step (.popup .background) = ⟨w, .popup {}, []⟩
      ∧ w.step (.popup .detached) = ⟨w, .popup {}, []⟩
      ∧ ∀ (s : Step) (later : List Step), s.asks = true →
          (start pages).run (before ++ s :: later)
              = (start pages).run before ++ w.step s :: w.run later
            ∧ (start pages).run (before ++ later)
              = (start pages).run before ++ w.run later := by
  intro w page options site wires urls
  let c : PageContext := ⟨page, site, options⟩
  have hstart : (start pages).pages[i.val]? = some (pages.get i) :=
    List.getElem?_eq_getElem i.isLt
  have hpage : w.pages[i.val]? = some c := by
    show ((start pages).after before).pages[i.val]? = _
    rw [getElem?_pages_after, hstart]
    rfl
  have hwires : wires = c.scan.map Comment.encode := rfl
  have hurls : urls = c.requests.map fun url => (i.val, url) := rfl
  rw [hwires, hurls]
  refine ⟨?_, step_popup_page hpage, ?_, ?_, ?_, ?_, ?_⟩
  · intro sender
    exact step_get sender hpage
  · rw [List.length_map]
    exact c.total_popup
  · intro sender comments
    exact step_set sender comments hpage
  · exact step_popup_of_no_reply (Or.inl rfl)
  · exact step_popup_of_no_reply (Or.inr rfl)
  · intro s later h
    exact run_asks (start pages) before later h

/-- A popup is opened before a page is asked. -/
theorem replies_follow_site_popup :
    let pages : List PageContext :=
      [⟨{ comments := ["Hello world"] }, fun url => .error (.unsupported url), .standard⟩]
    let w := start pages
    let popup : Step := .popup (.page 0)
    let get : Step := .send (.page 0) none .get
    popup.asks = true ∧ w.run [popup, get] = w.step popup :: w.run [get] := by
  intro pages w popup get
  obtain ⟨-, -, -, -, -, -, hrun⟩ := replies_follow_site pages [] ⟨0, by decide⟩
  exact ⟨rfl, (hrun popup [get] rfl).1⟩

end Marginalia.World
