/-
What sending does, receiver by receiver. Every message that is sent
arrives as a message (Bus.lean), so that the branch for messages that
arrive malformed is never taken; what is left of a delivery is the
receiver's own part, and `send_eq` says so: a page answers without being
changed, the background changes without answering, and where nobody
listens nothing happens. The steps built from deliveries, opening a
popup and loading a page, follow.
-/
import Marginalia.Proofs.Messaging.Bus

namespace Marginalia.World

variable {w : World} {i : Nat} {c : PageContext}

-- ======================================================== deliveries

/-- What a receiver replies, and the URLs fetched for that. -/
def replyAt (pages : List PageContext) (receiver : Address) (m : Message) :
    Except DeliveryError (Option Json × List Request) :=
  match receiver with
  | .detached => .error .noReceiver
  | .background => .ok (none, [])
  | .page i =>
    match pages[i]? with
    | none => .error .noReceiver
    | some c => .ok ((atPage c m).1, (atPage c m).2.map fun url => (i, url))

/-- The contexts after a message: only the background notes anything. -/
def noted (w : World) (receiver : Address) (sender : Option TabId) (m : Message) : World :=
  match receiver with
  | .background => w.atBackground sender m
  | _ => w

/-- The background takes every message as it was sent: of a report it
looks at the number of comments only, and that survives the bus. -/
theorem send_background (w : World) (sender : Option TabId) (m : Message) :
    w.send .background sender m = .ok { world := w.atBackground sender m } := by
  unfold send
  cases m with
  | get => simp only [Message.received_get]
  | set comments =>
      simp only [Message.received_set]
      cases sender with
      | none => rfl
      | some tab => simp only [atBackground, List.length_map]

/-- A page takes every message as it was sent, since it does not look at
the comments in a report. -/
theorem send_page (sender : Option TabId) (m : Message) (h : w.pages[i]? = some c) :
    w.send (.page i) sender m
      = .ok { world := w, reply := (atPage c m).1,
              fetched := (atPage c m).2.map fun url => (i, url) } := by
  unfold send
  cases m with
  | get => simp only [h, Message.received_get]
  | set comments => simp only [h, Message.received_set, atPage]

theorem send_page_none (sender : Option TabId) (m : Message) (h : w.pages[i]? = none) :
    w.send (.page i) sender m = .error .noReceiver := by
  unfold send
  simp only [h]

/-- Sending with the bus left out. -/
theorem send_eq (w : World) (receiver : Address) (sender : Option TabId) (m : Message) :
    w.send receiver sender m
      = (replyAt w.pages receiver m).map fun (reply, fetched) =>
          { world := w.noted receiver sender m, reply, fetched } := by
  cases receiver with
  | detached => rfl
  | background => exact send_background w sender m
  | page i =>
      cases hi : w.pages[i]? with
      | none =>
          rw [send_page_none sender m hi]
          simp only [replyAt, hi]
          rfl
      | some c =>
          rw [send_page sender m hi]
          simp only [replyAt, hi]
          rfl

-- ============================================================= steps

theorem badge?_cons_self (pages : List PageContext) (tab : TabId) (b : Badge)
    (more : List (TabId × Badge)) :
    badge? ⟨pages, (tab, b) :: more⟩ tab = some b := by
  unfold badge?
  rw [List.lookup_cons_self]

/-- A popup shows the comments in the reply, if there is one. -/
theorem openPopup_eq (w : World) (receiver : Address) :
    w.openPopup receiver
      = match replyAt w.pages receiver .get with
        | .error _ => ({}, [])
        | .ok (reply, fetched) =>
          (Popup.ofWire ((reply.bind replyWires?).getD []), fetched) := by
  unfold openPopup
  rw [send_eq]
  cases replyAt w.pages receiver .get with
  | error e => rfl
  | ok answer => rfl

/-- A popup shows the comments that its page replies with. -/
theorem openPopup_page (h : w.pages[i]? = some c) :
    w.openPopup (.page i)
      = (Popup.ofWire (c.scan.map Comment.encode),
          c.requests.map fun url => (i, url)) := by
  rw [openPopup_eq]
  simp only [replyAt, h, atPage, Option.bind_some, replyWires?_wiresJson,
    Option.getD_some]

/-- A page that is loaded is scanned, and its comments are reported to
whoever is given as the receiver. -/
theorem load_eq (tab : TabId) (receiver : Address) (h : w.pages[i]? = some c) :
    w.load i tab receiver
      = ((replyAt w.pages receiver (.set c.scan)).map fun _ =>
            (w.noted receiver (some tab) (.set c.scan), c.scan.length),
          c.requests.map fun url => (i, url)) := by
  unfold load
  simp only [h, send_eq]
  cases replyAt w.pages receiver (.set c.scan) with
  | error e => rfl
  | ok answer => rfl

/-- A page that is loaded is scanned, and its comments are counted for
its tab. -/
theorem load_background (tab : TabId) (h : w.pages[i]? = some c) :
    w.load i tab .background
      = (.ok ({ w with badges := (tab, Badge.ofCount c.scan.length) :: w.badges },
            c.scan.length),
          c.requests.map fun url => (i, url)) :=
  load_eq tab .background h

end Marginalia.World
