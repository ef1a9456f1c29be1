/-
The contexts of the program and the messages between them. There is one
background context, which keeps a badge for each tab, and one context for
each page, which scans its page whenever it is asked. A context that nobody
listens in is detached. A step sends a message and waits for the reply, so
steps never overlap.
-/
import Marginalia.Badge
import Marginalia.Messaging.Message
import Marginalia.Popup
import Marginalia.Scan

namespace Marginalia

/-- The number of a tab. -/
abbrev TabId := Nat

/-- The context of a page. -/
structure PageContext where
  page : Page
  fetch : Fetcher
  options : Options

namespace PageContext

/-- A scan of the page as it is now. -/
def gather (c : PageContext) : Fetching (List Comment) :=
  c.page.gather c.fetch c.options

/-- The comments that a scan of the page finds. -/
def scan (c : PageContext) : List Comment :=
  c.gather.value

/-- The URLs that a scan of the page fetches. -/
def requests (c : PageContext) : List String :=
  c.gather.fetched

end PageContext

/-- A receiver of messages. -/
inductive Address where
  | background
  /-- The context of a page, by number. -/
  | page (index : Nat)
  /-- Nobody. -/
  | detached
deriving DecidableEq, Repr

/-- Why a message is not delivered. -/
inductive DeliveryError where
  | noReceiver
deriving DecidableEq, Repr

/-- The wording of a delivery error. -/
def DeliveryError.message : DeliveryError → String
  | .noReceiver => "could not establish connection: receiving end does not exist"

/-- All contexts. -/
structure World where
  pages : List PageContext
  /-- The badges by tab, the latest for a tab first. -/
  badges : List (TabId × Badge)

/-- A URL together with the page for which it was fetched. -/
abbrev Request := Nat × String

namespace World

/-- The contexts of some pages before any message. -/
def start (pages : List PageContext) : World :=
  ⟨pages, []⟩

/-- The badge of a tab. -/
def badge? (w : World) (tab : TabId) : Option Badge :=
  w.badges.lookup tab

/-- What a delivered message leads to. -/
structure Delivery where
  world : World
  reply : Option Json := none
  fetched : List Request := []

/-- What the background context does with a message. It notes the number
of comments reported by a tab and never replies. -/
def atBackground (w : World) (sender : Option TabId) (m : Message) : World :=
  match m, sender with
  | .set comments, some tab =>
    { w with badges := (tab, Badge.ofCount comments.length) :: w.badges }
  | _, _ => w

/-- What a page replies to a message, and the URLs fetched for that. -/
def atPage (c : PageContext) : Message → Option Json × List String
  | .get => (some (Message.wiresJson c.scan), c.requests)
  | .set _ => (none, [])

/-- Sends a message. A message that arrives malformed is ignored. -/
def send (w : World) (receiver : Address) (sender : Option TabId) (m : Message) :
    Except DeliveryError Delivery :=
  match receiver with
  | .detached => .error .noReceiver
  | .background =>
    match m.received with
    | none => .ok { world := w }
    | some m => .ok { world := w.atBackground sender m }
  | .page i =>
    match w.pages[i]? with
    | none => .error .noReceiver
    | some c =>
      match m.received with
      | none => .ok { world := w }
      | some m =>
        let (reply, urls) := atPage c m
        .ok { world := w, reply, fetched := urls.map fun url => (i, url) }

/-- The wire strings in a reply. -/
def replyWires? (reply : Json) : Option (List String) :=
  (Json.Reading.list Json.Reading.text reply.toReading).toOption

/-- The popup for the page behind an address: the comments in its reply,
and nothing where there is no such reply. -/
def openPopup (w : World) (receiver : Address) : Popup × List Request :=
  match w.send receiver none .get with
  | .error _ => ({}, [])
  | .ok d => ((Popup.ofWire ((d.reply.bind replyWires?).getD [])), d.fetched)

/-- What a page does when it has been loaded in a tab: it is scanned, and
the comments are reported. Also gives the URLs fetched, which are fetched
even if the report has no receiver. -/
def load (w : World) (index : Nat) (tab : TabId) (receiver : Address) :
    Except DeliveryError (World × Nat) × List Request :=
  match w.pages[index]? with
  | none => (.error .noReceiver, [])
  | some c =>
    let comments := c.scan
    let outcome := (w.send receiver (some tab) (.set comments)).map fun d =>
      (d.world, comments.length)
    (outcome, c.requests.map fun url => (index, url))

/-- One step. -/
inductive Step where
  | send (receiver : Address) (sender : Option TabId) (message : Message)
  | load (index : Nat) (tab : TabId) (receiver : Address)
  | scan (index : Nat)
  | popup (receiver : Address)
  /-- What a page gets for one URL changes. -/
  | change (index : Nat) (url : String) (answer : Except FetchError String)

/-- What a step answers. -/
inductive Result where
  | reply (value : Option Json)
  | failed (error : DeliveryError)
  | count (n : Nat)
  | comments (found : List Comment)
  | popup (shown : Popup)
  | changed

/-- What becomes of a step. -/
structure Outcome where
  world : World
  result : Result
  fetched : List Request

/-- Takes one step. -/
def step (w : World) : Step → Outcome
  | .send receiver sender m =>
    match w.send receiver sender m with
    | .error e => ⟨w, .failed e, []⟩
    | .ok d => ⟨d.world, .reply d.reply, d.fetched⟩
  | .load index tab receiver =>
    match w.load index tab receiver with
    | (.error e, fetched) => ⟨w, .failed e, fetched⟩
    | (.ok (next, n), fetched) => ⟨next, .count n, fetched⟩
  | .scan index =>
    match w.pages[index]? with
    | none => ⟨w, .comments [], []⟩
    | some c => ⟨w, .comments c.scan, c.requests.map fun url => (index, url)⟩
  | .popup receiver =>
    let (shown, fetched) := w.openPopup receiver
    ⟨w, .popup shown, fetched⟩
  | .change index url answer =>
    let pages := w.pages.modify index fun c =>
      { c with fetch := c.fetch.change url answer }
    ⟨{ w with pages }, .changed, []⟩

/-- Takes steps in order; gives what becomes of each. -/
def run (w : World) : List Step → List Outcome
  | [] => []
  | s :: more =>
    let o := w.step s
    o :: o.world.run more

end World

end Marginalia
