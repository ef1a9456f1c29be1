/-
Nothing is lost on the bus. A message that is sent arrives as the same
message up to where its comments are cut into text and origin: the action
is the same, there are as many comments, and each has its kind and its
wire string. Since that is all that is written down, what arrives is
written as the same JSON again, and a second trip changes nothing more.

# Any handler

The contexts of the program are three receivers of many that could listen
on the bus. `dispatch` is the part that all of them share: it reads the
message, lets a handler answer and writes the answer down. What is proved
here about replies is proved of `dispatch` with any handler, and
`reply_send` says that the contexts of the program answer through it.
-/
import Mathlib.Data.List.Forall2
import Marginalia.Proofs.Messaging.Delivery

namespace Marginalia

namespace Message

-- ===================================================== the two halves

/-- What a message asks for. -/
def action : Message → Action
  | get => .get
  | set _ => .set

/-- The comments that a message carries. -/
def comments : Message → List Comment
  | get => []
  | set comments => comments

/-- A message after a trip over the bus. -/
def relayed : Message → Message
  | get => get
  | set comments => set (comments.map Comment.reread)

/-- No message arrives malformed. -/
theorem received_eq (m : Message) : m.received = some m.relayed := by
  cases m with
  | get => exact received_get
  | set comments => exact received_set comments

@[simp]
theorem action_relayed (m : Message) : m.relayed.action = m.action := by
  cases m with
  | get => rfl
  | set comments => rfl

@[simp]
theorem comments_relayed (m : Message) :
    m.relayed.comments = m.comments.map Comment.reread := by
  cases m with
  | get => rfl
  | set comments => rfl

/-- The comments that arrive are those that were sent, one by one, as far
as kinds and wire strings go. -/
theorem forall₂_comments_relayed (m : Message) :
    List.Forall₂ (fun after before => after.kind = before.kind
        ∧ after.encode = before.encode) m.relayed.comments m.comments := by
  rw [comments_relayed, List.forall₂_map_left_iff, List.forall₂_same]
  intro c _
  exact ⟨c.kind_reread, c.encode_reread⟩

/-- A list of comments is written as its wire strings and nothing else. -/
theorem wiresJson_map_reread (comments : List Comment) :
    wiresJson (comments.map Comment.reread) = wiresJson comments := by
  have hwires : (comments.map Comment.reread).map Comment.encode
      = comments.map Comment.encode := by
    rw [List.map_map]
    exact List.map_congr_left fun c _ => Comment.encode_reread c
  rw [wiresJson_eq, wiresJson_eq, hwires]

@[simp]
theorem toJson_relayed (m : Message) : m.relayed.toJson = m.toJson := by
  cases m with
  | get => rfl
  | set comments => rw [relayed, toJson, toJson, wiresJson_map_reread]

-- =========================================================== handlers

/-- What comes back for a message on the bus: what the handler answers to
it, and nothing where it is malformed. -/
def dispatch (handle : Message → Option (List Comment)) (payload : Json) :
    Option Json :=
  match (decode payload.toReading).toOption with
  | none => none
  | some m => (handle m).map wiresJson

theorem dispatch_toJson (handle : Message → Option (List Comment)) (m : Message) :
    dispatch handle m.toJson = (handle m.relayed).map wiresJson := by
  have harrived : (decode m.toJson.toReading).toOption = some m.relayed := received_eq m
  rw [dispatch, harrived]

end Message

namespace World

variable {w : World} {i : Nat} {c : PageContext}

-- ========================================================== receivers

/-- How the context of a page handles a message. -/
def pageHandler (c : PageContext) : Message → Option (List Comment)
  | .get => some c.scan
  | .set _ => none

/-- The handler that listens at an address, if one does. The background
never answers. -/
def handlerAt (pages : List PageContext) : Address → Option (Message → Option (List Comment))
  | .background => some fun _ => none
  | .page i => pages[i]?.map pageHandler
  | .detached => none

theorem replyAt_eq_handlerAt (pages : List PageContext) (receiver : Address) (m : Message) :
    (replyAt pages receiver m).toOption.map Prod.fst
      = (handlerAt pages receiver).map fun handle => (handle m).map Message.wiresJson := by
  cases receiver with
  | background => rfl
  | detached => rfl
  | page i =>
      cases hi : pages[i]? with
      | none => simp only [replyAt, handlerAt, hi, Option.map_none]; rfl
      | some c =>
          simp only [replyAt, handlerAt, hi, Option.map_some]
          cases m with
          | get => rfl
          | set comments => rfl

theorem noted_relayed (w : World) (receiver : Address) (sender : Option TabId)
    (m : Message) : w.noted receiver sender m.relayed = w.noted receiver sender m := by
  cases m with
  | get => rfl
  | set comments =>
      cases receiver with
      | page i => rfl
      | detached => rfl
      | background =>
          cases sender with
          | none => rfl
          | some tab =>
              simp only [noted, Message.relayed, atBackground, List.length_map]

theorem replyAt_relayed (pages : List PageContext) (receiver : Address) (m : Message) :
    replyAt pages receiver m.relayed = replyAt pages receiver m := by
  cases m with
  | get => rfl
  | set comments => rfl

/-- A receiver acts on the message that arrived, and there always is
one. -/
theorem send_eq_relayed (w : World) (receiver : Address) (sender : Option TabId)
    (m : Message) :
    w.send receiver sender m
      = (replyAt w.pages receiver m.relayed).map fun (reply, fetched) =>
          { world := w.noted receiver sender m.relayed, reply, fetched } := by
  rw [send_eq, replyAt_relayed, noted_relayed]

/-- The reply is the handler's, through the bus. -/
theorem reply_send (w : World) (receiver : Address) (sender : Option TabId) (m : Message) :
    (w.send receiver sender m).toOption.map Delivery.reply
      = (handlerAt w.pages receiver).map fun handle => Message.dispatch handle m.toJson := by
  have hreply := replyAt_eq_handlerAt w.pages receiver m.relayed
  rw [send_eq_relayed]
  simp only [Message.dispatch_toJson]
  rw [← hreply]
  cases replyAt w.pages receiver m.relayed with
  | error e => rfl
  | ok answer => rfl

/-- What a handler replies is read as the wire strings of its comments,
one for each and in their order. -/
theorem dispatch_bind_replyWires? (handle : Message → Option (List Comment))
    (m : Message) :
    (Message.dispatch handle m.toJson).bind replyWires?
      = (handle m.relayed).map (List.map Comment.encode) := by
  rw [Message.dispatch_toJson]
  cases handle m.relayed with
  | none => rfl
  | some comments =>
      rw [Option.map_some, Option.bind_some, replyWires?_wiresJson, Option.map_some]

-- =============================================================== main

/-- Every message that is sent arrives, with the same action and with
the same comments as far as kinds and wire strings go, and is written as
the same JSON again. Its receiver acts on it, never on a malformed
message, and what any handler replies to it, the program's own included,
reaches the sender entry for entry. -/
theorem bus_lossless (m : Message) :
    ∃ back, m.received = some back
      ∧ back.action = m.action
      ∧ List.Forall₂ (fun after before => after.kind = before.kind
          ∧ after.encode = before.encode) back.comments m.comments
      ∧ back.toJson = m.toJson
      ∧ (∀ (w : World) (receiver : Address) (sender : Option TabId),
          w.send receiver sender m
              = (replyAt w.pages receiver back).map (fun (reply, fetched) =>
                  { world := w.noted receiver sender back, reply, fetched })
            ∧ (w.send receiver sender m).toOption.map Delivery.reply
              = (handlerAt w.pages receiver).map fun handle =>
                  Message.dispatch handle m.toJson)
      ∧ ∀ handle : Message → Option (List Comment),
          (Message.dispatch handle m.toJson).bind replyWires?
            = (handle back).map (List.map Comment.encode) := by
  refine ⟨m.relayed, m.received_eq, m.action_relayed, m.forall₂_comments_relayed,
    m.toJson_relayed, fun w receiver sender => ⟨?_, ?_⟩, fun handle => ?_⟩
  · exact send_eq_relayed w receiver sender m
  · exact reply_send w receiver sender m
  · exact dispatch_bind_replyWires? handle m

end World

end Marginalia
