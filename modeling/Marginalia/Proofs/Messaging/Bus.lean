/-
Messages on the bus. A message is sent as JSON and read back before
anything looks at it; a report of comments is read all or nothing, so a
single wire string that could not be decoded would lose the whole of it.
`received_set` says that none is ever lost: what arrives has as many
comments as what was sent, each with the same wire string.

Replies go the other way as bare lists of wire strings and are read back
as they are (`replyWires?_wiresJson`).
-/
import Marginalia.Messaging.World
import Marginalia.Proofs.Comment.Wire

namespace Marginalia

namespace Json

variable {α β ε : Type}

/-- Where no item is refused, a list of items is read item by item. -/
theorem mapM_ok {f : α → Except ε β} {g : α → β} (l : List α)
    (h : ∀ a ∈ l, f a = .ok (g a)) : l.mapM f = .ok (l.map g) := by
  induction l with
  | nil => rfl
  | cons a l ih =>
      rw [List.mapM_cons, h a List.mem_cons_self,
        ih fun b hb => h b (List.mem_cons_of_mem a hb)]
      rfl

theorem toReadings_strings (l : List String) :
    toReadings (l.map Json.string) = l.map Reading.string := by
  induction l with
  | nil => rfl
  | cons s l ih =>
      rw [List.map_cons, toReadings, ih, List.map_cons]
      rfl

theorem toReading_strings (l : List String) :
    (Json.array (l.map Json.string)).toReading
      = .array (l.map Reading.string) .closed := by
  rw [toReading, toReadings_strings]

/-- Strings are taken in as they are, at any depth. -/
theorem takeInItems_strings (depth : Nat) (l : List String) :
    Reading.takeInItems depth (l.map Reading.string) = .ok (l.map Json.string) := by
  induction l with
  | nil => rfl
  | cons s l ih =>
      rw [List.map_cons, Reading.takeInItems, ih]
      rfl

end Json

namespace Message

open Json

theorem wiresJson_eq (comments : List Comment) :
    wiresJson comments = .array ((comments.map Comment.encode).map Json.string) := by
  rw [List.map_map]
  rfl

-- ======================================================= the reading

theorem decodeComments_wiresJson (comments : List Comment) :
    decodeComments (wiresJson comments) = .ok (comments.map Comment.reread) := by
  have hitems : (comments.map fun c => Reading.string c.encode).mapM decodeComment
      = .ok (comments.map Comment.reread) := by
    rw [List.mapM_map]
    refine mapM_ok comments fun c _ => ?_
    show decodeComment (.string c.encode) = _
    rw [decodeComment, Comment.decode_encode]
  unfold decodeComments
  rw [wiresJson_eq, toReading_strings, List.map_map, Reading.list]
  show ((comments.map fun c => Reading.string c.encode).mapM decodeComment >>= _) = _
  rw [hitems]
  rfl

theorem takeIn_wiresJson (comments : List Comment) :
    (wiresJson comments).toReading.takeIn maxDepth = .ok (wiresJson comments) := by
  rw [wiresJson_eq, toReading_strings, Reading.takeIn, if_neg (by decide),
    takeInItems_strings]
  rfl

theorem findComments_wiresJson (comments : List Comment) :
    findComments none [("comments", wiresJson comments)]
      = .ok (comments.map Comment.reread) := by
  rw [findComments, if_pos rfl, if_neg (by decide), decodeComments_wiresJson]
  rfl

theorem takeMembers_set (comments : List Comment) :
    takeMembers none
        [(some "action", .string "set"),
          (some "comments", (wiresJson comments).toReading)]
      = .ok (some .set, [("comments", wiresJson comments)]) := by
  rw [takeMembers, if_pos rfl, if_neg (by decide)]
  show takeMembers (some .set) _ = _
  rw [takeMembers, if_neg (by decide), takeIn_wiresJson]
  rfl

-- ====================================================== what arrives

theorem received_get : received .get = some .get := rfl

/-- A report arrives whole: every comment with the kind and the wire
string that it was sent with. -/
theorem received_set (comments : List Comment) :
    received (.set comments) = some (.set (comments.map Comment.reread)) := by
  have hreading : (toJson (.set comments)).toReading
      = .object [(some "action", .string "set"),
          (some "comments", (wiresJson comments).toReading)] .closed := rfl
  have hdecode : decode (toJson (.set comments)).toReading
      = .ok (.set (comments.map Comment.reread)) := by
    rw [hreading, decode, takeMembers_set]
    show (set <$> findComments none [("comments", wiresJson comments)]) = _
    rw [findComments_wiresJson]
    rfl
  unfold received
  rw [hdecode]
  rfl

end Message

namespace World

/-- The wire strings in a reply arrive as they were sent. -/
theorem replyWires?_wiresJson (comments : List Comment) :
    replyWires? (Message.wiresJson comments) = some (comments.map Comment.encode) := by
  have hitems : ((comments.map Comment.encode).map Json.Reading.string).mapM
      Json.Reading.text = .ok (comments.map Comment.encode) := by
    have hall : ∀ s ∈ comments.map Comment.encode,
        (Json.Reading.text ∘ Json.Reading.string) s = .ok (id s) := fun s _ => rfl
    rw [List.mapM_map, Json.mapM_ok _ hall, List.map_id]
  unfold replyWires?
  rw [Message.wiresJson_eq, Json.toReading_strings, Json.Reading.list, hitems]
  rfl

end World

end Marginalia
