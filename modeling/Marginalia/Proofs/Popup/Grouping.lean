/-
The popup as a regrouping. Building a popup sorts comments into one
group for each kind, and reading it off again lists the groups in the
order of kinds. The two together keep every comment and move it only
past comments of other kinds (`comments_ofComments`); comments that are
ordered by kind already come back as they were
(`comments_ofComments_ordered`).
-/
import Mathlib.Data.List.Basic
import Marginalia.Popup
import Marginalia.Proofs.Comment.Wire

namespace Marginalia.Popup

-- ===================================================== by one kind

theorem entries_ofComments (comments : List Comment) (kind : Kind) :
    (ofComments comments).entries kind = entriesOf kind comments := by
  cases kind with
  | html => rfl
  | css => rfl
  | js => rfl

/-- Every comment is on a line, and nothing else is. -/
theorem forall_entries_ofComments {comments : List Comment} {P : PopupEntry → Prop} :
    (∀ kind ∈ Kind.all, ∀ e ∈ (ofComments comments).entries kind, P e)
      ↔ ∀ c ∈ comments, P ⟨c.text, c.origin⟩ := by
  simp only [entries_ofComments, entriesOf, List.forall_mem_map, List.mem_filter,
    decide_eq_true_iff]
  constructor
  · intro h c hc
    have hall : c.kind ∈ Kind.all := by cases c.kind <;> decide
    exact h c.kind hall c ⟨hc, rfl⟩
  · intro h kind _ c hc
    exact h c hc.1

/-- The lines of a kind, with the kind put back, are its comments. -/
theorem entriesOf_with_kind (comments : List Comment) (kind : Kind) :
    (entriesOf kind comments).map (fun e => (⟨kind, e.text, e.origin⟩ : Comment))
      = comments.filter (·.kind = kind) := by
  unfold entriesOf
  rw [List.map_map]
  conv => rhs; rw [← List.map_id (comments.filter (·.kind = kind))]
  refine List.map_congr_left fun c hc => ?_
  obtain ⟨-, hkind⟩ := List.mem_filter.1 hc
  have hkind : c.kind = kind := by simpa using hkind
  show (⟨kind, c.text, c.origin⟩ : Comment) = c
  rw [← hkind]

-- ======================================================== all kinds

theorem total_eq_length_comments (p : Popup) : p.total = p.comments.length := by
  unfold total comments
  simp only [Kind.all, List.flatMap_cons, List.flatMap_nil, List.append_nil,
    List.length_append, List.length_map, entries]
  omega

theorem comments_ofComments (comments : List Comment) :
    (ofComments comments).comments
      = Kind.all.flatMap fun kind => comments.filter (·.kind = kind) := by
  unfold Popup.comments
  refine List.flatMap_congr fun kind _ => ?_
  rw [entries_ofComments, entriesOf_with_kind]

theorem mem_comments_ofComments {comments : List Comment} {c : Comment} :
    c ∈ (ofComments comments).comments ↔ c ∈ comments := by
  rw [comments_ofComments, List.mem_flatMap]
  constructor
  · rintro ⟨kind, -, hc⟩
    exact (List.mem_filter.1 hc).1
  · intro hc
    have hall : c.kind ∈ Kind.all := by cases c.kind <;> decide
    exact ⟨c.kind, hall, List.mem_filter.2 ⟨hc, by simp⟩⟩

/-- Of comments that are ordered by kind, those of one kind. -/
theorem filter_ordered {parts : Kind → List Comment}
    (h : ∀ kind, ∀ c ∈ parts kind, c.kind = kind) (kind : Kind) :
    (Kind.all.flatMap parts).filter (·.kind = kind) = parts kind := by
  have hsame : (parts kind).filter (·.kind = kind) = parts kind := by
    refine List.filter_eq_self.2 fun c hc => ?_
    simpa using h kind c hc
  have hother : ∀ other, other ≠ kind → (parts other).filter (·.kind = kind) = [] := by
    intro other hne
    refine List.filter_eq_nil_iff.2 fun c hc => ?_
    rw [h other c hc]
    simpa using hne
  rw [List.filter_flatMap]
  simp only [Kind.all, List.flatMap_cons, List.flatMap_nil, List.append_nil]
  cases kind with
  | html =>
      rw [hsame, hother .css (by decide), hother .js (by decide)]
      simp only [List.append_nil]
  | css =>
      rw [hsame, hother .html (by decide), hother .js (by decide)]
      simp only [List.append_nil, List.nil_append]
  | js =>
      rw [hsame, hother .html (by decide), hother .css (by decide)]
      simp only [List.nil_append]

theorem comments_ofComments_ordered {parts : Kind → List Comment}
    (h : ∀ kind, ∀ c ∈ parts kind, c.kind = kind) :
    (ofComments (Kind.all.flatMap parts)).comments = Kind.all.flatMap parts := by
  rw [comments_ofComments]
  exact List.flatMap_congr fun kind _ => filter_ordered h kind

-- ===================================================== from the wire

theorem ofWire_encode (comments : List Comment) :
    ofWire (comments.map Comment.encode) = ofComments (comments.map Comment.reread) := by
  unfold ofWire
  rw [List.filterMap_map, ← List.filterMap_eq_map]
  congr 1
  refine List.filterMap_congr fun c _ => ?_
  show (Comment.decode c.encode).toOption = _
  rw [Comment.decode_encode]
  rfl

/-- The wire brings over the kinds that there are. -/
theorem forall_kind_ofWire_encode {comments : List Comment} {P : Kind → Prop} :
    (∀ c ∈ (ofWire (comments.map Comment.encode)).comments, P c.kind)
      ↔ ∀ c ∈ comments, P c.kind := by
  simp only [ofWire_encode, mem_comments_ofComments, List.forall_mem_map,
    Comment.kind_reread]

/-- A popup made from the wire strings of comments that are ordered by
kind shows comments with the same wire strings in the same order. -/
theorem encode_comments_ofWire {parts : Kind → List Comment}
    (h : ∀ kind, ∀ c ∈ parts kind, c.kind = kind) :
    (ofWire ((Kind.all.flatMap parts).map Comment.encode)).comments.map Comment.encode
      = (Kind.all.flatMap parts).map Comment.encode := by
  have hreread : ∀ kind, ∀ c ∈ (parts kind).map Comment.reread, c.kind = kind := by
    intro kind c hc
    obtain ⟨d, hd, rfl⟩ := List.mem_map.1 hc
    rw [Comment.kind_reread, h kind d hd]
  rw [ofWire_encode, List.map_flatMap, comments_ofComments_ordered hreread,
    ← List.map_flatMap, List.map_map]
  exact List.map_congr_left fun c _ => Comment.encode_reread c

end Marginalia.Popup
