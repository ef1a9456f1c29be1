/-
The order of the nodes of a document. While a document is read its tree
grows by one node after the other (`put`). Nodes are numbered as they are
made, and the order of the document is that of a walk through the tree. The
two orders are the same as long as every node is put at the end of one on the
right edge of the tree, that is, the root, its last child, the last child of
that and so on (`Grown.descendants_root`).

Walks are cut off at a depth. That depth is enough, since a child has a
greater number than its parent (`Grown.descendants_eq`), and what follows is
by induction from greater numbers to smaller ones.
-/
import Mathlib.Data.List.Basic
import Marginalia.Html.Tree

namespace Marginalia.Html

namespace NodeData

/-- The text of a comment. -/
def comment? : NodeData → Option (List Char)
  | .comment run => some run
  | _ => none

/-- The element that a node is. -/
def element? : NodeData → Option Element
  | .element e => some e
  | _ => none

end NodeData

namespace Tree

/-- Makes a node and puts it at the end of another one. -/
def put (t : Tree) (parent : NodeId) (data : NodeData) : Tree :=
  (t.create data).1.append parent t.nodes.size

/-- Text in a node without children is a node of its own. -/
theorem appendText_of_childless {t : Tree} {p : NodeId} (h : t.children p = #[]) (run : List Char) :
    t.appendText p run = t.put p (.text run) := by
  rw [appendText, h]
  rfl

/-- The second node is the first one, or its last child, or the last child
of that and so on. -/
inductive RightEdge (t : Tree) : NodeId → NodeId → Prop where
  | self (id : NodeId) : RightEdge t id id
  | last {id child p : NodeId} (hlast : (t.children id).back? = some child)
      (h : RightEdge t child p) : RightEdge t id p

/-- A tree that has grown from the empty document at its right edge. -/
inductive Grown : Tree → Prop where
  | empty : Grown .empty
  | put {t : Tree} {p : NodeId} (h : Grown t) (hp : RightEdge t root p) (data : NodeData) :
      Grown (t.put p data)

variable {t : Tree} {p q id c : Nat} {d : NodeData}

-- ========================================================== one node

/-- The nodes of a tree with one more. -/
theorem getElem?_put (hp : p < t.nodes.size) (d : NodeData) (id : NodeId) :
    (t.put p d).nodes[id]?
      = if id = t.nodes.size then some ⟨d, some p, #[]⟩
        else if id = p then
          t.nodes[id]?.map fun n => { n with children := n.children.push t.nodes.size }
        else t.nodes[id]? := by
  have hdetach : (t.create d).1.detach t.nodes.size = (t.create d).1 := by
    simp [detach, parent?, create]
  unfold put append
  rw [hdetach]
  unfold modifyChildren modify create
  dsimp only
  rw [Array.getElem?_modify, Array.getElem?_modify, Array.getElem?_push]
  by_cases hid : id = t.nodes.size
  · subst hid
    simp [Nat.ne_of_lt hp]
  · by_cases hidp : id = p
    · subst hidp
      simp [hid, Ne.symm hid]
    · simp [hid, Ne.symm hid, hidp, Ne.symm hidp]

theorem size_put (t : Tree) (p : NodeId) (d : NodeData) :
    (t.put p d).nodes.size = t.nodes.size + 1 := by
  unfold put append modifyChildren modify detach
  split
  · simp [create]
  · simp [create, modifyChildren, modify]

theorem data?_put_self (hp : p < t.nodes.size) (d : NodeData) :
    (t.put p d).data? t.nodes.size = some d := by
  rw [data?, getElem?_put hp]
  simp

theorem data?_put (hp : p < t.nodes.size) (d : NodeData) (hid : id ≠ t.nodes.size) :
    (t.put p d).data? id = t.data? id := by
  rw [data?, getElem?_put hp, if_neg hid, data?]
  split
  · rw [Option.map_map]
    rfl
  · rfl

theorem parent?_put_self (hp : p < t.nodes.size) (d : NodeData) :
    (t.put p d).parent? t.nodes.size = some p := by
  rw [parent?, getElem?_put hp]
  simp

theorem parent?_put (hp : p < t.nodes.size) (d : NodeData) (hid : id ≠ t.nodes.size) :
    (t.put p d).parent? id = t.parent? id := by
  rw [parent?, getElem?_put hp, if_neg hid, parent?]
  split
  · rw [Option.bind_map]
    rfl
  · rfl

theorem children_put_self (hp : p < t.nodes.size) (d : NodeData) :
    (t.put p d).children t.nodes.size = #[] := by
  rw [children, getElem?_put hp]
  simp

theorem children_put_parent (hp : p < t.nodes.size) (d : NodeData) :
    (t.put p d).children p = (t.children p).push t.nodes.size := by
  rw [children, getElem?_put hp, if_neg (Nat.ne_of_lt hp), if_pos rfl, children,
    Array.getElem?_eq_getElem hp]
  rfl

theorem children_put (hp : p < t.nodes.size) (d : NodeData) (hid : id ≠ t.nodes.size)
    (hidp : id ≠ p) : (t.put p d).children id = t.children id := by
  rw [children, getElem?_put hp, if_neg hid, if_neg hidp, children]

theorem children_of_size_le (h : t.nodes.size ≤ id) : t.children id = #[] := by
  rw [children, Array.getElem?_eq_none h]
  rfl

theorem descendantsWithin_of_size_le (h : t.nodes.size ≤ id) (depth : Nat) :
    t.descendantsWithin depth id = [] := by
  cases depth with
  | zero => rfl
  | succ depth =>
      rw [descendantsWithin, children_of_size_le h]
      rfl

theorem lt_of_rightEdge (ht : ∀ {id c : Nat}, c ∈ t.children id → id < c ∧ c < t.nodes.size)
    (h : RightEdge t id p) (hid : id < t.nodes.size) : id ≤ p ∧ p < t.nodes.size := by
  induction h with
  | self id => exact ⟨Nat.le_refl id, hid⟩
  | last hlast _ ih =>
      have hc := ht (Array.mem_of_back? hlast)
      have := ih hc.2
      omega

namespace Grown

theorem pos (h : t.Grown) : 0 < t.nodes.size := by
  cases h with
  | empty => decide
  | put h _ _ => rw [size_put]; omega

/-- A child has a greater number than its parent. -/
theorem lt_of_mem_children (h : t.Grown) (hc : c ∈ t.children id) :
    id < c ∧ c < t.nodes.size := by
  induction h generalizing id c with
  | empty =>
      cases id with
      | zero => exact absurd hc (Array.not_mem_empty c)
      | succ id => exact absurd hc (Array.not_mem_empty c)
  | @put t p h hedge d ih =>
      have hp := (lt_of_rightEdge ih hedge h.pos).2
      rw [size_put]
      by_cases hid : id = t.nodes.size
      · rw [hid, children_put_self hp] at hc
        exact absurd hc (Array.not_mem_empty c)
      by_cases hidp : id = p
      · rw [hidp, children_put_parent hp, Array.mem_push] at hc
        rcases hc with hc | hc
        · have := ih hc
          omega
        · omega
      · rw [children_put hp d hid hidp] at hc
        have := ih hc
        omega

theorem le_of_rightEdge (h : t.Grown) (hedge : RightEdge t id p) (hid : id < t.nodes.size) :
    id ≤ p ∧ p < t.nodes.size :=
  lt_of_rightEdge h.lt_of_mem_children hedge hid

-- ============================================================= walks

/-- A walk that is cut off at a depth where there are no more nodes is
complete. -/
theorem descendantsWithin_add (h : t.Grown) {depth : Nat} (hdepth : t.nodes.size ≤ id + depth)
    (more : Nat) : t.descendantsWithin (depth + more) id = t.descendantsWithin depth id := by
  induction depth generalizing id with
  | zero =>
      have hdepth : t.nodes.size ≤ id := hdepth
      rw [descendantsWithin_of_size_le hdepth, descendantsWithin_of_size_le hdepth]
  | succ depth ih =>
      rw [Nat.succ_add, descendantsWithin, descendantsWithin]
      refine List.flatMap_congr fun c hc => ?_
      have := h.lt_of_mem_children (Array.mem_toList_iff.1 hc)
      rw [ih (by omega)]

/-- The nodes below a node are its children, each with those below it. -/
theorem descendants_eq (h : t.Grown) (id : Nat) :
    t.descendants id = (t.children id).toList.flatMap fun c => c :: t.descendants c := by
  have hdeeper : t.descendants id = t.descendantsWithin (t.nodes.size + 1) id :=
    (h.descendantsWithin_add (Nat.le_add_left _ _) 1).symm
  rw [hdeeper, descendantsWithin]
  rfl

/-- What holds of a node as soon as it holds of its children holds of all
nodes. -/
theorem induct (h : t.Grown) {motive : Nat → Prop}
    (step : ∀ id, (∀ c ∈ t.children id, motive c) → motive id) (id : Nat) : motive id := by
  induction hk : t.nodes.size - id using Nat.strongRecOn generalizing id with
  | ind k ih =>
      refine step id fun c hc => ih _ ?_ c rfl
      have := h.lt_of_mem_children hc
      omega

theorem lt_of_mem_descendants (h : t.Grown) (hc : c ∈ t.descendants id) :
    id < c ∧ c < t.nodes.size := by
  induction id using h.induct with
  | step id ih =>
      rw [h.descendants_eq, List.mem_flatMap] at hc
      obtain ⟨child, hchild, hc⟩ := hc
      have hbelow := h.lt_of_mem_children (Array.mem_toList_iff.1 hchild)
      rcases List.mem_cons.1 hc with rfl | hc
      · exact hbelow
      · have := ih child (Array.mem_toList_iff.1 hchild) hc
        omega

/-- A node that is put outside of what is below another one does not show
there. -/
theorem descendants_put_of_notMem (h : t.Grown) (hp : RightEdge t root p) (d : NodeData)
    (hid : id ≠ p) (hbelow : p ∉ t.descendants id) :
    (t.put p d).descendants id = t.descendants id := by
  have hsize := (h.le_of_rightEdge hp h.pos).2
  have h' := h.put hp d
  induction id using h.induct with
  | step id ih =>
      by_cases hnew : id = t.nodes.size
      · rw [h'.descendants_eq, hnew, children_put_self hsize, descendants,
          descendantsWithin_of_size_le (Nat.le_refl _)]
        rfl
      rw [h'.descendants_eq, children_put hsize d hnew hid, h.descendants_eq]
      refine List.flatMap_congr fun c hc => ?_
      rw [h.descendants_eq, List.mem_flatMap, not_exists] at hbelow
      have hout : p ∉ c :: t.descendants c := fun hin => hbelow c ⟨hc, hin⟩
      rw [List.mem_cons, not_or] at hout
      rw [ih c (Array.mem_toList_iff.1 hc) (Ne.symm hout.1) hout.2]

theorem notMem_descendants_of_lt (h : t.Grown) (hid : p < id) : p ∉ t.descendants id := by
  intro hin
  have := h.lt_of_mem_descendants hin
  omega

/-- What stands below a node, cut in front of its last child. -/
theorem exists_earlier (h : t.Grown) (hlast : (t.children id).back? = some c) :
    ∃ earlier, (t.children id).toList = earlier ++ [c]
      ∧ t.descendants id
        = (earlier.flatMap fun k => k :: t.descendants k) ++ c :: t.descendants c := by
  rw [← Array.getLast?_toList] at hlast
  obtain ⟨earlier, hchildren⟩ := List.getLast?_eq_some_iff.1 hlast
  refine ⟨earlier, hchildren, ?_⟩
  rw [h.descendants_eq, hchildren, List.flatMap_append, List.flatMap_singleton]

/-- A node that is put at the right edge is the last one below each node of
that edge above it. -/
theorem descendants_put_of_rightEdge (h : t.Grown) (hp : RightEdge t root p) (d : NodeData)
    (hedge : RightEdge t id p) (hid : id < t.nodes.size)
    (hsorted : (t.descendants id).Pairwise (· < ·)) :
    (t.put p d).descendants id = t.descendants id ++ [t.nodes.size] := by
  have hsize := (h.le_of_rightEdge hp h.pos).2
  have h' := h.put hp d
  induction hedge with
  | self =>
      rw [h'.descendants_eq, children_put_parent hsize, Array.toList_push, List.flatMap_append,
        h.descendants_eq]
      refine congrArg₂ (· ++ ·) ?_ ?_
      · refine List.flatMap_congr fun c hc => ?_
        have := h.lt_of_mem_children (Array.mem_toList_iff.1 hc)
        rw [h.descendants_put_of_notMem hp d (Nat.ne_of_gt this.1)
          (h.notMem_descendants_of_lt this.1)]
      · rw [List.flatMap_singleton, h'.descendants_eq, children_put_self hsize]
        rfl
  | @last id child p hlast hedge ih =>
      have hchild := h.lt_of_mem_children (Array.mem_of_back? hlast)
      have hle := h.le_of_rightEdge hedge hchild.2
      obtain ⟨earlier, hchildren, hdown⟩ := h.exists_earlier hlast
      rw [hdown, List.pairwise_append] at hsorted
      obtain ⟨-, hchildSorted, hearlier⟩ := hsorted
      rw [h'.descendants_eq, children_put hsize d (by omega) (by omega), hchildren,
        List.flatMap_append, List.flatMap_singleton, hdown,
        ih hp hchild.2 (List.pairwise_cons.1 hchildSorted).2 hsize h', List.append_assoc]
      refine congrArg (· ++ _) (List.flatMap_congr fun c hc => ?_)
      -- What stands below an earlier child comes before the last one.
      have hbefore : ∀ x ∈ c :: t.descendants c, x < child := fun x hx =>
        hearlier x (List.mem_flatMap.2 ⟨c, hc, hx⟩) child (List.mem_cons_self ..)
      have hother : c ≠ p :=
        Nat.ne_of_lt (Nat.lt_of_lt_of_le (hbefore c (List.mem_cons_self ..)) hle.1)
      have hout : p ∉ t.descendants c := fun hin =>
        Nat.not_lt_of_le hle.1 (hbefore p (List.mem_cons_of_mem _ hin))
      rw [h.descendants_put_of_notMem hp d hother hout]

/-- The nodes below the root are all others, in the order in which they were
made. -/
theorem descendants_root (h : t.Grown) :
    t.descendants root = List.range' 1 (t.nodes.size - 1) := by
  induction h with
  | empty => rfl
  | @put t p h hp d ih =>
      have := h.pos
      rw [h.descendants_put_of_rightEdge hp d hp h.pos (ih ▸ List.pairwise_lt_range'), ih,
        size_put, Nat.sub_add_comm h.pos, List.range'_concat]
      simp only [Nat.one_mul, List.append_cancel_left_eq, List.cons.injEq, and_true]
      omega

end Grown

namespace RightEdge

/-- What a node is put on stays on the right edge. -/
theorem put (h : RightEdge t id q) (ht : t.Grown) (hid : id < t.nodes.size)
    (hp : p < t.nodes.size) (hq : q ≤ p) (d : NodeData) : RightEdge (t.put p d) id q := by
  induction h with
  | self id => exact .self id
  | @last id child q hlast hedge ih =>
      have hchild := ht.lt_of_mem_children (Array.mem_of_back? hlast)
      have hle := ht.le_of_rightEdge hedge hchild.2
      refine .last ?_ (ih hchild.2 hq)
      rw [children_put hp d (by omega) (by omega)]
      exact hlast

theorem trans (h : RightEdge t id q) (hq : RightEdge t q p) : RightEdge t id p := by
  induction h with
  | self => exact hq
  | last hlast _ ih => exact .last hlast (ih hq)

/-- A node is the last one below that it is put on. -/
theorem put_self (hp : p < t.nodes.size) (d : NodeData) :
    RightEdge (t.put p d) p t.nodes.size := by
  refine .last ?_ (.self _)
  rw [children_put_parent hp]
  exact Array.back?_push

end RightEdge

-- ====================================================== what is read

/-- Makes an element with the given text and puts it at the end of a node. -/
def embed (t : Tree) (p : NodeId) (e : Element) (run : List Char) : Tree :=
  let t' := t.put p (.element e)
  if run.isEmpty then t' else t'.put t.nodes.size (.text run)

theorem comments_eq (t : Tree) :
    t.comments = (t.descendants root).filterMap fun id => (t.data? id).bind (·.comment?) := by
  unfold comments
  refine List.filterMap_congr fun id _ => ?_
  rcases t.data? id with - | (_ | _ | _ | _ | _) <;> rfl

theorem elements_eq (t : Tree) :
    t.elements = (List.range t.nodes.size).filterMap fun id =>
      (t.parent? id).bind fun _ => ((t.data? id).bind (·.element?)).map (id, ·) := by
  unfold elements
  refine List.filterMap_congr fun id _ => ?_
  rcases t.data? id with - | (_ | _ | _ | _ | _) <;> cases t.parent? id <;> rfl

theorem lt_of_mem_elements {x : NodeId × Element} (h : x ∈ t.elements) : x.1 < t.nodes.size := by
  rw [elements_eq, List.mem_filterMap] at h
  obtain ⟨id, hid, h⟩ := h
  obtain ⟨-, -, h⟩ := Option.bind_eq_some_iff.1 h
  obtain ⟨e, -, rfl⟩ := Option.map_eq_some_iff.1 h
  exact List.mem_range.1 hid

namespace Grown

theorem comments_put (h : t.Grown) (hp : RightEdge t root p) (d : NodeData) :
    (t.put p d).comments = t.comments ++ d.comment?.toList := by
  have hsize := (h.le_of_rightEdge hp h.pos).2
  have hsorted : (t.descendants root).Pairwise (· < ·) :=
    h.descendants_root ▸ List.pairwise_lt_range'
  rw [comments_eq, h.descendants_put_of_rightEdge hp d hp h.pos hsorted, List.filterMap_append,
    comments_eq]
  refine congrArg₂ (· ++ ·) ?_ ?_
  · refine List.filterMap_congr fun id hid => ?_
    rw [data?_put hsize d (Nat.ne_of_lt (h.lt_of_mem_descendants hid).2)]
  · rw [List.filterMap_cons, data?_put_self hsize]
    cases d <;> rfl

theorem elements_put (h : t.Grown) (hp : RightEdge t root p) (d : NodeData) :
    (t.put p d).elements = t.elements ++ (d.element?.map (t.nodes.size, ·)).toList := by
  have hsize := (h.le_of_rightEdge hp h.pos).2
  rw [elements_eq, size_put, List.range_succ, List.filterMap_append, elements_eq]
  refine congrArg₂ (· ++ ·) ?_ ?_
  · refine List.filterMap_congr fun id hid => ?_
    have hold := Nat.ne_of_lt (List.mem_range.1 hid)
    rw [data?_put hsize d hold, parent?_put hsize d hold]
  · rw [List.filterMap_cons, data?_put_self hsize, parent?_put_self hsize]
    cases d <;> rfl

theorem textBelow_put_of_notMem (h : t.Grown) (hp : RightEdge t root p) (d : NodeData)
    (hid : id ≠ p) (hbelow : p ∉ t.descendants id) :
    (t.put p d).textBelow id = t.textBelow id := by
  have hsize := (h.le_of_rightEdge hp h.pos).2
  rw [textBelow, h.descendants_put_of_notMem hp d hid hbelow, textBelow]
  refine List.flatMap_congr fun c hc => ?_
  rw [data?_put hsize d (Nat.ne_of_lt (h.lt_of_mem_descendants hc).2)]

theorem rightEdge_put (h : t.Grown) (hp : RightEdge t root p) (d : NodeData) :
    RightEdge (t.put p d) root t.nodes.size := by
  have hsize := (h.le_of_rightEdge hp h.pos).2
  exact (hp.put h h.pos hsize (Nat.le_refl p) d).trans (.put_self hsize d)

section Embedding

variable (h : t.Grown) (hp : RightEdge t root p) (e : Element) (run : List Char)
include h hp

theorem embed : (t.embed p e run).Grown := by
  unfold Tree.embed
  split
  · exact h.put hp _
  · exact (h.put hp _).put (h.rightEdge_put hp _) _

/-- What an element is put on stays on the right edge. -/
theorem rightEdge_embed (hq : RightEdge t id q) (hid : id < t.nodes.size) (hqp : q ≤ p) :
    RightEdge (t.embed p e run) id q := by
  have hsize := (h.le_of_rightEdge hp h.pos).2
  have hput := hq.put h hid hsize hqp (.element e)
  unfold Tree.embed
  split
  · exact hput
  · refine hput.put (h.put hp _) ?_ ?_ (by omega) _ <;> rw [size_put] <;> omega

theorem comments_embed : (t.embed p e run).comments = t.comments := by
  have helement : (t.put p (.element e)).comments = t.comments :=
    (h.comments_put hp _).trans (List.append_nil _)
  unfold Tree.embed
  split
  · exact helement
  · rw [(h.put hp _).comments_put (h.rightEdge_put hp _), helement]
    exact List.append_nil _

theorem elements_embed : (t.embed p e run).elements = t.elements ++ [(t.nodes.size, e)] := by
  have helement : (t.put p (.element e)).elements = t.elements ++ [(t.nodes.size, e)] :=
    h.elements_put hp _
  unfold Tree.embed
  split
  · exact helement
  · rw [(h.put hp _).elements_put (h.rightEdge_put hp _), helement]
    exact List.append_nil _

theorem textBelow_embed_self : (t.embed p e run).textBelow t.nodes.size = run := by
  have hsize := (h.le_of_rightEdge hp h.pos).2
  have h' := h.put hp (.element e)
  have hnone : (t.put p (.element e)).descendants t.nodes.size = [] := by
    rw [h'.descendants_eq, children_put_self hsize]
    rfl
  have hnew : t.nodes.size < (t.put p (.element e)).nodes.size := by
    rw [size_put]
    exact Nat.lt_succ_self _
  unfold Tree.embed
  split
  · next hrun => rw [textBelow, hnone, List.isEmpty_iff.1 hrun, List.flatMap_nil]
  · rw [textBelow, h'.descendants_put_of_rightEdge (h.rightEdge_put hp _) _ (.self _) hnew
      (hnone ▸ List.Pairwise.nil), hnone, List.nil_append, List.flatMap_singleton,
      data?_put_self hnew]

theorem textBelow_embed (hid : p < id) (hold : id < t.nodes.size) :
    (t.embed p e run).textBelow id = t.textBelow id := by
  have hout := h.notMem_descendants_of_lt hid
  have helement := h.textBelow_put_of_notMem hp (.element e) (Nat.ne_of_gt hid) hout
  have hnew : t.nodes.size ∉ (t.put p (.element e)).descendants id := by
    rw [h.descendants_put_of_notMem hp _ (Nat.ne_of_gt hid) hout]
    exact fun hin => Nat.lt_irrefl _ (h.lt_of_mem_descendants hin).2
  unfold Tree.embed
  split
  · exact helement
  · rw [(h.put hp _).textBelow_put_of_notMem (h.rightEdge_put hp _) _ (Nat.ne_of_lt hold) hnew,
      helement]

end Embedding

end Grown

end Tree

end Marginalia.Html
