/-
The popup as a stable partition of what arrives. Wire strings come in one by
one, in any order of kinds and with strings among them that are no comments. A
comment is put at the end of the group of its kind and everything else is
passed over (`ofWire_append_singleton`), so by induction on the arrivals a
popup is the run of these steps (`ofWire_eq_foldl`), and each of its groups is
what came in of one kind, in the order in which it came.

Two readers list the groups one after the other, the report and the answer of
the server. A list in which the kinds stand in order is its parts by kind, one
after the other (`flatMap_filter_of_ordered`); and sorting by kind moves no
comment past another of the same kind (`filter_mergeSort`). So both readers see
the comments in stable order (`comments_ofComments_eq_mergeSort`): there is
nothing that grouping could lose, repeat or move.
-/
import Marginalia.Proofs.Popup.Grouping
import Marginalia.Server

namespace Marginalia.Popup

-- ========================================================== arrivals

/-- Whether a wire string is that of a comment. -/
def isComment (wire : String) : Bool :=
  (Comment.decode wire).toOption.isSome

/-- The line that a wire string gives in the group of a kind. -/
def line? (kind : Kind) (wire : String) : Option PopupEntry :=
  match Comment.decode wire with
  | .ok c => if c.kind = kind then some ⟨c.text, c.origin⟩ else none
  | .error _ => none

/-- A popup with a comment at the end of the group of its kind. -/
def add (p : Popup) (c : Comment) : Popup :=
  match c.kind with
  | .html => { p with html := p.html ++ [⟨c.text, c.origin⟩] }
  | .css => { p with css := p.css ++ [⟨c.text, c.origin⟩] }
  | .js => { p with js := p.js ++ [⟨c.text, c.origin⟩] }

/-- A popup after one more wire string. -/
def receive (p : Popup) (wire : String) : Popup :=
  match Comment.decode wire with
  | .ok c => p.add c
  | .error _ => p

theorem ext_entries {p q : Popup} (h : ∀ kind, p.entries kind = q.entries kind) : p = q := by
  obtain ⟨html, css, js⟩ := p
  have hhtml : html = q.html := h .html
  have hcss : css = q.css := h .css
  have hjs : js = q.js := h .js
  rw [hhtml, hcss, hjs]

theorem entries_add (p : Popup) (c : Comment) (kind : Kind) :
    (p.add c).entries kind
      = p.entries kind ++ if c.kind = kind then [⟨c.text, c.origin⟩] else [] := by
  unfold add
  cases c.kind with
  | html => cases kind <;> simp [entries]
  | css => cases kind <;> simp [entries]
  | js => cases kind <;> simp [entries]

theorem entries_receive (p : Popup) (wire : String) (kind : Kind) :
    (p.receive wire).entries kind = p.entries kind ++ (line? kind wire).toList := by
  unfold receive line?
  cases Comment.decode wire with
  | error e => simp
  | ok c =>
      simp only [entries_add]
      split
      · rfl
      · rfl

/-- A group is what came in of its kind, in the order in which it came. -/
theorem entries_ofWire (wires : List String) (kind : Kind) :
    (ofWire wires).entries kind = wires.filterMap (line? kind) := by
  unfold ofWire
  rw [entries_ofComments, entriesOf, ← List.filterMap_eq_map, List.filterMap_filter,
    List.filterMap_filterMap]
  refine List.filterMap_congr fun w _ => ?_
  unfold line?
  cases Comment.decode w with
  | error e => rfl
  | ok c => simp [Except.toOption]

theorem ofWire_append_singleton (wires : List String) (wire : String) :
    ofWire (wires ++ [wire]) = (ofWire wires).receive wire := by
  refine ext_entries fun kind => ?_
  rw [entries_receive, entries_ofWire, entries_ofWire, List.filterMap_append]
  cases hline : line? kind wire with
  | none => simp [hline]
  | some e => simp [hline]

/-- A popup is made by taking in the wire strings one after the other. -/
theorem ofWire_eq_foldl (wires : List String) : ofWire wires = wires.foldl receive {} := by
  induction wires using List.reverseRecOn with
  | nil => rfl
  | append_singleton wires wire ih => rw [ofWire_append_singleton, List.foldl_concat, ih]

/-- What is no comment leaves no trace. -/
theorem ofWire_filter_isComment (wires : List String) :
    ofWire (wires.filter isComment) = ofWire wires := by
  unfold ofWire
  rw [List.filterMap_filter]
  congr 1
  refine List.filterMap_congr fun w _ => ?_
  unfold isComment
  cases (Comment.decode w).toOption with
  | none => rfl
  | some c => rfl

-- ======================================================= stable order

/-- Whether a comment may stand before another, by their kinds. -/
def listedBefore (a b : Comment) : Bool :=
  Kind.all.idxOf a.kind ≤ Kind.all.idxOf b.kind

theorem listedBefore_trans (a b c : Comment) (hab : listedBefore a b) (hbc : listedBefore b c) :
    listedBefore a c := by
  unfold listedBefore at *
  rw [decide_eq_true_iff] at *
  exact hab.trans hbc

theorem listedBefore_total (a b : Comment) : listedBefore a b || listedBefore b a := by
  unfold listedBefore
  rw [Bool.or_eq_true, decide_eq_true_iff, decide_eq_true_iff]
  exact Nat.le_total _ _

/-- Sorting moves no comment past another of its kind. -/
theorem filter_mergeSort (comments : List Comment) (kind : Kind) :
    (comments.mergeSort listedBefore).filter (·.kind = kind)
      = comments.filter (·.kind = kind) := by
  have hordered : (comments.filter (·.kind = kind)).Pairwise fun a b => listedBefore a b := by
    refine List.pairwise_of_forall_mem_list fun a ha b hb => ?_
    have ha := (List.mem_filter.1 ha).2
    have hb := (List.mem_filter.1 hb).2
    rw [decide_eq_true_iff] at ha hb
    simp [listedBefore, ha, hb]
  have hsub : (comments.filter (·.kind = kind)).Sublist (comments.mergeSort listedBefore) :=
    List.sublist_mergeSort listedBefore_trans listedBefore_total hordered List.filter_sublist
  have hsub := hsub.filter (·.kind = kind)
  simp only [List.filter_filter, Bool.and_self] at hsub
  refine (hsub.eq_of_length ?_).symm
  exact ((List.mergeSort_perm comments listedBefore).filter _).length_eq.symm

/-- Behind a comment nothing stands of the kinds before its own. -/
theorem filter_eq_nil_of_listedBefore {c : Comment} {comments : List Comment}
    (h : ∀ d ∈ comments, listedBefore c d) {kind : Kind}
    (hkind : Kind.all.idxOf kind < Kind.all.idxOf c.kind) :
    comments.filter (·.kind = kind) = [] := by
  refine List.filter_eq_nil_iff.2 fun d hd => ?_
  have hle : Kind.all.idxOf c.kind ≤ Kind.all.idxOf d.kind := of_decide_eq_true (h d hd)
  rw [decide_eq_true_iff]
  rintro rfl
  exact absurd hle (Nat.not_le_of_lt hkind)

/-- Comments in the order of kinds are those of each kind, one kind after the
other. -/
theorem flatMap_filter_of_ordered {comments : List Comment}
    (h : comments.Pairwise fun a b => listedBefore a b) :
    (Kind.all.flatMap fun kind => comments.filter (·.kind = kind)) = comments := by
  simp only [Kind.all, List.flatMap_cons, List.flatMap_nil, List.append_nil]
  induction comments with
  | nil => rfl
  | cons c more ih =>
      obtain ⟨hfirst, hmore⟩ := List.pairwise_cons.1 h
      have hearlier : ∀ kind, Kind.all.idxOf kind < Kind.all.idxOf c.kind →
          more.filter (·.kind = kind) = [] :=
        fun _ => filter_eq_nil_of_listedBefore hfirst
      have ih := ih hmore
      -- the groups before that of `c` are empty, so `c` comes first
      cases hkind : c.kind with
      | html => simp [hkind, ih]
      | css =>
          have hhtml := hearlier .html (by rw [hkind]; decide)
          rw [hhtml] at ih
          simpa [List.filter_cons, hkind, hhtml] using ih
      | js =>
          have hhtml := hearlier .html (by rw [hkind]; decide)
          have hcss := hearlier .css (by rw [hkind]; decide)
          rw [hhtml, hcss] at ih
          simpa [List.filter_cons, hkind, hhtml, hcss] using ih

/-- Read off again, the comments of a popup are in stable order. -/
theorem comments_ofComments_eq_mergeSort (comments : List Comment) :
    (ofComments comments).comments = comments.mergeSort listedBefore := by
  have hordered : (comments.mergeSort listedBefore).Pairwise fun a b => listedBefore a b :=
    List.pairwise_mergeSort listedBefore_trans listedBefore_total comments
  calc (ofComments comments).comments
      = Kind.all.flatMap fun kind => comments.filter (·.kind = kind) :=
        comments_ofComments comments
    _ = Kind.all.flatMap fun kind =>
          (comments.mergeSort listedBefore).filter (·.kind = kind) := by
        simp only [filter_mergeSort]
    _ = comments.mergeSort listedBefore := flatMap_filter_of_ordered hordered

-- =============================================================== main

/-- A popup partitions the wire strings that are comments: each group has
those of its kind, line by line in the order in which they came, and what is no
comment changes nothing. The report on a scan and the answer of the server list
the same comments, which are all that came, sorted by kind and otherwise in
their order, and both tell their number. -/
theorem ofWire_stable_partition (wires : List String) (page : String) (badge : Badge) :
    let popup := ofWire wires
    let sorted :=
      (wires.filterMap fun w => (Comment.decode w).toOption).mergeSort listedBefore
    let report := Report.ScanReport.toJson ⟨page, badge, popup⟩
    let answer := Server.commentsResult badge popup
    let listed := Json.array (sorted.map Report.ScanReport.commentJson)
    (∀ kind, popup.entries kind = wires.filterMap (line? kind))
      ∧ popup = wires.foldl receive {}
      ∧ ofWire (wires.filter isComment) = popup
      ∧ popup.total = wires.countP isComment
      ∧ report.member? "comments" = some listed ∧ answer.member? "comments" = some listed
      ∧ report.member? "totalCount" = some (.natural sorted.length)
      ∧ answer.member? "totalCount" = some (.natural sorted.length) := by
  intro popup sorted report answer listed
  have hcomments : popup.comments = sorted := comments_ofComments_eq_mergeSort _
  have htotal : popup.total = sorted.length := by
    rw [total_eq_length_comments, hcomments]
  have hcount : sorted.length = wires.countP isComment := by
    rw [List.length_mergeSort, List.length_filterMap_eq_countP]
    rfl
  have hlisted : Json.array (popup.comments.map Report.ScanReport.commentJson) = listed := by
    rw [hcomments]
  have hnumber : Json.natural popup.total = .natural sorted.length := by
    rw [htotal]
  exact ⟨entries_ofWire wires, ofWire_eq_foldl wires, ofWire_filter_isComment wires,
    htotal.trans hcount, congrArg some hlisted, congrArg some hlisted, congrArg some hnumber,
    congrArg some hnumber⟩

end Marginalia.Popup
