/-
Absolute paths as text. The path of a place is written without anything idle in
it, so working on it as text is working on the place: a name joined to it gives
the path of what has the name there (`join_pathText`), and one component up is
the directory that the place is in (`parent?_pathText`). Climbing from a place
takes its last components away one by one (`getElem?_ancestors_pathText`),
whether or not there is a tree in which something stands there.

What the path of something in a directory leads to is told by its name alone
(`target_pathText_eq_ok_iff`), as no step to the directory goes up and none is a
link.
-/
import Marginalia.Proofs.FileTree.Ancestors
import Marginalia.Proofs.FileTree.Places

namespace Marginalia

namespace PathText

/-- Where nothing idle stands at the end of a path, nothing is dropped. -/
theorem dropIdle_of_settled {s : List Char} (h : Settled s) : dropIdle s = s := by
  fun_induction dropIdle s with
  | case1 => rfl
  | case2 r hr _ =>
      obtain hroot | ⟨hhead, -⟩ := h
      · exact absurd (List.cons.inj hroot).2 hr
      · exact absurd rfl hhead
  | case3 =>
      obtain hroot | ⟨-, hdot⟩ := h
      · cases hroot
      · exact absurd List.prefix_rfl hdot
  | case4 r _ _ =>
      obtain hroot | ⟨-, hdot⟩ := h
      · cases hroot
      · exact absurd ⟨r, rfl⟩ hdot
  | case5 => rfl

theorem dropIdle_slash {s : List Char} (hne : s ≠ []) : dropIdle ('/' :: s) = dropIdle s := by
  cases s with
  | nil => exact absurd rfl hne
  | cons c r => rfl

/-- Nothing idle stands behind a name. -/
theorem settled_append {last : List Char} (hempty : last ≠ []) (hdot : last ≠ ['.'])
    (hslash : '/' ∉ last) (above : List Char) : Settled (last ++ '/' :: above) := by
  cases last with
  | nil => exact absurd rfl hempty
  | cons a r =>
      refine .inr ⟨?_, ?_⟩
      · intro h
        exact hslash (Option.some.inj h ▸ List.mem_cons_self)
      · intro h
        obtain ⟨ha, h⟩ := List.cons_prefix_cons.1 h
        cases r with
        | nil => exact hdot (ha ▸ rfl)
        | cons b r =>
            obtain ⟨hb, -⟩ := List.cons_prefix_cons.1 h
            exact hslash (hb ▸ List.mem_cons_of_mem a List.mem_cons_self)

end PathText

namespace FileTree

open PathText (Settled dropIdle parent? ancestors)

variable {t : FileTree} {creating : Bool} {links : Nat} {place current below : List String}
  {c name : String} {target : Target}

-- ========================================================= the text

/-- What stands in front of a name in the path of what has it. -/
theorem toList_pathText_concat (place : List String) (c : String) :
    (pathText (place ++ [c])).toList
      = (place.flatMap fun c => '/' :: c.toList) ++ '/' :: c.toList := by
  have hne : place ++ [c] ≠ [] := List.append_ne_nil_of_right_ne_nil _ (List.cons_ne_nil _ _)
  rw [toList_pathText hne, List.flatMap_append, List.flatMap_singleton]

/-- The same back to front, with the name first. -/
theorem reverse_pathText_concat (place : List String) (c : String) :
    (pathText (place ++ [c])).toList.reverse
      = c.toList.reverse ++ '/' :: (place.flatMap fun c => '/' :: c.toList).reverse := by
  rw [toList_pathText_concat, List.reverse_append, List.reverse_cons, List.append_assoc]
  rfl

/-- The path of what has a name does not end in a slash. -/
theorem exists_reverse_pathText_concat (hc : IsName c) (place : List String) :
    ∃ a r, a ≠ '/' ∧ (pathText (place ++ [c])).toList.reverse = a :: r := by
  rw [reverse_pathText_concat]
  cases hlast : c.toList.reverse with
  | nil => exact absurd (String.toList_eq_nil_iff.1 (List.reverse_eq_nil_iff.1 hlast)) hc.ne_empty
  | cons a r =>
      refine ⟨a, _, ?_, List.cons_append⟩
      rintro rfl
      have hslash : '/' ∈ c.toList.reverse := hlast ▸ List.mem_cons_self
      exact hc.no_slash (List.mem_reverse.1 hslash)

theorem settled_pathText_concat (hc : IsName c) (place : List String) :
    Settled (pathText (place ++ [c])).toList.reverse := by
  have hslash : '/' ∉ c.toList.reverse := by
    rw [List.mem_reverse]
    exact hc.no_slash
  have hempty : c.toList.reverse ≠ [] := by
    intro h
    exact hc.ne_empty (String.toList_eq_nil_iff.1 (List.reverse_eq_nil_iff.1 h))
  have hdot : c.toList.reverse ≠ ['.'] := by
    intro h
    apply hc.ne_dot
    rw [← String.ofList_toList (s := c), List.reverse_eq_iff.1 h]
    rfl
  rw [reverse_pathText_concat]
  exact PathText.settled_append hempty hdot hslash _

theorem settled_pathText (h : ∀ c ∈ place, IsName c) :
    Settled (pathText place).toList.reverse := by
  rcases List.eq_nil_or_concat place with rfl | ⟨above, c, rfl⟩
  · exact .inl rfl
  · rw [List.concat_eq_append] at h ⊢
    exact settled_pathText_concat (h c (by simp)) above

/-- A name joined to the path of a place. -/
theorem join_pathText (h : ∀ c ∈ place, IsName c) (hname : '/' ∉ name.toList) :
    PathText.join (pathText place) name = pathText (place ++ [name]) := by
  have hfirst : Text.beginsWith ['/'] name.toList = false := by
    rw [Text.beginsWith, Option.isSome_eq_false_iff, Option.isNone_iff_eq_none,
      Text.dropHead?_eq_none_iff]
    intro hbegin
    exact hname (hbegin.subset (List.mem_singleton_self '/'))
  have hnonempty : pathText place ≠ "" := by
    intro hempty
    obtain ⟨r, htext⟩ := exists_toList_pathText place
    rw [hempty] at htext
    cases htext
  apply String.toList_injective
  rw [PathText.join, hfirst, Bool.false_or, if_neg (by simpa using hnonempty),
    toList_pathText_concat]
  rcases List.eq_nil_or_concat place with rfl | ⟨above, c, rfl⟩
  · simp [pathText, Text.dropTail?, Text.dropHead?]
  · rw [List.concat_eq_append] at h ⊢
    obtain ⟨a, r, ha, hback⟩ := exists_reverse_pathText_concat (h c (by simp)) above
    have hlast : Text.dropTail? ['/'] (pathText (above ++ [c])).toList = none := by
      rw [Text.dropTail?, Option.map_eq_none_iff, Text.dropHead?_eq_none_iff, hback]
      intro hbegin
      exact ha (List.cons_prefix_cons.1 hbegin).1.symm
    rw [hlast]
    simp [toList_pathText_concat]

/-- One up from a place is the directory it is in. -/
theorem parent?_pathText (h : ∀ c ∈ place, IsName c) (hc : IsName c) :
    parent? (pathText (place ++ [c])) = some (pathText place) := by
  have htail := PathText.dropIdle_of_settled (settled_pathText_concat hc place)
  have hstay : ¬ ((pathText (place ++ [c])).toList.reverse = ['/']
      ∨ (pathText (place ++ [c])).toList.reverse = []) := by
    obtain ⟨a, r, ha, hback⟩ := exists_reverse_pathText_concat hc place
    simp [hback, ha]
  have hslash : '/' ∉ c.toList.reverse := by
    rw [List.mem_reverse]
    exact hc.no_slash
  have habove : dropIdle ('/' :: (place.flatMap fun c => '/' :: c.toList).reverse)
      = (pathText place).toList.reverse := by
    by_cases hne : place = []
    · rw [hne]
      rfl
    · obtain ⟨r, htext⟩ := exists_toList_pathText place
      have hback : (pathText place).toList.reverse ≠ [] := by
        simp [htext]
      rw [← toList_pathText hne, PathText.dropIdle_slash hback,
        PathText.dropIdle_of_settled (settled_pathText h)]
  rw [PathText.parent?_eq, htail]
  dsimp only
  rw [if_neg hstay, reverse_pathText_concat, PathText.dropWhile_slash hslash (by simp), habove,
    List.reverse_reverse, String.ofList_toList]

/-- Above a place are the places with fewer components. -/
theorem getElem?_ancestors_pathText (h : ∀ c ∈ place, IsName c) {i : Nat}
    (hi : i ≤ place.length) :
    (ancestors (pathText place))[i]? = some (pathText (place.take (place.length - i))) := by
  induction i with
  | zero => rw [PathText.getElem?_ancestors_zero, Nat.sub_zero, List.take_length]
  | succ i ih =>
      have hlt : place.length - (i + 1) < place.length := by omega
      have htake : place.take (place.length - i)
          = place.take (place.length - (i + 1)) ++ [place[place.length - (i + 1)]] := by
        rw [← List.take_succ_eq_append_getElem hlt]
        congr 1
        omega
      rw [PathText.getElem?_ancestors_succ (ih (by omega)), htake]
      exact parent?_pathText (fun c hc => h c (List.mem_of_mem_take hc)) (h _ (List.getElem_mem hlt))

/-- The first of them are the places on the way up to one of them. -/
theorem getElem?_ancestors_append (h : ∀ c ∈ place ++ below, IsName c) {i : Nat}
    (hi : i ≤ below.length) :
    (ancestors (pathText (place ++ below)))[i]?
      = some (pathText (place ++ below.take (below.length - i))) := by
  have hlength : (place ++ below).length = place.length + below.length := List.length_append
  rw [getElem?_ancestors_pathText h (by omega), hlength, Nat.add_sub_assoc hi,
    List.take_length_add_append]

-- ======================================================= what exists

/-- What the name of something in a directory leads to. -/
theorem leads_name_iff (hname : IsName name) :
    Leads t creating links place [name] target
      ↔ t.entry? place = some .directory ∧ t.refusal? place .search = none
        ∧ (t.arrival (place ++ [name]) = .missing ∧ target = .missing place name
          ∨ t.arrival (place ++ [name]) = .to (place ++ [name])
            ∧ target = .place (place ++ [name])
          ∨ ∃ path less, t.arrival (place ++ [name]) = .link path ∧ links = less + 1
            ∧ Leads t creating less (origin place path.text) (components path.text) target) := by
  have hslash : (creating && isSlashed []) = false := Bool.and_false creating
  have hnamed : IsNamed false name :=
    ⟨⟨hname.ne_empty, hname.ne_dot, hname.ne_dots⟩, rfl, hname.not_long⟩
  have hstep : ∀ {s}, t.step false place name = .ok s ↔ t.entry? place = some .directory
      ∧ t.refusal? place .search = none ∧ t.arrival (place ++ [name]) = s := by
    intro s
    rw [step_eq_ok_iff, obstacle?_eq_none_iff, eq_comm (a := t.arrival (place ++ [name]))]
    simp only [hname.ne_empty, hname.ne_dot, hname.ne_dots, hnamed, or_self, false_and, true_and,
      false_or, ne_eq, not_false_eq_true, forall_const, and_assoc]
  constructor
  · intro hway
    cases hway with
    | step hs hmore =>
        rw [hslash, hstep] at hs
        obtain ⟨hdirectory, hsearch, harrival⟩ := hs
        obtain rfl := eq_of_arrival harrival
        cases hmore
        exact ⟨hdirectory, hsearch, .inr (.inl ⟨harrival, rfl⟩)⟩
    | link hs hmore =>
        rw [hslash, hstep] at hs
        rw [List.append_nil] at hmore
        exact ⟨hs.1, hs.2.1, .inr (.inr ⟨_, _, hs.2.2, rfl, hmore⟩)⟩
    | missing _ hs =>
        rw [hstep] at hs
        exact ⟨hs.1, hs.2.1, .inl ⟨hs.2.2, rfl⟩⟩
  · intro ⟨hdirectory, hsearch, hcases⟩
    rcases hcases with ⟨harrival, rfl⟩ | ⟨harrival, rfl⟩ | ⟨path, less, harrival, rfl, hmore⟩
    · exact .missing links (hstep.2 ⟨hdirectory, hsearch, harrival⟩)
    · refine .step ?_ (.here links _)
      rw [hslash, hstep]
      exact ⟨hdirectory, hsearch, harrival⟩
    · refine .link ?_ (by rwa [List.append_nil])
      rw [hslash, hstep]
      exact ⟨hdirectory, hsearch, harrival⟩

/-- What the absolute path of something in a directory leads to. -/
theorem target_pathText_eq_ok_iff (h : t.IsPlace place) (hname : IsName name) :
    t.target creating current (pathText (place ++ [name])) = .ok target
      ↔ (pathText (place ++ [name])).utf8ByteSize ≤ maxPathBytes ∧ t.IsReachable place
        ∧ Leads t creating maxLinks place [name] target := by
  rw [target_pathText (h.forall_isName_append hname) (by simp)]
  split
  next hlong => exact iff_of_false nofun fun h => absurd h.1 (Nat.not_le.2 hlong)
  next hlong =>
    rw [walk_eq_ok_iff, leads_root_iff h (isSlashed_cons hname.ne_empty),
      and_iff_right (Nat.not_lt.1 hlong)]

theorem pathExists_eq_true_iff {path : String} :
    t.pathExists current path = true ↔ ∃ place, t.resolve current path = .ok place := by
  unfold pathExists
  cases t.resolve current path with
  | error e => exact iff_of_false nofun nofun
  | ok place => exact iff_of_true rfl ⟨place, rfl⟩

/-- Where nothing has a name, nothing is found by its path. -/
theorem pathExists_pathText_eq_false (h : t.IsPlace place) (hname : IsName name)
    (hentry : t.entry? (place ++ [name]) = none) (current : List String) :
    t.pathExists current (pathText (place ++ [name])) = false := by
  have harrival := arrival_eq_missing_iff.2 hentry
  rw [← Bool.not_eq_true, pathExists_eq_true_iff]
  rintro ⟨final, hfinal⟩
  rw [resolve_eq_ok_iff, target_pathText_eq_ok_iff h hname, leads_name_iff hname,
    harrival] at hfinal
  obtain ⟨-, -, -, -, ⟨-, h⟩ | ⟨h, -⟩ | ⟨path, less, h, -⟩⟩ := hfinal
  · cases h
  · cases h
  · cases h

theorem pathExists_join_eq_false (h : t.IsPlace place) (hname : IsName name)
    (hentry : t.entry? (place ++ [name]) = none) (current : List String) :
    t.pathExists current (PathText.join (pathText place) name) = false := by
  rw [join_pathText h.isName hname.no_slash]
  exact pathExists_pathText_eq_false h hname hentry current

end FileTree

end Marginalia
