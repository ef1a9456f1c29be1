/-
The paths above a path, as they are written. A path is cut back as text: its
last component goes, and with it the slashes and dots around it that say
nothing. What that means is told by the components that count (`parts`): the
path one up has all of them but the last (`parts_of_parent?`), and there is none
where nothing but a root is left (`parent?_eq_none_iff`). A component ".." is
one like any other, since no tree is looked at.

Every path is shorter than the one before, so climbing comes to an end, and the
list of all of them is not cut short by the bound it is computed with
(`getElem?_ancestors_succ`).
-/
import Mathlib.Data.List.Infix
import Marginalia.FileTree.PathText
import Marginalia.Proofs.Text.Occurrence

namespace Marginalia.PathText

open Text

-- ============================================================ parts

/-- Whether what stands between two slashes counts as a component wherever it
stands. -/
def isName (piece : List Char) : Bool :=
  piece != [] && piece != ['.']

/-- The names in a path. -/
def names (path : List Char) : List (List Char) :=
  (splitOnChar '/' path).filter isName

/-- What a path begins with: the slash of the root, or a dot of its own. -/
def lead (path : List Char) : List (List Char) :=
  if path.head? = some '/' then [['/']]
  else if (splitOnChar '/' path).head? = some ['.'] then [['.']]
  else []

/-- The components of a path that count. -/
def parts (path : List Char) : List (List Char) :=
  lead path ++ names path

theorem names_append_cons (s t : List Char) : names (s ++ '/' :: t) = names s ++ names t := by
  rw [names, splitOnChar_append_cons, List.filter_append]
  rfl

theorem lead_append_cons {s : List Char} (hs : s ≠ []) (t : List Char) :
    lead (s ++ '/' :: t) = lead s := by
  have hhead : (s ++ '/' :: t).head? = s.head? := List.head?_append_of_ne_nil s hs
  have hfirst : (splitOnChar '/' s ++ splitOnChar '/' t).head? = (splitOnChar '/' s).head? := by
    refine List.head?_append_of_ne_nil _ ?_
    rw [splitOnChar_eq_splitOn]
    exact List.splitOn_ne_nil _ _
  rw [lead, splitOnChar_append_cons, hhead, hfirst]
  rfl

theorem parts_append_cons {s : List Char} (hs : s ≠ []) (t : List Char) :
    parts (s ++ '/' :: t) = parts s ++ names t := by
  rw [parts, parts, lead_append_cons hs, names_append_cons, List.append_assoc]

theorem parts_append_slash {s : List Char} (hs : s ≠ []) : parts (s ++ ['/']) = parts s := by
  rw [parts_append_cons hs]
  exact List.append_nil _

/-- What stands behind a slash adds its names. -/
theorem parts_slash_append (s t : List Char) :
    parts (s ++ '/' :: t) = parts (s ++ ['/']) ++ names t := by
  cases s with
  | nil => rfl
  | cons c s =>
      have hs := List.cons_ne_nil c s
      rw [parts_append_cons hs, parts_append_slash hs]

theorem names_of_notMem {t : List Char} (h : '/' ∉ t) : names t = [t].filter isName := by
  rw [names, splitOnChar_of_notMem h]

theorem isName_iff {t : List Char} : isName t = true ↔ t ≠ [] ∧ t ≠ ['.'] := by
  simp [isName]

/-- A component that stands alone counts, be it a dot. -/
theorem parts_of_notMem {t : List Char} (h : '/' ∉ t) (hne : t ≠ []) : parts t = [t] := by
  have hhead : t.head? ≠ some '/' := fun hslash => h (List.mem_of_mem_head? hslash)
  rw [parts, lead, if_neg hhead, splitOnChar_of_notMem h, names_of_notMem h]
  by_cases hdot : t = ['.']
  · subst hdot
    rfl
  · have hname : isName t = true := isName_iff.2 ⟨hne, hdot⟩
    simp [hdot, hname]

-- ================================================ slashes and dots

/-- Whether nothing idle stands at the end of a path, written back to
front. -/
def Settled (s : List Char) : Prop :=
  s = ['/'] ∨ s.head? ≠ some '/' ∧ ¬ ['.', '/'] <+: s

theorem dropIdle_suffix (s : List Char) : dropIdle s <:+ s := by
  fun_induction dropIdle s with
  | case1 => exact List.suffix_rfl
  | case2 r _ ih => exact ih.trans (List.suffix_cons '/' r)
  | case3 => exact List.suffix_cons '.' ['/']
  | case4 r _ ih => exact ih.trans (List.suffix_cons '.' ('/' :: r))
  | case5 => exact List.suffix_rfl

theorem settled_dropIdle (s : List Char) : Settled (dropIdle s) := by
  fun_induction dropIdle s with
  | case1 => exact .inl rfl
  | case2 r _ ih => exact ih
  | case3 => exact .inl rfl
  | case4 r _ ih => exact ih
  | case5 r hroot hslash hdotRoot hdot =>
      refine .inr ⟨fun h => ?_, fun h => ?_⟩
      · obtain ⟨r, rfl⟩ := List.head?_eq_some_iff.1 h
        exact hslash r rfl
      · obtain ⟨r, rfl⟩ := h
        exact hdot r rfl

theorem parts_dropIdle (s : List Char) : parts (dropIdle s).reverse = parts s.reverse := by
  fun_induction dropIdle s with
  | case1 => rfl
  | case2 r hr ih =>
      have hne : r.reverse ≠ [] := by
        rw [Ne, List.reverse_eq_nil_iff]
        exact hr
      rw [ih, List.reverse_cons, parts_append_slash hne]
  | case3 => rfl
  | case4 r _ ih =>
      have hdot : parts (r.reverse ++ ['/', '.']) = parts (r.reverse ++ ['/']) :=
        (parts_slash_append r.reverse ['.']).trans (List.append_nil _)
      rw [ih, List.reverse_cons, List.reverse_cons, List.reverse_cons, List.append_assoc]
      exact hdot.symm
  | case5 => rfl

theorem dropWhile_slash {last above : List Char} (hlast : '/' ∉ last)
    (habove : ∀ c ∈ above.head?, c = '/') :
    (last ++ above).dropWhile (· != '/') = above := by
  have hall : ∀ c ∈ last, (c != '/') = true := fun c hc => bne_iff_ne.2 fun h => hlast (h ▸ hc)
  rw [List.dropWhile_append_of_pos hall]
  cases above with
  | nil => rfl
  | cons c r =>
      obtain rfl := habove c rfl
      exact List.dropWhile_cons_of_neg (by simp)

/-- Where nothing idle is left, the last component stands at the end. -/
theorem exists_last {s : List Char} (h : Settled s) (hne : s ≠ []) (hroot : s ≠ ['/']) :
    ∃ last, last ≠ [] ∧ '/' ∉ last ∧ s = last.reverse ++ s.dropWhile (· != '/')
      ∧ parts s.reverse = parts (s.dropWhile (· != '/')).reverse ++ [last] := by
  obtain ⟨hhead, hdot⟩ := h.resolve_left hroot
  obtain ⟨last, above, rfl, hslash, habove⟩ := exists_cut_first '/' s
  rw [dropWhile_slash hslash habove]
  have hslash' : '/' ∉ last.reverse := by rwa [List.mem_reverse]
  have hlast : last.reverse ≠ [] := by
    rw [Ne, List.reverse_eq_nil_iff]
    rintro rfl
    cases above with
    | nil => exact hne rfl
    | cons c r => exact hhead (congrArg some (habove c rfl))
  refine ⟨last.reverse, hlast, hslash', by rw [List.reverse_reverse], ?_⟩
  rw [List.reverse_append]
  cases above with
  | nil => exact parts_of_notMem hslash' hlast
  | cons c r =>
      obtain rfl := habove c rfl
      have hname : isName last.reverse = true := by
        refine isName_iff.2 ⟨hlast, fun hl => hdot ?_⟩
        rw [List.reverse_eq_iff] at hl
        rw [hl]
        exact ⟨r, rfl⟩
      rw [List.reverse_cons, List.append_assoc, List.singleton_append, parts_slash_append,
        names_of_notMem hslash', List.filter_cons_of_pos hname, List.filter_nil]

-- ============================================================== parent

theorem parent?_eq (path : String) :
    parent? path =
      (let tail := dropIdle path.toList.reverse
      if tail = ['/'] ∨ tail = [] then none
      else some (String.ofList (dropIdle (tail.dropWhile (· != '/'))).reverse)) := rfl

variable {path up : String}

theorem parts_toList (path : String) :
    parts (dropIdle path.toList.reverse).reverse = parts path.toList := by
  rw [parts_dropIdle, List.reverse_reverse]

/-- There is nothing above a root and above an empty path. -/
theorem parent?_eq_none_iff :
    parent? path = none ↔ parts path.toList = [] ∨ parts path.toList = [['/']] := by
  rw [parent?_eq, ← parts_toList]
  have hsettled := settled_dropIdle path.toList.reverse
  generalize dropIdle path.toList.reverse = tail at *
  dsimp only
  by_cases hend : tail = ['/'] ∨ tail = []
  · rw [if_pos hend]
    refine iff_of_true rfl ?_
    rcases hend with rfl | rfl
    · exact .inr rfl
    · exact .inl rfl
  · rw [if_neg hend]
    rw [not_or] at hend
    obtain ⟨last, -, hslash, -, hparts⟩ := exists_last hsettled hend.2 hend.1
    refine iff_of_false nofun ?_
    rw [hparts]
    rintro (h | h)
    · exact List.append_ne_nil_of_right_ne_nil _ (List.cons_ne_nil _ _) h
    · have hlast : [last] = [['/']] := (List.append_inj' (h.trans (List.nil_append _).symm) rfl).2
      rw [List.cons.injEq] at hlast
      exact hslash (hlast.1 ▸ List.mem_singleton_self '/')

/-- One up, the last component is gone. -/
theorem parts_of_parent? (h : parent? path = some up) :
    parts up.toList = (parts path.toList).dropLast := by
  rw [parent?_eq] at h
  dsimp only at h
  split at h
  · cases h
  next hend =>
    rw [not_or] at hend
    obtain ⟨last, -, -, -, hparts⟩ := exists_last (settled_dropIdle _) hend.2 hend.1
    rw [← Option.some.inj h, String.toList_ofList, parts_dropIdle, ← parts_toList path, hparts,
      List.dropLast_concat]

/-- A path one up is a beginning of the path, and shorter. -/
theorem prefix_of_parent? (h : parent? path = some up) :
    up.toList <+: path.toList ∧ up.length < path.length := by
  rw [parent?_eq] at h
  dsimp only at h
  split at h
  · cases h
  next hend =>
    rw [not_or] at hend
    have hsettled := settled_dropIdle path.toList.reverse
    obtain ⟨last, hlast, -, hcut, -⟩ := exists_last hsettled hend.2 hend.1
    have hsuffix := dropIdle_suffix path.toList.reverse
    generalize dropIdle path.toList.reverse = tail at *
    have habove := dropIdle_suffix (tail.dropWhile (· != '/'))
    have hlength := congrArg List.length hcut
    rw [List.length_append, List.length_reverse] at hlength
    have hpos := List.length_pos_iff.2 hlast
    have hle := hsuffix.length_le
    have hle' := habove.length_le
    rw [List.length_reverse, String.length_toList] at hle
    rw [← Option.some.inj h, String.toList_ofList, String.length_ofList, List.length_reverse]
    refine ⟨?_, by omega⟩
    rw [← List.reverse_suffix, List.reverse_reverse]
    exact (habove.trans (List.dropWhile_suffix _)).trans hsuffix

-- =========================================================== ancestors

theorem getElem?_ancestorsFrom_zero (fuel : Nat) (path : String) :
    (ancestorsFrom fuel path)[0]? = some path := by
  cases fuel with
  | zero => rfl
  | succ fuel =>
      rw [ancestorsFrom]
      cases parent? path with
      | none => rfl
      | some up => rfl

/-- Enough steps are made: the list ends where there is nothing above. -/
theorem getElem?_ancestorsFrom_succ {fuel : Nat} (hfuel : path.length ≤ fuel) {i : Nat}
    {dir : String} (h : (ancestorsFrom fuel path)[i]? = some dir) :
    (ancestorsFrom fuel path)[i + 1]? = parent? dir := by
  induction fuel generalizing path i with
  | zero =>
      obtain rfl : path = "" := String.length_eq_zero_iff.1 (Nat.le_zero.1 hfuel)
      cases i with
      | zero =>
          obtain rfl := Option.some.inj h
          rfl
      | succ i => cases h
  | succ fuel ih =>
      rw [ancestorsFrom] at h ⊢
      cases hup : parent? path with
      | none =>
          rw [hup] at h
          cases i with
          | zero =>
              obtain rfl := Option.some.inj h
              exact hup.symm
          | succ i => cases h
      | some up =>
          rw [hup] at h
          cases i with
          | zero =>
              obtain rfl := Option.some.inj h
              rw [hup]
              exact getElem?_ancestorsFrom_zero fuel up
          | succ i =>
              have hlength := (prefix_of_parent? hup).2
              exact ih (by omega) h

theorem getElem?_ancestors_zero (path : String) : (ancestors path)[0]? = some path :=
  getElem?_ancestorsFrom_zero path.length path

/-- Behind every path in the list stands the one above it, if there is one. -/
theorem getElem?_ancestors_succ {i : Nat} {dir : String} (h : (ancestors path)[i]? = some dir) :
    (ancestors path)[i + 1]? = parent? dir :=
  getElem?_ancestorsFrom_succ (Nat.le_refl _) h

/-- Climbing comes to an end at a root or an empty path. -/
theorem exists_getLast?_ancestors (path : String) :
    ∃ last, (ancestors path).getLast? = some last
      ∧ (parts last.toList = [] ∨ parts last.toList = [['/']]) := by
  have hfirst := (List.getElem?_eq_some_iff.1 (getElem?_ancestors_zero path)).1
  have hlast := List.getElem?_eq_getElem (Nat.sub_one_lt_of_lt hfirst)
  refine ⟨_, List.getLast?_eq_getElem?.trans hlast, parent?_eq_none_iff.1 ?_⟩
  rw [← getElem?_ancestors_succ hlast, List.getElem?_eq_none_iff]
  omega

/-- Each step up takes away one component. -/
theorem parts_of_getElem?_ancestors {i : Nat} {dir : String}
    (h : (ancestors path)[i]? = some dir) :
    parts dir.toList = (parts path.toList).take ((parts path.toList).length - i) := by
  induction i generalizing dir with
  | zero =>
      rw [getElem?_ancestors_zero] at h
      rw [← Option.some.inj h, Nat.sub_zero, List.take_length]
  | succ i ih =>
      have hlt : i < (ancestors path).length := by
        have := (List.getElem?_eq_some_iff.1 h).1
        omega
      have hbelow := List.getElem?_eq_getElem hlt
      rw [getElem?_ancestors_succ hbelow] at h
      rw [parts_of_parent? h, ih hbelow, List.dropLast_eq_take, List.take_take,
        List.length_take]
      congr 1
      omega

end Marginalia.PathText
