/-
Files that are made. A path leads to the name of nothing, perhaps through links,
and a file is made under that name: this is told by the tree before (`CanMake`) and
leaves everything but the file as it was (`makes_fill`). From then on the path leads
to the file (`CanMake.resolve`).

What can be made by the absolute path of a name in a directory is the file of that
name, if nothing has it (`canMake_iff_of_none`); where a link has the name, it is
what the link leads to; and where anything else has it, nothing can be made.
-/
import Marginalia.Proofs.FileTree.Absolute

namespace Marginalia.FileTree

variable {t t' : FileTree} {current dir made place : List String} {content : Content}
  {name path s : String}

-- ============================================================= writing

/-- What is looked up among what is kept. -/
theorem lookup_filter_fst {α β : Type} [BEq α] [LawfulBEq α] (keep : α → Bool) (a : α)
    (l : List (α × β)) :
    (l.filter fun p => keep p.1).lookup a = if keep a then l.lookup a else none := by
  induction l with
  | nil => simp
  | cons p l ih =>
      obtain ⟨key, value⟩ := p
      rw [List.filter_cons]
      by_cases ha : a = key
      · subst ha
        cases hkeep : keep a with
        | true => simp
        | false => simpa [hkeep] using ih
      · have hne : (a == key) = false := beq_eq_false_iff_ne.2 ha
        split
        · rw [List.lookup_cons, hne, List.lookup_cons, hne, ih]
        · rw [List.lookup_cons, hne, ih]

/-- Whether there is room for a text. -/
def HasRoom (t : FileTree) (s : String) : Prop :=
  ∀ n, t.room = some n → s.utf8ByteSize ≤ n

/-- A new file with something written into it, whatever room is left then. -/
theorem makes_create_write (hnew : t.entry? made = none) (content : Content)
    (room : Option Nat) :
    t.Makes made content { (t.create made).write made content with room } where
  isNew := hnew
  entry? place := by
    have hne : made ≠ [] := by
      rintro rfl
      cases hnew
    unfold entry? FileTree.write create
    dsimp only
    by_cases heq : place = made
    · subst heq
      rw [if_neg (by simpa using hne), if_pos rfl, List.lookup_cons_self]
    · have hother : (place == made) = false := beq_eq_false_iff_ne.2 heq
      rw [if_neg heq, List.lookup_cons, hother, List.lookup_cons, hother]
  refusal? place right := by
    have hkept := lookup_filter_fst (fun key => decide (key.1 ≠ made)) (place, right) t.refusals
    refine hkept.trans ?_
    by_cases heq : place = made
    · rw [if_neg (by simpa using heq), if_pos heq]
    · rw [if_pos (by simpa using heq), if_neg heq]
      rfl

/-- With room for it, a text is written into a new file. -/
theorem makes_fill (hnew : t.entry? made = none) (hroom : t.HasRoom s) :
    ∃ t', (t.create made).fill made s = (t', none) ∧ t.Makes made (.text s) t' := by
  have hsame : (t.create made).room = t.room := rfl
  unfold fill
  rw [hsame]
  cases hend : t.room with
  | none => exact ⟨_, rfl, makes_create_write hnew (.text s) _⟩
  | some n =>
      dsimp only
      rw [if_pos (hroom n hend)]
      exact ⟨_, rfl, makes_create_write hnew (.text s) _⟩

/-- Without, there is a new file all the same, with the beginning of the text. -/
theorem makes_fill_of_not_hasRoom (hnew : t.entry? made = none) (hroom : ¬ t.HasRoom s) :
    ∃ t' content, (t.create made).fill made s = (t', some .noSpace)
      ∧ t.Makes made content t' := by
  have hsame : (t.create made).room = t.room := rfl
  unfold fill
  rw [hsame]
  cases hend : t.room with
  | none =>
      refine absurd (fun n hn => ?_) hroom
      rw [hend] at hn
      cases hn
  | some n =>
      have hlong : ¬ s.utf8ByteSize ≤ n := by
        intro hle
        refine hroom fun m hm => ?_
        rw [hend] at hm
        rwa [← Option.some.inj hm]
      dsimp only
      rw [if_neg hlong]
      exact ⟨_, _, rfl, makes_create_write hnew _ _⟩

/-- Places stay places. -/
theorem IsPlace.of_makes (h : t.IsPlace place) (hmakes : t.Makes made content t') :
    t'.IsPlace place where
  isName := h.isName
  isDirectory above habove hne := hmakes.entry?_of_eq_some (h.isDirectory above habove hne)
  arrival := by
    rw [hmakes.arrival_of_ne_missing, h.arrival]
    rw [h.arrival]
    nofun

-- ============================================================ new files

/-- Whether a file can be made through a path: it leads to the name of nothing in a
directory that may be written to. -/
def CanMake (t : FileTree) (current : List String) (path : String) (made : List String) :
    Prop :=
  ∃ dir name, t.target true current path = .ok (.missing dir name)
    ∧ t.refusal? dir .write = none ∧ made = dir ++ [name]

/-- Nothing is there yet. -/
theorem CanMake.entry?_eq_none (hmake : t.CanMake current path made) (h : t.IsPlace current) :
    t.entry? made = none := by
  obtain ⟨dir, name, htarget, -, rfl⟩ := hmake
  exact (isSound_of_target h htarget).2.2

/-- Nor does the path lead anywhere. -/
theorem CanMake.pathExists_eq_false (hmake : t.CanMake current path made) :
    t.pathExists current path = false := by
  obtain ⟨dir, name, htarget, -, rfl⟩ := hmake
  rw [← Bool.not_eq_true, pathExists_eq_true_iff]
  rintro ⟨place, hplace⟩
  have hmissing := (target_eq_ok_iff.1 htarget).2.of_creating
  have hway := (target_eq_ok_iff.1 (resolve_eq_ok_iff.1 hplace)).2
  cases hmissing.unique hway

theorem CanMake.writeFile (hmake : t.CanMake current path made) (s : String) :
    t.writeFile current path s = (t.create made).fill made s := by
  obtain ⟨dir, name, htarget, hright, rfl⟩ := hmake
  rw [FileTree.writeFile, htarget]
  dsimp only
  rw [hright]

/-- Where the path leads nowhere and nothing can be made, writing fails. -/
theorem exists_writeFile_eq (hexists : t.pathExists current path = false)
    (hmake : ∀ made, ¬ t.CanMake current path made) (s : String) :
    ∃ e, t.writeFile current path s = (t, some e) := by
  unfold writeFile
  cases htarget : t.target true current path with
  | error e => exact ⟨e, rfl⟩
  | ok target =>
      cases target with
      | missing dir name =>
          dsimp only
          cases hright : t.refusal? dir .write with
          | some reason => exact ⟨.refused reason, rfl⟩
          | none => exact absurd ⟨dir, name, htarget, hright, rfl⟩ (hmake (dir ++ [name]))
      | place place =>
          obtain ⟨hpath, hway⟩ := target_eq_ok_iff.1 htarget
          have hresolve : t.resolve current path = .ok place :=
            resolve_eq_ok_iff.2 (target_eq_ok_iff.2 ⟨hpath, hway.of_creating⟩)
          rw [pathExists_eq_true_iff.2 ⟨place, hresolve⟩] at hexists
          cases hexists

/-- The path leads to the file when it is made. -/
theorem CanMake.resolve (hmake : t.CanMake current path made)
    (hmakes : t.Makes made content t') : t'.resolve current path = .ok made := by
  obtain ⟨dir, name, htarget, -, rfl⟩ := hmake
  obtain ⟨hpath, hway⟩ := target_eq_ok_iff.1 htarget
  exact resolve_eq_ok_iff.2 (target_eq_ok_iff.2 ⟨hpath, hway.of_missing hmakes⟩)

/-- Its text is read by whoever wrote it. -/
theorem CanMake.readText (hmake : t.CanMake current path made)
    (hmakes : t.Makes made (.text s) t') : t'.readText current path = .ok s := by
  rw [FileTree.readText, hmake.resolve hmakes]
  show t'.readPlace made = .ok s
  rw [readPlace, hmakes.refusal?, hmakes.entry?, if_pos rfl, if_pos rfl]

/-- By an absolute path the same can be made from everywhere. -/
theorem CanMake.of_pathText (h : ∀ c ∈ place, IsName c) (hne : place ≠ [])
    (hmake : t.CanMake current (pathText place) made) (other : List String) :
    t.CanMake other (pathText place) made := by
  unfold CanMake at hmake ⊢
  rwa [target_pathText h hne] at hmake ⊢

-- ============================================== names in directories

section

variable (h : t.IsPlace dir) (hname : IsName name)

include h hname

/-- A name that nothing has. -/
theorem target_pathText_of_none (hdirectory : t.entry? dir = some .directory)
    (hentry : t.entry? (dir ++ [name]) = none) {target : Target} :
    t.target true current (pathText (dir ++ [name])) = .ok target
      ↔ target = .missing dir name ∧ (pathText (dir ++ [name])).utf8ByteSize ≤ maxPathBytes
        ∧ t.IsReachable (dir ++ [name]) := by
  rw [target_pathText_eq_ok_iff h hname, leads_name_iff hname, arrival_eq_missing_iff.2 hentry,
    isReachable_append_iff]
  constructor
  · rintro ⟨hlong, hreach, -, hsearch, ⟨-, rfl⟩ | ⟨harrival, -⟩ | ⟨path, less, harrival, -⟩⟩
    · exact ⟨rfl, hlong, hreach, hsearch⟩
    · cases harrival
    · cases harrival
  · rintro ⟨rfl, hlong, hreach, hsearch⟩
    exact ⟨hlong, hreach, hdirectory, hsearch, .inl ⟨rfl, rfl⟩⟩

/-- The file of the name is what can be made then. -/
theorem canMake_iff_of_none (hdirectory : t.entry? dir = some .directory)
    (hentry : t.entry? (dir ++ [name]) = none) :
    t.CanMake current (pathText (dir ++ [name])) made
      ↔ made = dir ++ [name] ∧ (pathText (dir ++ [name])).utf8ByteSize ≤ maxPathBytes
        ∧ t.IsReachable (dir ++ [name]) ∧ t.refusal? dir .write = none := by
  unfold CanMake
  simp only [target_pathText_of_none h hname hdirectory hentry]
  constructor
  · rintro ⟨_, _, ⟨htarget, hlong, hreach⟩, hright, rfl⟩
    obtain ⟨rfl, rfl⟩ := Target.missing.inj htarget
    exact ⟨rfl, hlong, hreach, hright⟩
  · rintro ⟨rfl, hlong, hreach, hright⟩
    exact ⟨dir, name, ⟨rfl, hlong, hreach⟩, hright, rfl⟩

/-- A path that is too long is not written through. -/
theorem writeFile_of_long (hlong : maxPathBytes < (pathText (dir ++ [name])).utf8ByteSize)
    (s : String) :
    t.writeFile current (pathText (dir ++ [name])) s = (t, some .nameTooLong) := by
  rw [writeFile, target_pathText (h.forall_isName_append hname) (by simp), if_pos hlong]

/-- In a directory that may not be written to no file is made. -/
theorem writeFile_of_refused (hdirectory : t.entry? dir = some .directory)
    (hentry : t.entry? (dir ++ [name]) = none)
    (hlong : (pathText (dir ++ [name])).utf8ByteSize ≤ maxPathBytes)
    (hreach : t.IsReachable (dir ++ [name])) {reason : Refusal}
    (hreason : t.refusal? dir .write = some reason) (s : String) :
    t.writeFile current (pathText (dir ++ [name])) s = (t, some (.refused reason)) := by
  have htarget : t.target true current (pathText (dir ++ [name])) = .ok (.missing dir name) :=
    (target_pathText_of_none h hname hdirectory hentry).2 ⟨rfl, hlong, hreach⟩
  rw [writeFile, htarget]
  dsimp only
  rw [hreason]

/-- What has a name stands in the way, unless it is a link. -/
theorem not_canMake_of_arrival (harrival : t.arrival (dir ++ [name]) = .to (dir ++ [name])) :
    ¬ t.CanMake current (pathText (dir ++ [name])) made := by
  rintro ⟨_, _, htarget, -⟩
  rw [target_pathText_eq_ok_iff h hname, leads_name_iff hname, harrival] at htarget
  obtain ⟨-, -, -, -, ⟨hmissing, -⟩ | ⟨-, htarget⟩ | ⟨path, less, hlink, -⟩⟩ := htarget
  · cases hmissing
  · cases htarget
  · cases hlink

end

end Marginalia.FileTree
