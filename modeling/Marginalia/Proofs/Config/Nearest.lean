/-
The nearest settings count. The search climbs from a directory and stops at
the first configuration file, at the first boundary behind which it may not
look, or where there is nothing above; so what it finds is the file in the
nearest directory that has one, if no directory below that one is a boundary
(`IsNearest`). A boundary does not hide a file beside it, since each directory
is asked for its file first.

Nothing is known here of what the tree says to a path but whether it exists, so
the search is described for every such answer (`findIn_eq_some_iff`). Loading
follows it: the standard settings are given only where nothing was found
(`load_eq_ok_false_iff`), and whatever is wrong with a file that was found is told
(`loadFile_eq_error_iff`). What a file may hold is another matter (RoundTrip.lean);
here it is enough that settings are read as they are printed, and that some texts
are refused.
-/
import Marginalia.Proofs.Config.Loading
import Marginalia.Proofs.Config.RoundTrip
import Marginalia.Proofs.FileTree.Ancestors

namespace Marginalia.Config

variable {exists? : String → Bool} {dirs : List String} {path : String}

-- ============================================================= search

/-- Whether a directory has a configuration file. -/
def HasFile (exists? : String → Bool) (dir : String) : Prop :=
  exists? (PathText.join dir fileName) = true

/-- Whether nothing above a directory may be looked into. -/
def IsBoundary (exists? : String → Bool) (dir : String) : Prop :=
  exists? (PathText.join dir boundaryName) = true

/-- Whether the file of one directory, counted from the nearest, is the one
that counts. -/
def IsNearest (exists? : String → Bool) (dirs : List String) (i : Nat) : Prop :=
  (∃ dir, dirs[i]? = some dir ∧ HasFile exists? dir)
    ∧ ∀ j < i, ∀ dir, dirs[j]? = some dir → ¬ HasFile exists? dir ∧ ¬ IsBoundary exists? dir

theorem isNearest_zero_iff {dir : String} :
    IsNearest exists? (dir :: dirs) 0 ↔ HasFile exists? dir := by
  simp [IsNearest]

theorem isNearest_succ_iff {dir : String} {i : Nat} :
    IsNearest exists? (dir :: dirs) (i + 1)
      ↔ (¬ HasFile exists? dir ∧ ¬ IsBoundary exists? dir) ∧ IsNearest exists? dirs i := by
  constructor
  · rintro ⟨hfile, hbelow⟩
    exact ⟨hbelow 0 (Nat.succ_pos i) dir rfl, hfile,
      fun j hj => hbelow (j + 1) (Nat.succ_lt_succ hj)⟩
  · rintro ⟨hdir, hfile, hbelow⟩
    refine ⟨hfile, fun j hj d hd => ?_⟩
    cases j with
    | zero =>
        obtain rfl := Option.some.inj hd
        exact hdir
    | succ j => exact hbelow j (Nat.lt_of_succ_lt_succ hj) d hd

theorem findIn_cons_of_hasFile {dir : String} (h : HasFile exists? dir) (above : List String) :
    findIn exists? (dir :: above) = some (PathText.join dir fileName) :=
  if_pos h

theorem findIn_cons_of_isBoundary {dir : String} (h : ¬ HasFile exists? dir)
    (hboundary : IsBoundary exists? dir) (above : List String) :
    findIn exists? (dir :: above) = none :=
  (if_neg h).trans (if_pos hboundary)

theorem findIn_cons {dir : String} (h : ¬ HasFile exists? dir)
    (hboundary : ¬ IsBoundary exists? dir) (above : List String) :
    findIn exists? (dir :: above) = findIn exists? above :=
  (if_neg h).trans (if_neg hboundary)

/-- The search finds the file of the nearest directory. -/
theorem findIn_eq_some_iff :
    findIn exists? dirs = some path
      ↔ ∃ i dir, IsNearest exists? dirs i ∧ dirs[i]? = some dir
          ∧ path = PathText.join dir fileName := by
  induction dirs with
  | nil =>
      refine iff_of_false nofun ?_
      rintro ⟨i, dir, -, h, -⟩
      cases h
  | cons dir above ih =>
      by_cases hfile : HasFile exists? dir
      · rw [findIn_cons_of_hasFile hfile]
        constructor
        · intro h
          exact ⟨0, dir, isNearest_zero_iff.2 hfile, rfl, (Option.some.inj h).symm⟩
        · rintro ⟨i, d, hnearest, hd, rfl⟩
          cases i with
          | zero => rw [Option.some.inj hd]
          | succ i => exact absurd hfile (isNearest_succ_iff.1 hnearest).1.1
      · have hstep : (∃ i d, IsNearest exists? (dir :: above) i ∧ (dir :: above)[i]? = some d
              ∧ path = PathText.join d fileName)
            ↔ ¬ IsBoundary exists? dir ∧ findIn exists? above = some path := by
          rw [ih]
          constructor
          · rintro ⟨i, d, hnearest, hd, rfl⟩
            cases i with
            | zero => exact absurd (isNearest_zero_iff.1 hnearest) hfile
            | succ i =>
                obtain ⟨⟨-, hboundary⟩, hnearest⟩ := isNearest_succ_iff.1 hnearest
                exact ⟨hboundary, i, d, hnearest, hd, rfl⟩
          · rintro ⟨hboundary, i, d, hnearest, hd, rfl⟩
            exact ⟨i + 1, d, isNearest_succ_iff.2 ⟨⟨hfile, hboundary⟩, hnearest⟩, hd, rfl⟩
        rw [hstep]
        by_cases hboundary : IsBoundary exists? dir
        · rw [findIn_cons_of_isBoundary hfile hboundary]
          exact iff_of_false nofun fun h => h.1 hboundary
        · rw [findIn_cons hfile hboundary]
          exact (and_iff_right hboundary).symm

theorem findIn_eq_none_iff : findIn exists? dirs = none ↔ ∀ i, ¬ IsNearest exists? dirs i := by
  rw [Option.eq_none_iff_forall_ne_some]
  constructor
  · intro h i hnearest
    obtain ⟨dir, hdir, -⟩ := hnearest.1
    exact h _ (findIn_eq_some_iff.2 ⟨i, dir, hnearest, hdir, rfl⟩)
  · intro h path hpath
    obtain ⟨i, dir, hnearest, -⟩ := findIn_eq_some_iff.1 hpath
    exact h i hnearest

-- ============================================================= loading

variable {t : FileTree} {current : List String} {start : String}

/-- Whether a file holds settings that keep the rules. -/
def Holds (t : FileTree) (current : List String) (path : String) (c : Config) : Prop :=
  ∃ text, t.readText current path = .ok text ∧ ofText text = .ok c ∧ c.validate = .ok ()

/-- Whether a file holds no such settings, and why. -/
inductive Fails (t : FileTree) (current : List String) (path : String) : LoadError → Prop where
  | unreadable {e : FileError} (h : t.readText current path = .error e) :
      Fails t current path (.unreadable e)
  | malformed {text : String} {e : Json.DecodeError} (h : t.readText current path = .ok text)
      (htext : ofText text = .error e) : Fails t current path (.malformed path e)
  | invalid {text : String} {c : Config} {v : Violation}
      (h : t.readText current path = .ok text) (htext : ofText text = .ok c)
      (hrules : c.validate = .error v) : Fails t current path (.invalid v)

theorem loadFile_eq_ok_iff {loaded : Loaded} :
    loadFile t current path = .ok loaded
      ↔ loaded.fromFile = true ∧ Holds t current path loaded.config := by
  unfold loadFile Holds
  simp only [bind_eq_ok_iff, mapError_eq_ok_iff]
  constructor
  · rintro ⟨text, hread, c, htext, _, hrules, h⟩
    rw [← Except.ok.inj h]
    exact ⟨rfl, text, hread, htext, hrules⟩
  · rintro ⟨hfile, text, hread, htext, hrules⟩
    refine ⟨text, hread, loaded.config, htext, (), hrules, ?_⟩
    rw [← hfile]
    rfl

theorem loadFile_eq_error_iff {e : LoadError} :
    loadFile t current path = .error e ↔ Fails t current path e := by
  unfold loadFile
  simp only [bind_eq_error_iff, mapError_eq_error_iff, mapError_eq_ok_iff]
  constructor
  · rintro (⟨_, h, rfl⟩ | ⟨text, h, ⟨_, htext, rfl⟩ | ⟨c, htext, ⟨_, hrules, rfl⟩ | ⟨_, -, h⟩⟩⟩)
    · exact .unreadable h
    · exact .malformed h htext
    · exact .invalid h htext hrules
    · cases h
  · intro h
    cases h with
    | unreadable h => exact .inl ⟨_, h, rfl⟩
    | malformed h htext => exact .inr ⟨_, h, .inl ⟨_, htext, rfl⟩⟩
    | invalid h htext hrules => exact .inr ⟨_, h, .inr ⟨_, htext, .inl ⟨_, hrules, rfl⟩⟩⟩

/-- Of printed settings the rules alone are checked. -/
theorem loadFile_of_pretty {c : Config} (hdelay : c.settleDelayMs ≤ Json.maxNatural)
    (hread : t.readText current path = .ok c.toJson.pretty) :
    loadFile t current path = (c.validate.mapError .invalid).map fun _ => ⟨c, true⟩ := by
  rw [loadFile, bind_of_eq_ok (mapError_eq_ok_iff.2 hread),
    bind_of_eq_ok (mapError_eq_ok_iff.2 (ofText_pretty hdelay))]
  cases c.validate with
  | error v => rfl
  | ok u => rfl

/-- An object that is not closed is refused. -/
theorem exists_loadFile_eq_of_unclosed (hread : t.readText current path = .ok "\x7b") :
    ∃ e, loadFile t current path = .error (.malformed path e) := by
  cases htext : ofText "\x7b" with
  | error e => exact ⟨e, loadFile_eq_error_iff.2 (.malformed hread htext)⟩
  | ok c =>
      have hrefused : (ofText "\x7b").toOption = none := by decide +kernel
      rw [htext] at hrefused
      cases hrefused

theorem load_of_some (h : find? t current start = some path) :
    load t current start = loadFile t current path := by
  rw [load, h]

/-- The standard settings count only where no file is found. -/
theorem load_eq_ok_false_iff {c : Config} :
    load t current start = .ok ⟨c, false⟩ ↔ find? t current start = none ∧ c = standard := by
  cases hfind : find? t current start with
  | none =>
      rw [load, hfind]
      simp [eq_comm]
  | some path =>
      rw [load_of_some hfind, loadFile_eq_ok_iff]
      exact iff_of_false (fun h => nomatch h.1) fun h => nomatch h.1

-- =============================================================== main

/-- The settings for a directory are those of the nearest configuration file at
or above it, if no boundary lies below that file. The directories are the paths
above the given one as text: each has all components but the last of the one
before, and they end with a root or an empty path. The standard settings are
given exactly where no file is found; one that is found is read, and either it
holds settings that keep the rules, which are given, or it is told why not. So
settings that were printed into the file are given if they keep the rules, and the
rule they break is told otherwise; and an object that is not closed is told to be
malformed. -/
theorem nearest_settings_count (start : String) :
    let dirs := PathText.ancestors start
    (dirs[0]? = some start
        ∧ (∀ i dir, dirs[i]? = some dir → dirs[i + 1]? = PathText.parent? dir
            ∧ PathText.parts dir.toList
              = (PathText.parts start.toList).take ((PathText.parts start.toList).length - i))
        ∧ ∃ last, dirs.getLast? = some last
            ∧ (PathText.parts last.toList = [] ∨ PathText.parts last.toList = [['/']]))
      ∧ (∀ exists? : String → Bool,
          (∀ path, findIn exists? dirs = some path ↔
              ∃ i dir, IsNearest exists? dirs i ∧ dirs[i]? = some dir
                ∧ path = PathText.join dir fileName)
            ∧ (findIn exists? dirs = none ↔ ∀ i, ¬ IsNearest exists? dirs i))
      ∧ ∀ (t : FileTree) (current : List String),
          find? t current start = findIn (t.pathExists current) dirs
            ∧ (∀ c, load t current start = .ok ⟨c, false⟩
                ↔ find? t current start = none ∧ c = standard)
            ∧ ∀ path, find? t current start = some path →
                (∀ c, load t current start = .ok ⟨c, true⟩ ↔ Holds t current path c)
                  ∧ (∀ e, load t current start = .error e ↔ Fails t current path e)
                  ∧ (∀ c : Config, c.settleDelayMs ≤ Json.maxNatural →
                      t.readText current path = .ok c.toJson.pretty →
                      load t current start
                        = (c.validate.mapError .invalid).map fun _ => ⟨c, true⟩)
                  ∧ (t.readText current path = .ok "\x7b" →
                      ∃ e, load t current start = .error (.malformed path e)) := by
  intro dirs
  refine ⟨⟨PathText.getElem?_ancestors_zero start, fun i dir hdir => ?_, ?_⟩,
    fun exists? => ⟨fun path => findIn_eq_some_iff, findIn_eq_none_iff⟩,
    fun t current => ⟨rfl, fun c => load_eq_ok_false_iff, fun path hpath => ?_⟩⟩
  · exact ⟨PathText.getElem?_ancestors_succ hdir, PathText.parts_of_getElem?_ancestors hdir⟩
  · exact PathText.exists_getLast?_ancestors start
  · rw [load_of_some hpath]
    refine ⟨fun c => ?_, fun e => loadFile_eq_error_iff,
      fun c hdelay hread => loadFile_of_pretty hdelay hread, exists_loadFile_eq_of_unclosed⟩
    rw [loadFile_eq_ok_iff]
    exact and_iff_right rfl

end Marginalia.Config
