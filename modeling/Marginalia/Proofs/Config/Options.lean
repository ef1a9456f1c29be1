/-
Settings that keep the rules are settings that can be scanned with. The rules
are checked by one walk over the patterns and the options of a scan are made by
another, and each stops at the first text that is no pattern. Both walks come
down to one question about the list: whether each of its texts is a pattern
(`parsePatterns_eq_ok_iff`), or which is the first that is none (`Blames`). So
a violation that the one finds the other finds as well (`options_eq_error_iff`,
`validate_eq_error_iff`).

Settings that were loaded have been checked or are the standard ones, so making
options of them never fails: neither a command nor the server can tell of a
violation there.
-/
import Marginalia.Proofs.Config.Loading
import Marginalia.Server
import Mathlib.Data.List.Forall2

namespace Marginalia.Config

-- ============================================================ patterns

/-- The violation that the first text that is no pattern gives rise to. -/
def Blames (patterns : List String) (v : Violation) : Prop :=
  ∃ before pattern after error,
    patterns = before ++ pattern :: after
      ∧ (∀ p ∈ before, ∃ g, Glob.parse p = .ok g)
      ∧ Glob.parse pattern = .error error
      ∧ v = .badPattern pattern error

theorem not_blames_nil (v : Violation) : ¬ Blames [] v := by
  rintro ⟨before, pattern, after, error, h, -⟩
  exact List.append_ne_nil_of_right_ne_nil before (List.cons_ne_nil _ _) h.symm

theorem blames_cons_of_error {p : String} {e : Glob.Error} (hp : Glob.parse p = .error e)
    (more : List String) (v : Violation) :
    Blames (p :: more) v ↔ v = .badPattern p e := by
  constructor
  · rintro ⟨before, pattern, after, error, h, hbefore, hpattern, rfl⟩
    cases before with
    | nil =>
        obtain ⟨rfl, -⟩ := List.cons.inj h
        rw [hp] at hpattern
        rw [Except.error.inj hpattern]
    | cons q before =>
        obtain ⟨rfl, -⟩ := List.cons.inj h
        obtain ⟨g, hg⟩ := hbefore p List.mem_cons_self
        rw [hp] at hg
        cases hg
  · rintro rfl
    exact ⟨[], p, more, e, rfl, List.forall_mem_nil _, hp, rfl⟩

theorem blames_cons_of_ok {p : String} {g : Glob} (hp : Glob.parse p = .ok g)
    (more : List String) (v : Violation) : Blames (p :: more) v ↔ Blames more v := by
  constructor
  · rintro ⟨before, pattern, after, error, h, hbefore, hpattern, hv⟩
    cases before with
    | nil =>
        obtain ⟨rfl, -⟩ := List.cons.inj h
        rw [hp] at hpattern
        cases hpattern
    | cons q before =>
        obtain ⟨rfl, rfl⟩ := List.cons.inj h
        exact ⟨before, pattern, after, error, rfl, (List.forall_mem_cons.1 hbefore).2,
          hpattern, hv⟩
  · rintro ⟨before, pattern, after, error, rfl, hbefore, hpattern, hv⟩
    exact ⟨p :: before, pattern, after, error, rfl,
      List.forall_mem_cons.2 ⟨⟨g, hp⟩, hbefore⟩, hpattern, hv⟩

theorem parsePattern_of_ok {p : String} {g : Glob} (h : Glob.parse p = .ok g) :
    parsePattern p = .ok g := by
  rw [parsePattern, h]

theorem parsePattern_of_error {p : String} {e : Glob.Error} (h : Glob.parse p = .error e) :
    parsePattern p = .error (.badPattern p e) := by
  rw [parsePattern, h]

/-- All of them are patterns, one for each text and in the same order. -/
theorem parsePatterns_eq_ok_iff {patterns : List String} {globs : List Glob} :
    parsePatterns patterns = .ok globs
      ↔ List.Forall₂ (fun p g => Glob.parse p = .ok g) patterns globs := by
  induction patterns generalizing globs with
  | nil =>
      rw [parsePatterns, List.forall₂_nil_left_iff, Except.ok.injEq]
      exact eq_comm
  | cons p more ih =>
      rw [parsePatterns, List.forall₂_cons_left_iff]
      cases hp : Glob.parse p with
      | error e =>
          rw [parsePattern_of_error hp]
          refine iff_of_false nofun ?_
          rintro ⟨g, gs, hg, -⟩
          cases hg
      | ok g =>
          rw [parsePattern_of_ok hp]
          simp only [bind_eq_ok_iff, Except.ok.injEq]
          constructor
          · rintro ⟨_, rfl, gs, hgs, h⟩
            exact ⟨g, gs, rfl, ih.1 hgs, (Except.ok.inj h).symm⟩
          · rintro ⟨_, gs, rfl, hgs, rfl⟩
            exact ⟨g, rfl, gs, ih.2 hgs, rfl⟩

theorem parsePatterns_eq_error_iff {patterns : List String} {v : Violation} :
    parsePatterns patterns = .error v ↔ Blames patterns v := by
  induction patterns with
  | nil => exact iff_of_false nofun (not_blames_nil v)
  | cons p more ih =>
      rw [parsePatterns]
      cases hp : Glob.parse p with
      | error e =>
          rw [parsePattern_of_error hp, blames_cons_of_error hp]
          show Except.error (Violation.badPattern p e) = .error v ↔ _
          rw [Except.error.injEq]
          exact eq_comm
      | ok g =>
          rw [parsePattern_of_ok hp, blames_cons_of_ok hp, ← ih]
          show (parsePatterns more >>= fun gs => .ok (g :: gs)) = .error v ↔ _
          cases parsePatterns more with
          | error v' => exact Iff.rfl
          | ok gs => exact iff_of_false nofun nofun

/-- The two walks over the patterns end alike. -/
theorem checkPatterns_eq (patterns : List String) :
    checkPatterns patterns = (parsePatterns patterns).map fun _ => () := by
  induction patterns with
  | nil => rfl
  | cons p more ih =>
      rw [checkPatterns, parsePatterns, ih]
      cases parsePattern p with
      | error v => rfl
      | ok g =>
          show (parsePatterns more).map _ = (parsePatterns more >>= fun gs => .ok (g :: gs)).map _
          cases parsePatterns more with
          | error v => rfl
          | ok gs => rfl

-- ============================================================= options

variable {c : Config} {v : Violation}

theorem options_eq_ok_iff {o : Options} :
    c.options = .ok o
      ↔ o.kinds = c.kinds ∧ o.fetchExternal = c.fetchExternal
        ∧ List.Forall₂ (fun p g => Glob.parse p = .ok g) c.ignoreSources o.ignore := by
  rw [options, bind_eq_ok_iff, ← parsePatterns_eq_ok_iff]
  constructor
  · rintro ⟨ignore, hignore, h⟩
    rw [← Except.ok.inj h]
    exact ⟨rfl, rfl, hignore⟩
  · rintro ⟨hkinds, hfetch, hignore⟩
    refine ⟨o.ignore, hignore, ?_⟩
    rw [← hkinds, ← hfetch]
    rfl

theorem options_eq_error_iff : c.options = .error v ↔ Blames c.ignoreSources v := by
  rw [← parsePatterns_eq_error_iff, options]
  cases parsePatterns c.ignoreSources with
  | error v' =>
      show Except.error v' = .error v ↔ _
      rw [Except.error.injEq, Except.error.injEq]
  | ok ignore => exact iff_of_false nofun nofun

theorem validate_eq_of_kinds (h : c.kinds ≠ []) :
    c.validate = c.options.map fun _ => () := by
  unfold validate
  rw [if_neg (by rwa [List.isEmpty_iff]), options]
  show checkPatterns c.ignoreSources = _
  rw [checkPatterns_eq]
  cases parsePatterns c.ignoreSources with
  | error v' => rfl
  | ok ignore => rfl

theorem validate_eq_of_no_kinds (h : c.kinds = []) : c.validate = .error .noKinds := by
  unfold validate
  rw [h]
  rfl

theorem validate_eq_ok_iff : c.validate = .ok () ↔ c.kinds ≠ [] ∧ ∃ o, c.options = .ok o := by
  by_cases hkinds : c.kinds = []
  · rw [validate_eq_of_no_kinds hkinds]
    exact iff_of_false nofun fun h => h.1 hkinds
  · rw [validate_eq_of_kinds hkinds]
    cases c.options with
    | error v' => exact iff_of_false nofun fun h => nomatch h.2
    | ok o => exact iff_of_true rfl ⟨hkinds, o, rfl⟩

theorem validate_eq_error_iff (h : c.kinds ≠ []) :
    c.validate = .error v ↔ c.options = .error v := by
  rw [validate_eq_of_kinds h]
  cases c.options with
  | error v' =>
      show Except.error v' = .error v ↔ _
      rw [Except.error.injEq, Except.error.injEq]
  | ok o => exact iff_of_false nofun nofun

/-- Options can be made of settings that were loaded. -/
theorem exists_options_of_load {t : FileTree} {current : List String} {dir : String}
    {loaded : Loaded} (h : load t current dir = .ok loaded) :
    ∃ o, loaded.config.options = .ok o :=
  (validate_eq_ok_iff.1 (validate_of_load h)).2

-- =============================================================== main

/-- A command cannot fail over the options of its settings. -/
theorem scanned_ne_options (env : Command.Environment) (r : Command.ScanRequest)
    (v : Violation) : Command.scanned env r ≠ .error (.options v) := by
  intro h
  unfold Command.scanned at h
  simp only [bind_eq_error_iff, mapError_eq_error_iff, mapError_eq_ok_iff] at h
  rcases h with ⟨_, -, h⟩ | ⟨loaded, hload, ⟨_, hoptions, -⟩ | ⟨_, -, h⟩⟩
  · cases h
  · obtain ⟨o, ho⟩ := exists_options_of_load hload
    rw [ho] at hoptions
    cases hoptions
  · rcases h with ⟨_, -, h⟩ | ⟨_, -, ⟨_, -, h⟩ | ⟨_, -, ⟨_, -, h⟩ | ⟨_, -, h⟩⟩⟩
    all_goals cases h

/-- The server cannot fail over the options of its settings. -/
theorem getComments_ne_options (env : Command.Environment) (args : Server.PageArguments)
    (v : Violation) : Server.getComments env args ≠ .error (.options v) := by
  intro h
  unfold Server.getComments at h
  simp only [bind_eq_error_iff, mapError_eq_error_iff, mapError_eq_ok_iff] at h
  rcases h with ⟨_, -, h⟩ | ⟨loaded, hload, ⟨_, hoptions, -⟩ | ⟨_, -, h⟩⟩
  · cases h
  · obtain ⟨o, ho⟩ := exists_options_of_load hload
    rw [ho] at hoptions
    cases hoptions
  · split at h
    · cases h
    · simp only [bind_eq_error_iff, mapError_eq_error_iff] at h
      rcases h with ⟨_, -, h⟩ | ⟨_, -, ⟨_, -, h⟩ | ⟨_, -, ⟨_, -, h⟩ | ⟨_, -, h⟩⟩⟩
      all_goals cases h

/-- Checking settings and making options of them come to the same. Settings
keep the rules exactly if they list a kind and options can be made of them; and
where they list one, both fail over the first text that is no pattern, or
neither does. Options have the kinds and the switch of the settings and one
pattern for each of the texts, in order. So whoever loads settings gets a list
of kinds that is not empty and options with it, and neither a command nor the
server ever has to tell that there are none. -/
theorem checked_settings_scannable :
    (∀ c : Config,
        (c.validate = .ok () ↔ c.kinds ≠ [] ∧ ∃ o, c.options = .ok o)
          ∧ (c.kinds ≠ [] → ∀ v, (c.validate = .error v ↔ Blames c.ignoreSources v)
              ∧ (c.options = .error v ↔ Blames c.ignoreSources v))
          ∧ ∀ o, c.options = .ok o →
              o.kinds = c.kinds ∧ o.fetchExternal = c.fetchExternal
                ∧ List.Forall₂ (fun p g => Glob.parse p = .ok g) c.ignoreSources o.ignore)
      ∧ (∀ (t : FileTree) (current : List String) (dir : String) (loaded : Loaded),
          load t current dir = .ok loaded →
            loaded.config.kinds ≠ [] ∧ ∃ o, loaded.config.options = .ok o)
      ∧ ∀ (env : Command.Environment) (v : Violation),
          (∀ r, Command.scanned env r ≠ .error (.options v))
            ∧ ∀ args, Server.getComments env args ≠ .error (.options v) := by
  refine ⟨fun c => ⟨validate_eq_ok_iff, fun hkinds v => ⟨?_, options_eq_error_iff⟩,
    fun o => options_eq_ok_iff.1⟩, fun t current dir loaded h =>
      ⟨kinds_ne_nil_of_load h, exists_options_of_load h⟩,
    fun env v => ⟨fun r => scanned_ne_options env r v, fun args => getComments_ne_options env args v⟩⟩
  rw [validate_eq_error_iff hkinds, options_eq_error_iff]

end Marginalia.Config
