/-
Walking as a relation. `Leads` says, by the number of links that may be followed,
what following components from a place comes to; it has one case for each thing
that a step can lead to (`step_eq_ok_iff`). Walking is exactly that
(`walk_eq_ok_iff`), so that what holds of ways is proved by induction on `Leads`
and the number of links has to be looked at only here.

A step reads nothing of the tree but what stands at the place, whether that may
be searched, and what stands at the place that it leads to. So a way to the name
of nothing stays as it is when a file is made under that name (`Makes.step`), and
then leads to the file (`Leads.of_missing`).
-/
import Marginalia.FileTree.Walk

namespace Marginalia.FileTree

variable {t t' : FileTree} {creating slash : Bool} {links : Nat}
  {place next components : List String} {c : String} {s : Step} {target : Target}

-- ============================================================== steps

theorem obstacle?_eq_none_iff :
    t.obstacle? place c = none
      ↔ t.entry? place = some .directory ∧ (c ≠ "" → t.refusal? place .search = none) := by
  unfold obstacle?
  cases hentry : t.entry? place with
  | none => simp
  | some e =>
      cases e with
      | directory =>
          by_cases hc : c = ""
          · simp [hc]
          · simp [hc]
      | file content => simp
      | link path => simp

/-- A component that is a name: no idle one, no step up, and not too long. If a
file is to be made, there is no slash behind it. -/
def IsNamed (slash : Bool) (c : String) : Prop :=
  (c ≠ "" ∧ c ≠ "." ∧ c ≠ "..") ∧ slash = false ∧ c.utf8ByteSize ≤ maxNameBytes

theorem IsNamed.not_idle (h : IsNamed slash c) : ¬ (c = "" ∨ c = ".") :=
  not_or.2 ⟨h.1.1, h.1.2.1⟩

theorem not_idle_of_dots (h : c = "..") : ¬ (c = "" ∨ c = ".") := by
  rw [h]
  decide

/-- What a step can do. -/
theorem step_eq_ok_iff :
    t.step slash place c = .ok s
      ↔ t.obstacle? place c = none
        ∧ ((c = "" ∨ c = ".") ∧ s = .to place
          ∨ c = ".." ∧ s = .to place.dropLast
          ∨ IsNamed slash c ∧ s = t.arrival (place ++ [c])) := by
  unfold step
  cases t.obstacle? place c with
  | some e => exact iff_of_false nofun fun h => nomatch h.1
  | none =>
      dsimp only
      rw [and_iff_right rfl]
      by_cases hidle : c = "" ∨ c = "."
      · have hdots : c ≠ ".." := fun h => not_idle_of_dots h hidle
        have hname : ¬ IsNamed slash c := fun h => h.not_idle hidle
        rw [if_pos hidle, Except.ok.injEq, eq_comm]
        simp [hidle, hdots, hname]
      · rw [if_neg hidle]
        by_cases hdots : c = ".."
        · have hname : ¬ IsNamed slash c := fun h => h.1.2.2 hdots
          rw [if_pos hdots, Except.ok.injEq, eq_comm]
          constructor
          · intro h
            exact .inr (.inl ⟨hdots, h⟩)
          · rintro (⟨h, -⟩ | ⟨-, h⟩ | ⟨h, -⟩)
            · exact absurd h hidle
            · exact h
            · exact absurd h hname
        · have hnamed : IsNamed slash c ↔ slash = false ∧ c.utf8ByteSize ≤ maxNameBytes :=
            and_iff_right ⟨fun h => hidle (.inl h), fun h => hidle (.inr h), hdots⟩
          rw [if_neg hdots, hnamed]
          cases slash with
          | true => simp [hidle, hdots]
          | false =>
              by_cases hlong : maxNameBytes < c.utf8ByteSize
              · simp [hidle, hdots, hlong, Nat.not_le.2 hlong]
              · rw [if_neg Bool.false_ne_true, if_neg hlong, Except.ok.injEq, eq_comm]
                simp [hidle, hdots, Nat.not_lt.1 hlong]

theorem isDirectory_of_step (h : t.step slash place c = .ok s) :
    t.entry? place = some .directory :=
  (obstacle?_eq_none_iff.1 (step_eq_ok_iff.1 h).1).1

/-- Only a name is a link or missing. -/
theorem isNamed_of_step (h : t.step slash place c = .ok s) (hs : ∀ next, s ≠ .to next) :
    IsNamed slash c ∧ t.refusal? place .search = none ∧ t.arrival (place ++ [c]) = s := by
  obtain ⟨hobstacle, ⟨-, hto⟩ | ⟨-, hto⟩ | ⟨hnamed, harrival⟩⟩ := step_eq_ok_iff.1 h
  · exact absurd hto (hs _)
  · exact absurd hto (hs _)
  · exact ⟨hnamed, (obstacle?_eq_none_iff.1 hobstacle).2 hnamed.1.1, harrival.symm⟩

/-- A slash is nothing that a step needs. -/
theorem step_of_slash (h : t.step slash place c = .ok s) : t.step false place c = .ok s := by
  obtain ⟨hobstacle, hcases⟩ := step_eq_ok_iff.1 h
  refine step_eq_ok_iff.2 ⟨hobstacle, ?_⟩
  rcases hcases with hidle | hdots | ⟨⟨hname, -, hlong⟩, harrival⟩
  · exact .inl hidle
  · exact .inr (.inl hdots)
  · exact .inr (.inr ⟨⟨hname, rfl, hlong⟩, harrival⟩)

theorem arrival_eq_missing_iff : t.arrival place = .missing ↔ t.entry? place = none := by
  unfold arrival
  cases t.entry? place with
  | none => simp
  | some e =>
      cases e with
      | directory => simp
      | file content => simp
      | link path => simp

theorem eq_of_arrival (h : t.arrival place = .to next) : next = place := by
  unfold arrival at h
  split at h
  · cases h
  · cases h
  · exact (Step.to.inj h).symm

theorem arrival_of_isDirectory (h : t.entry? place = some .directory) :
    t.arrival place = .to place := by
  rw [arrival, h]

theorem arrival_of_isFile {content : Content} (h : t.entry? place = some (.file content)) :
    t.arrival place = .to place := by
  rw [arrival, h]

-- =============================================================== ways

/-- What following components from a place comes to, through at most so many
links. -/
inductive Leads (t : FileTree) (creating : Bool) :
    Nat → List String → List String → Target → Prop where
  | here (links : Nat) (place : List String) : Leads t creating links place [] (.place place)
  | step {links : Nat} {place next more : List String} {c : String} {target : Target}
      (hstep : t.step (creating && isSlashed more) place c = .ok (.to next))
      (hmore : Leads t creating links next more target) :
      Leads t creating links place (c :: more) target
  | link {links : Nat} {place more : List String} {c : String} {path : LinkPath}
      {target : Target}
      (hstep : t.step (creating && isSlashed more) place c = .ok (.link path))
      (hmore : Leads t creating links (origin place path.text)
        (FileTree.components path.text ++ more) target) :
      Leads t creating (links + 1) place (c :: more) target
  | missing (links : Nat) {place : List String} {c : String}
      (hstep : t.step false place c = .ok .missing) :
      Leads t creating links place [c] (.missing place c)

theorem walk_nil : t.walk creating links place [] = .ok (.place place) := by
  cases links with
  | zero => rfl
  | succ links => rfl

theorem walk_cons (more : List String) :
    t.walk creating links place (c :: more)
      = match t.step (creating && isSlashed more) place c with
        | .error e => .error e
        | .ok (.to next) => t.walk creating links next more
        | .ok (.link path) =>
          match links with
          | 0 => .error .tooManyLinks
          | links + 1 =>
            t.walk creating links (origin place path.text)
              (FileTree.components path.text ++ more)
        | .ok .missing => if more = [] then .ok (.missing place c) else .error .notFound := by
  cases links with
  | zero => rfl
  | succ links => rfl

theorem leads_of_walk (h : t.walk creating links place components = .ok target) :
    Leads t creating links place components target := by
  induction links using Nat.strongRecOn generalizing place components with
  | ind links ihlinks =>
      induction components generalizing place with
      | nil =>
          rw [walk_nil] at h
          obtain rfl := Except.ok.inj h
          exact .here links place
      | cons c more ih =>
          rw [walk_cons] at h
          split at h
          · cases h
          next hstep => exact .step hstep (ih h)
          next hstep =>
            -- only here one link less may be followed
            cases links with
            | zero => cases h
            | succ links => exact .link hstep (ihlinks links (Nat.lt_succ_self links) h)
          next hstep =>
            split at h
            next hmore =>
              subst hmore
              obtain rfl := Except.ok.inj h
              exact .missing links (step_of_slash hstep)
            · cases h

/-- Walking succeeds where there is a way. -/
theorem walk_eq_ok_iff :
    t.walk creating links place components = .ok target
      ↔ Leads t creating links place components target := by
  refine ⟨leads_of_walk, fun h => ?_⟩
  induction h with
  | here links place => exact walk_nil
  | step hstep _ ih => rw [walk_cons, hstep, ← ih]
  | link hstep _ ih => rw [walk_cons, hstep, ← ih]
  | missing links hstep =>
      have hslash : (creating && isSlashed []) = false := Bool.and_false creating
      rw [walk_cons, hslash, hstep]
      rfl

/-- There is one way at most. -/
theorem Leads.unique {other : Target} (h : Leads t creating links place components target)
    (hother : Leads t creating links place components other) : target = other :=
  Except.ok.inj ((walk_eq_ok_iff.2 h).symm.trans (walk_eq_ok_iff.2 hother))

/-- What can be made along a way can be looked up along it. -/
theorem Leads.of_creating (h : Leads t creating links place components target) :
    Leads t false links place components target := by
  induction h with
  | here links place => exact .here links place
  | step hstep _ ih => exact .step (step_of_slash hstep) ih
  | link hstep _ ih => exact .link (step_of_slash hstep) ih
  | missing links hstep => exact .missing links hstep

/-- What stands before a component is a directory. -/
theorem Leads.isDirectory {more : List String}
    (h : Leads t creating links place (c :: more) target) :
    t.entry? place = some .directory := by
  cases h with
  | step hstep _ => exact isDirectory_of_step hstep
  | link hstep _ => exact isDirectory_of_step hstep
  | missing _ hstep => exact isDirectory_of_step hstep

-- ============================================================ new files

/-- Whether two trees differ in nothing but a file, which is new in the second of
them and may be read and written there. -/
structure Makes (t : FileTree) (made : List String) (content : Content) (t' : FileTree) :
    Prop where
  isNew : t.entry? made = none
  entry? : ∀ place, t'.entry? place
    = if place = made then some (.file content) else t.entry? place
  refusal? : ∀ place right, t'.refusal? place right
    = if place = made then none else t.refusal? place right

namespace Makes

variable {made : List String} {content : Content}

theorem entry?_of_eq_some (h : t.Makes made content t') {e : Entry}
    (hentry : t.entry? place = some e) : t'.entry? place = some e := by
  rw [h.entry?, if_neg, hentry]
  rintro rfl
  rw [h.isNew] at hentry
  cases hentry

theorem arrival_of_ne_missing (h : t.Makes made content t')
    (harrival : t.arrival place ≠ .missing) : t'.arrival place = t.arrival place := by
  obtain ⟨e, he⟩ := Option.ne_none_iff_exists'.1 (mt arrival_eq_missing_iff.2 harrival)
  rw [arrival, arrival, h.entry?_of_eq_some he, he]

theorem obstacle? (h : t.Makes made content t') (hobstacle : t.obstacle? place c = none) :
    t'.obstacle? place c = none := by
  rw [obstacle?_eq_none_iff] at hobstacle ⊢
  have hne : place ≠ made := by
    rintro rfl
    rw [h.isNew] at hobstacle
    exact nomatch hobstacle.1
  rw [h.entry?_of_eq_some hobstacle.1, h.refusal?, if_neg hne]
  exact ⟨rfl, hobstacle.2⟩

/-- Steps to what was there are as they were. -/
theorem step (h : t.Makes made content t') (hstep : t.step slash place c = .ok s)
    (hs : s ≠ .missing) : t'.step false place c = .ok s := by
  obtain ⟨hobstacle, hcases⟩ := step_eq_ok_iff.1 (step_of_slash hstep)
  refine step_eq_ok_iff.2 ⟨h.obstacle? hobstacle, ?_⟩
  rcases hcases with hidle | hdots | ⟨hnamed, rfl⟩
  · exact .inl hidle
  · exact .inr (.inl hdots)
  · exact .inr (.inr ⟨hnamed, (h.arrival_of_ne_missing hs).symm⟩)

/-- The step to the name leads to the file. -/
theorem step_missing (h : t.Makes (place ++ [c]) content t')
    (hstep : t.step false place c = .ok .missing) :
    t'.step false place c = .ok (.to (place ++ [c])) := by
  have hobstacle := (step_eq_ok_iff.1 hstep).1
  have hnamed := (isNamed_of_step hstep nofun).1
  have hfile : t'.entry? (place ++ [c]) = some (.file content) := by
    rw [h.entry?, if_pos rfl]
  exact step_eq_ok_iff.2
    ⟨h.obstacle? hobstacle, .inr (.inr ⟨hnamed, (arrival_of_isFile hfile).symm⟩)⟩

end Makes

/-- A way to the name of nothing leads to the file that is made under it. -/
theorem Leads.of_missing {dir : List String} {name : String} {content : Content}
    (hway : Leads t creating links place components (.missing dir name))
    (hmakes : t.Makes (dir ++ [name]) content t') :
    Leads t' false links place components (.place (dir ++ [name])) := by
  generalize htarget : Target.missing dir name = target at hway
  induction hway with
  | here => cases htarget
  | step hstep _ ih => exact .step (hmakes.step hstep nofun) (ih htarget)
  | link hstep _ ih => exact .link (hmakes.step hstep nofun) (ih htarget)
  | missing links hstep =>
      cases htarget
      exact .step (hmakes.step_missing hstep) (.here links _)

end Marginalia.FileTree
