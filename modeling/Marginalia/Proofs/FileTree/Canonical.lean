/-
When a path can be followed name by name. On a way that leads to a place, every
name is asked for by its absolute path, and this is where more can go wrong than
on the way itself: `asked` lists what is asked for, and the place is found exactly
if each of that has a path that is not too long and can be reached from the root
(`canonicalize_eq_ok_iff`). If what the way leads to is no directory, it is itself
the last that is asked for (`exists_mem_askedBy`).
-/
import Marginalia.FileTree.Canonical
import Marginalia.Proofs.FileTree.Places

namespace Marginalia.FileTree

variable {t : FileTree} {links : Nat} {place current final : List String} {c path : String}

-- ============================================================= asking

/-- What is asked for on a way: what has a name, or the directory that has it. -/
structure Asked where
  place : List String
  slash : Bool
deriving DecidableEq, Repr

/-- What follows a name is asked for as well. Where one of the components is a
link, `jump` lists what is asked for instead. -/
def askedFrom (t : FileTree) (jump : List String → List String → List Asked)
    (place : List String) : List String → List Asked
  | [] => []
  | c :: more =>
    if c = "" ∨ c = "." then askedFrom t jump place more
    else if c = ".." then askedFrom t jump place.dropLast more
    else
      match t.arrival (place ++ [c]) with
      | .missing => [⟨place ++ [c], false⟩]
      | .link path =>
        ⟨place ++ [c], false⟩ :: jump (origin place path.text) (components path.text ++ more)
      | .to next => ⟨next, asksDirectory more⟩ :: askedFrom t jump next more

/-- What is asked for on a way through at most so many links. -/
def askedBy (t : FileTree) : Nat → List String → List String → List Asked
  | 0 => t.askedFrom fun _ _ => []
  | links + 1 => t.askedFrom (t.askedBy links)

/-- What is asked for on the way of a path. -/
def asked (t : FileTree) (current : List String) (path : String) : List Asked :=
  t.askedBy maxLinks (origin current path) (components path)

/-- Whether something can be asked for: its absolute path is not too long, and it
can be reached. -/
def CanAsk (t : FileTree) (a : Asked) : Prop :=
  (pathText a.place).utf8ByteSize + (if a.slash then 1 else 0) ≤ maxPathBytes
    ∧ t.IsReachable a.place

theorem walkNames_nil : t.walkNames links place [] = .ok place := by
  cases links with
  | zero => rfl
  | succ links => rfl

theorem walkNames_cons (more : List String) :
    t.walkNames links place (c :: more)
      = if c = "" ∨ c = "." then t.walkNames links place more
        else if c = ".." then t.walkNames links place.dropLast more
        else
          match t.ask place c (asksDirectory more) with
          | .error e => .error e
          | .ok .missing => .error .notFound
          | .ok (.link path) =>
            match links with
            | 0 => .error .tooManyLinks
            | links + 1 =>
              t.walkNames links (origin place path.text) (components path.text ++ more)
          | .ok (.to next) => t.walkNames links next more := by
  cases links with
  | zero => rfl
  | succ links => rfl

theorem askedBy_nil : t.askedBy links place [] = [] := by
  cases links with
  | zero => rfl
  | succ links => rfl

theorem askedBy_cons (more : List String) :
    t.askedBy links place (c :: more)
      = if c = "" ∨ c = "." then t.askedBy links place more
        else if c = ".." then t.askedBy links place.dropLast more
        else
          match t.arrival (place ++ [c]) with
          | .missing => [⟨place ++ [c], false⟩]
          | .link path =>
            ⟨place ++ [c], false⟩ ::
              match links with
              | 0 => []
              | links + 1 =>
                t.askedBy links (origin place path.text) (components path.text ++ more)
          | .to next => ⟨next, asksDirectory more⟩ :: t.askedBy links next more := by
  cases links with
  | zero => rfl
  | succ links => rfl

/-- A step along an absolute path is the step itself, if the path is not too long
and can be followed. -/
theorem stepFromRoot_eq_ok_iff {slash : Bool} {s s' : Step} (h : t.IsPlace place)
    (hstep : t.step slash place c = .ok s) (hc : c ≠ "") :
    t.stepFromRoot place c = .ok s' ↔ t.CanAsk ⟨place ++ [c], false⟩ ∧ s' = s := by
  have hsearch : t.refusal? place .search = none :=
    (obstacle?_eq_none_iff.1 (step_eq_ok_iff.1 hstep).1).2 hc
  have hask : t.CanAsk ⟨place ++ [c], false⟩
      ↔ (pathText (place ++ [c])).utf8ByteSize ≤ maxPathBytes ∧ t.IsReachable place := by
    show _ ∧ t.IsReachable (place ++ [c]) ↔ _
    rw [isReachable_append_iff, and_iff_left hsearch]
    rfl
  have hway : ∀ target, t.walk false maxLinks [] place = .ok target
      ↔ t.IsReachable place ∧ target = .place place := by
    intro target
    have hroot : Leads t false maxLinks [] (place ++ []) target
        ↔ t.IsReachable place ∧ Leads t false maxLinks place [] target := leads_root_iff h rfl
    rw [List.append_nil] at hroot
    rw [walk_eq_ok_iff, hroot]
    refine and_congr_right fun _ => ⟨fun hhere => ?_, fun heq => heq ▸ .here _ _⟩
    cases hhere
    rfl
  rw [hask, stepFromRoot]
  split
  next hlong => exact iff_of_false nofun fun h => absurd h.1.1 (Nat.not_le.2 hlong)
  next hlong =>
    rw [and_iff_right (Nat.not_lt.1 hlong)]
    by_cases hreach : t.IsReachable place
    · rw [(hway _).2 ⟨hreach, rfl⟩]
      dsimp only
      rw [step_of_slash hstep, Except.ok.injEq, and_iff_right hreach, eq_comm]
    · cases hwalk : t.walk false maxLinks [] place with
      | error e => exact iff_of_false nofun fun h => hreach h.1
      | ok target => exact absurd ((hway target).1 hwalk).1 hreach

theorem CanAsk.of_slash {slash : Bool} (h : t.CanAsk ⟨place, slash⟩) : t.CanAsk ⟨place, false⟩ :=
  ⟨Nat.le_of_add_right_le h.1, h.2⟩

theorem checkDirectory_eq_ok_iff (h : t.entry? place = some .directory) :
    t.checkDirectory place = .ok () ↔ (pathText place).utf8ByteSize + 1 ≤ maxPathBytes := by
  rw [checkDirectory, if_pos h]
  split
  next hlong => exact iff_of_false nofun (Nat.not_le.2 (Nat.lt_succ_of_le hlong))
  next hlong => exact iff_of_true rfl (Nat.not_le.1 hlong)

/-- What is found by a name can be asked for. -/
theorem canAsk_of_ask {slash directory : Bool} {s s' : Step} (h : t.IsPlace place) (hc : c ≠ "")
    (hstep : t.step slash place c = .ok s') (hask : t.ask place c directory = .ok s) :
    t.CanAsk ⟨place ++ [c], false⟩ := by
  unfold ask at hask
  cases hroot : t.stepFromRoot place c with
  | ok other => exact ((stepFromRoot_eq_ok_iff h hstep hc).1 hroot).1
  | error e =>
      rw [hroot] at hask
      cases hask

/-- What has a name is found where it can be asked for. -/
theorem ask_to_eq_ok_iff {slash directory : Bool} {next : List String} {s : Step}
    (h : t.IsPlace place) (hc : c ≠ "") (hstep : t.step slash place c = .ok (.to next))
    (hnext : next = place ++ [c])
    (hdirectory : directory = true → t.entry? next = some .directory) :
    t.ask place c directory = .ok s ↔ t.CanAsk ⟨next, directory⟩ ∧ s = .to next := by
  subst hnext
  by_cases hask : t.CanAsk ⟨place ++ [c], false⟩
  · rw [ask, (stepFromRoot_eq_ok_iff h hstep hc).2 ⟨hask, rfl⟩]
    cases directory with
    | false => simp [hask, eq_comm]
    | true =>
        have hcheck := checkDirectory_eq_ok_iff (hdirectory rfl)
        have hslash : t.CanAsk ⟨place ++ [c], true⟩ ↔ t.checkDirectory (place ++ [c]) = .ok () := by
          rw [hcheck]
          exact and_iff_left hask.2
        rw [hslash]
        dsimp only
        rw [if_pos rfl]
        cases t.checkDirectory (place ++ [c]) with
        | error e => exact iff_of_false nofun fun h => nomatch h.1
        | ok u =>
            show Except.ok _ = Except.ok s ↔ _
            rw [Except.ok.injEq, eq_comm]
            exact (and_iff_right rfl).symm
  · exact iff_of_false (fun hok => hask (canAsk_of_ask h hc hstep hok)) fun hok =>
      hask hok.1.of_slash

/-- A link is found where it can be asked for. -/
theorem ask_link_eq_ok_iff {slash : Bool} {path : LinkPath} {s : Step} (directory : Bool)
    (h : t.IsPlace place) (hc : c ≠ "") (hstep : t.step slash place c = .ok (.link path)) :
    t.ask place c directory = .ok s ↔ t.CanAsk ⟨place ++ [c], false⟩ ∧ s = .link path := by
  by_cases hask : t.CanAsk ⟨place ++ [c], false⟩
  · rw [ask, (stepFromRoot_eq_ok_iff h hstep hc).2 ⟨hask, rfl⟩]
    simp [hask, eq_comm]
  · exact iff_of_false (fun hok => hask (canAsk_of_ask h hc hstep hok)) fun hok => hask hok.1

-- ========================================================= whole ways

/-- A way can be followed name by name where everything on it can be asked for. -/
theorem walkNames_eq_ok_iff {names found : List String}
    (h : t.IsPlace place) (hnames : ∀ c ∈ names, '/' ∉ c.toList ∧ '\x00' ∉ c.toList)
    (hway : Leads t false links place names (.place final)) :
    t.walkNames links place names = .ok found
      ↔ (∀ a ∈ t.askedBy links place names, t.CanAsk a) ∧ found = final := by
  generalize htarget : Target.place final = target at hway
  induction hway with
  | here =>
      cases htarget
      rw [walkNames_nil, askedBy_nil, Except.ok.injEq, eq_comm]
      exact (and_iff_right (List.forall_mem_nil _)).symm
  | @step links place next more c target hstep hmore ih =>
      obtain ⟨hchars, hrest⟩ := List.forall_mem_cons.1 hnames
      have ih := ih (h.step hchars hstep) hrest htarget
      rw [walkNames_cons, askedBy_cons]
      obtain ⟨-, ⟨hidle, hto⟩ | ⟨hdots, hto⟩ | ⟨hnamed, harrival⟩⟩ := step_eq_ok_iff.1 hstep
      · rw [if_pos hidle, if_pos hidle, ← Step.to.inj hto]
        exact ih
      · have hidle := not_idle_of_dots hdots
        rw [if_neg hidle, if_neg hidle, if_pos hdots, if_pos hdots, ← Step.to.inj hto]
        exact ih
      · have hidle := hnamed.not_idle
        rw [if_neg hidle, if_neg hidle, if_neg hnamed.1.2.2, if_neg hnamed.1.2.2, ← harrival,
          List.forall_mem_cons, and_assoc, ← ih]
        -- what follows asks for a directory only where the way goes on from one
        have hdirectory : asksDirectory more = true → t.entry? next = some .directory := by
          intro hasks
          cases more with
          | nil => cases hasks
          | cons d more => exact hmore.isDirectory
        have hask := fun s => ask_to_eq_ok_iff (s := s) h hnamed.1.1 hstep
          (eq_of_arrival harrival.symm) hdirectory
        cases hresult : t.ask place c (asksDirectory more) with
        | error e =>
            refine iff_of_false nofun fun hall => ?_
            cases hresult.symm.trans ((hask _).2 ⟨hall.1, rfl⟩)
        | ok s =>
            obtain ⟨hcan, rfl⟩ := (hask s).1 hresult
            exact (and_iff_right hcan).symm
  | @link links place more c path target hstep hmore ih =>
      obtain ⟨hchars, hrest⟩ := List.forall_mem_cons.1 hnames
      have hpath : ∀ d ∈ components path.text ++ more, '/' ∉ d.toList ∧ '\x00' ∉ d.toList :=
        List.forall_mem_append.2 ⟨chars_of_mem_components path.no_nul, hrest⟩
      have ih := ih (h.origin path.text) hpath htarget
      obtain ⟨hnamed, -, harrival⟩ := isNamed_of_step hstep nofun
      have hidle := hnamed.not_idle
      rw [walkNames_cons, askedBy_cons, if_neg hidle, if_neg hidle, if_neg hnamed.1.2.2,
        if_neg hnamed.1.2.2, harrival, List.forall_mem_cons, and_assoc, ← ih]
      have hask := fun s => ask_link_eq_ok_iff (s := s) (asksDirectory more) h hnamed.1.1 hstep
      cases hresult : t.ask place c (asksDirectory more) with
      | error e =>
          refine iff_of_false nofun fun hall => ?_
          cases hresult.symm.trans ((hask _).2 ⟨hall.1, rfl⟩)
      | ok s =>
          obtain ⟨hcan, rfl⟩ := (hask s).1 hresult
          exact (and_iff_right hcan).symm
  | missing => cases htarget

/-- What a path leads to is found name by name where everything on the way can be
asked for. -/
theorem canonicalize_eq_ok_iff {found : List String} (h : t.IsPlace current)
    (hpath : t.resolve current path = .ok place) :
    t.canonicalize current path = .ok found
      ↔ (∀ a ∈ t.asked current path, t.CanAsk a) ∧ found = place := by
  obtain ⟨⟨hnul, hempty, -⟩, hway⟩ := target_eq_ok_iff.1 (resolve_eq_ok_iff.1 hpath)
  have hcontains : ¬ path.toList.contains '\x00' = true := mt List.contains_iff_mem.1 hnul
  rw [canonicalize, if_neg hcontains, if_neg hempty]
  exact walkNames_eq_ok_iff (h.origin path) (chars_of_mem_components hnul) hway

/-- What is no directory is the last that is asked for on the way to it. -/
theorem exists_mem_askedBy {names : List String}
    (hway : Leads t false links place names (.place final))
    (hplace : t.IsPlace place) (hnames : ∀ c ∈ names, '/' ∉ c.toList ∧ '\x00' ∉ c.toList)
    (hdirectory : t.entry? place = some .directory) (hfinal : t.entry? final ≠ some .directory) :
    ∃ a ∈ t.askedBy links place names, a.place = final := by
  generalize htarget : Target.place final = target at hway
  induction hway with
  | here =>
      cases htarget
      exact absurd hdirectory hfinal
  | @step links place next more c target hstep hmore ih =>
      obtain ⟨hchars, hrest⟩ := List.forall_mem_cons.1 hnames
      have ih := ih (hplace.step hchars hstep) hrest
      rw [askedBy_cons]
      obtain ⟨-, ⟨hidle, hto⟩ | ⟨hdots, hto⟩ | ⟨hnamed, harrival⟩⟩ := step_eq_ok_iff.1 hstep
      · obtain rfl := Step.to.inj hto
        rw [if_pos hidle]
        exact ih hdirectory htarget
      · obtain rfl := Step.to.inj hto
        rw [if_neg (not_idle_of_dots hdots), if_pos hdots]
        exact ih (hplace.dropLast hdirectory) htarget
      · rw [if_neg hnamed.not_idle, if_neg hnamed.1.2.2, ← harrival]
        by_cases hnext : t.entry? next = some .directory
        · obtain ⟨a, ha, heq⟩ := ih hnext htarget
          exact ⟨a, List.mem_cons_of_mem _ ha, heq⟩
        · -- the way does not go on from what is no directory
          cases more with
          | cons d more => exact absurd hmore.isDirectory hnext
          | nil =>
              cases hmore
              cases htarget
              exact ⟨_, List.mem_cons_self, rfl⟩
  | @link links place more c path target hstep hmore ih =>
      have hpath : ∀ d ∈ components path.text ++ more, '/' ∉ d.toList ∧ '\x00' ∉ d.toList :=
        List.forall_mem_append.2
          ⟨chars_of_mem_components path.no_nul, (List.forall_mem_cons.1 hnames).2⟩
      have hbegin : t.entry? (origin place path.text) = some .directory := by
        unfold origin
        split
        · rfl
        · exact hdirectory
      obtain ⟨hnamed, -, harrival⟩ := isNamed_of_step hstep nofun
      rw [askedBy_cons, if_neg hnamed.not_idle, if_neg hnamed.1.2.2, harrival]
      obtain ⟨a, ha, heq⟩ := ih (hplace.origin path.text) hpath hbegin htarget
      exact ⟨a, List.mem_cons_of_mem _ ha, heq⟩
  | missing => cases htarget

theorem exists_components_eq_cons (path : String) : ∃ c more, components path = c :: more := by
  refine List.exists_cons_of_ne_nil (mt List.map_eq_nil_iff.1 ?_)
  rw [Text.splitOnChar_eq_splitOn]
  exact List.splitOn_ne_nil '/' path.toList

/-- So it can be asked for, if everything on the way can. -/
theorem canAsk_of_forall_asked (h : t.IsPlace current)
    (hpath : t.resolve current path = .ok place) (hplace : t.entry? place ≠ some .directory)
    (hasked : ∀ a ∈ t.asked current path, t.CanAsk a) : t.CanAsk ⟨place, false⟩ := by
  obtain ⟨⟨hnul, -, -⟩, hway⟩ := target_eq_ok_iff.1 (resolve_eq_ok_iff.1 hpath)
  have hbegin : t.entry? (origin current path) = some .directory := by
    obtain ⟨c, more, hcomponents⟩ := exists_components_eq_cons path
    rw [hcomponents] at hway
    exact hway.isDirectory
  obtain ⟨a, ha, rfl⟩ :=
    exists_mem_askedBy hway (h.origin path) (chars_of_mem_components hnul) hbegin hplace
  exact (hasked a ha).of_slash

end Marginalia.FileTree
