/-
Places in a tree. A place that a path leads to stands below directories, up to
the root, and is no link (`isPlace_of_resolve`), whatever steps up, idle
components and links the path takes. So its absolute path leads there again, from
wherever it is followed (`resolve_pathText`), if only it is not too long to be
followed at all and the directories above may be searched.

The slash at the end of a path asks for a directory: no text is read through it
(`readText_slash`).
-/
import Marginalia.Proofs.Config.Loading
import Marginalia.Proofs.FileTree.Walk
import Marginalia.Proofs.Text.Occurrence

namespace Marginalia.FileTree

variable {t : FileTree} {creating : Bool} {links : Nat} {place current above : List String}
  {c : String} {target : Target}

-- ============================================================= names

/-- What a directory can have an entry under. -/
structure IsName (c : String) : Prop where
  ne_empty : c ≠ ""
  ne_dot : c ≠ "."
  ne_dots : c ≠ ".."
  not_long : c.utf8ByteSize ≤ maxNameBytes
  no_slash : '/' ∉ c.toList
  no_nul : '\x00' ∉ c.toList

/-- A place in a tree: something is there that is no link, and all above it are
directories. -/
structure IsPlace (t : FileTree) (place : List String) : Prop where
  isName : ∀ c ∈ place, IsName c
  isDirectory : ∀ above, above <+: place → above ≠ place → t.entry? above = some .directory
  arrival : t.arrival place = .to place

/-- Whether every directory above a place may be searched. -/
def IsReachable (t : FileTree) (place : List String) : Prop :=
  ∀ above, above <+: place → above ≠ place → t.refusal? above .search = none

theorem isPlace_root (t : FileTree) : t.IsPlace [] where
  isName := List.forall_mem_nil _
  isDirectory _ habove hne := absurd (List.prefix_nil.1 habove) hne
  arrival := arrival_of_isDirectory rfl

theorem IsPlace.of_prefix (h : t.IsPlace place) (habove : above <+: place) : t.IsPlace above where
  isName c hc := h.isName c (habove.subset hc)
  isDirectory further hfurther hne := by
    refine h.isDirectory further (hfurther.trans habove) ?_
    rintro rfl
    exact hne (hfurther.eq_of_length (hfurther.length_le.antisymm habove.length_le))
  arrival := by
    by_cases heq : above = place
    · exact heq ▸ h.arrival
    · exact arrival_of_isDirectory (h.isDirectory above habove heq)

theorem IsPlace.forall_isName_append (h : t.IsPlace place) (hc : IsName c) :
    ∀ d ∈ place ++ [c], IsName d :=
  List.forall_mem_append.2 ⟨h.isName, List.forall_mem_singleton.2 hc⟩

/-- Below a directory stands what the directory has. -/
theorem IsPlace.append (h : t.IsPlace place) (hdirectory : t.entry? place = some .directory)
    (hc : IsName c) (harrival : t.arrival (place ++ [c]) = .to (place ++ [c])) :
    t.IsPlace (place ++ [c]) where
  isName := h.forall_isName_append hc
  isDirectory above habove hne := by
    have hle : above <+: place := (List.prefix_concat_iff.1 habove).resolve_left hne
    by_cases heq : above = place
    · exact heq ▸ hdirectory
    · exact h.isDirectory above hle heq
  arrival := harrival

/-- One up from a directory is a directory. -/
theorem IsPlace.dropLast (h : t.IsPlace place) (hdirectory : t.entry? place = some .directory) :
    t.entry? place.dropLast = some .directory := by
  by_cases heq : place.dropLast = place
  · rw [heq, hdirectory]
  · exact h.isDirectory _ (List.dropLast_prefix place) heq

theorem append_singleton_ne (place : List String) (c : String) : place ≠ place ++ [c] := by
  intro heq
  have hlength := congrArg List.length heq
  simp at hlength

theorem isReachable_append_iff :
    t.IsReachable (place ++ [c]) ↔ t.IsReachable place ∧ t.refusal? place .search = none := by
  constructor
  · intro h
    refine ⟨fun above habove _ => ?_, ?_⟩
    · refine h above (habove.trans (List.prefix_append place [c])) ?_
      rintro rfl
      have hle := habove.length_le
      rw [List.length_append, List.length_singleton] at hle
      omega
    · exact h place (List.prefix_append place [c]) (append_singleton_ne place c)
  · rintro ⟨h, hsearch⟩ above habove hne
    have hle : above <+: place := (List.prefix_concat_iff.1 habove).resolve_left hne
    by_cases heq : above = place
    · exact heq ▸ hsearch
    · exact h above hle heq

/-- Where everything may be done, everything can be reached. -/
theorem isReachable_of_refusals (h : t.refusals = []) (place : List String) :
    t.IsReachable place := by
  intro above _ _
  rw [refusal?, h]
  rfl

-- ======================================================= following

/-- What a way comes to: a place, or a name in a directory at a place. -/
def IsSound (t : FileTree) : Target → Prop
  | .place place => t.IsPlace place
  | .missing dir name =>
    (t.IsPlace dir ∧ t.entry? dir = some .directory) ∧ IsName name
      ∧ t.entry? (dir ++ [name]) = none

/-- A name by which something is looked up is one that a directory can have. -/
theorem isName_of_isNamed {slash : Bool} (h : IsNamed slash c)
    (hchars : '/' ∉ c.toList ∧ '\x00' ∉ c.toList) : IsName c :=
  ⟨h.1.1, h.1.2.1, h.1.2.2, h.2.2, hchars.1, hchars.2⟩

/-- The components of a path have no slash, and no other character that it does
not have. -/
theorem chars_of_mem_components {path : String} (hpath : '\x00' ∉ path.toList) :
    ∀ c ∈ components path, '/' ∉ c.toList ∧ '\x00' ∉ c.toList := by
  intro c hc
  obtain ⟨piece, hpiece, rfl⟩ := List.mem_map.1 hc
  rw [String.toList_ofList]
  exact ⟨Text.sep_notMem_of_mem_splitOnChar hpiece,
    fun hnul => hpath (Text.mem_of_mem_splitOnChar hpiece hnul)⟩

/-- A path begins at a place. -/
theorem IsPlace.origin (h : t.IsPlace current) (path : String) :
    t.IsPlace (origin current path) := by
  unfold FileTree.origin
  split
  · exact isPlace_root t
  · exact h

/-- Steps lead from places to places. -/
theorem IsPlace.step {slash : Bool} {next : List String} (h : t.IsPlace place)
    (hc : '/' ∉ c.toList ∧ '\x00' ∉ c.toList) (hstep : t.step slash place c = .ok (.to next)) :
    t.IsPlace next := by
  have hdirectory := isDirectory_of_step hstep
  obtain ⟨-, ⟨-, hto⟩ | ⟨-, hto⟩ | ⟨hnamed, harrival⟩⟩ := step_eq_ok_iff.1 hstep
  · rw [Step.to.inj hto]
    exact h
  · rw [Step.to.inj hto]
    exact h.of_prefix (List.dropLast_prefix place)
  · obtain rfl := eq_of_arrival harrival.symm
    exact h.append hdirectory (isName_of_isNamed hnamed hc) harrival.symm

/-- Ways from places are sound. -/
theorem isSound_of_leads {components : List String} (h : t.IsPlace place)
    (hcomponents : ∀ c ∈ components, '/' ∉ c.toList ∧ '\x00' ∉ c.toList)
    (hway : Leads t creating links place components target) : t.IsSound target := by
  induction hway with
  | here => exact h
  | step hstep _ ih =>
      obtain ⟨hc, hmore⟩ := List.forall_mem_cons.1 hcomponents
      exact ih (h.step hc hstep) hmore
  | @link _ _ _ _ path _ _ _ ih =>
      exact ih (h.origin path.text) (List.forall_mem_append.2
        ⟨chars_of_mem_components path.no_nul, (List.forall_mem_cons.1 hcomponents).2⟩)
  | missing _ hstep =>
      obtain ⟨hnamed, -, harrival⟩ := isNamed_of_step hstep nofun
      exact ⟨⟨h, isDirectory_of_step hstep⟩,
        isName_of_isNamed hnamed (List.forall_mem_cons.1 hcomponents).1,
        arrival_eq_missing_iff.1 harrival⟩

/-- A name that is no link and has no slash behind it is walked through where one
may look it up. -/
theorem leads_cons_iff {more : List String} (h : t.IsPlace (place ++ [c]))
    (hslash : isSlashed more = false) :
    Leads t creating links place (c :: more) target
      ↔ t.refusal? place .search = none ∧ Leads t creating links (place ++ [c]) more target := by
  have hc := h.isName c (by simp)
  have hdirectory : t.entry? place = some .directory :=
    h.isDirectory place (List.prefix_append place [c]) (append_singleton_ne place c)
  have hnamed : IsNamed (creating && isSlashed more) c := by
    rw [hslash, Bool.and_false]
    exact ⟨⟨hc.ne_empty, hc.ne_dot, hc.ne_dots⟩, rfl, hc.not_long⟩
  have hstep : t.refusal? place .search = none →
      t.step (creating && isSlashed more) place c = .ok (.to (place ++ [c])) := by
    intro hsearch
    exact step_eq_ok_iff.2 ⟨obstacle?_eq_none_iff.2 ⟨hdirectory, fun _ => hsearch⟩,
      .inr (.inr ⟨hnamed, h.arrival.symm⟩)⟩
  have hsearch : ∀ {slash : Bool} {s : Step}, t.step slash place c = .ok s →
      t.refusal? place .search = none := by
    intro slash s hs
    exact (obstacle?_eq_none_iff.1 (step_eq_ok_iff.1 hs).1).2 hc.ne_empty
  constructor
  · intro hway
    cases hway with
    | step hs hmore =>
        refine ⟨hsearch hs, ?_⟩
        rwa [Step.to.inj (Except.ok.inj ((hstep (hsearch hs)).symm.trans hs))]
    | link hs hmore =>
        cases (hstep (hsearch hs)).symm.trans hs
    | missing _ hs =>
        cases (step_of_slash (hstep (hsearch hs))).symm.trans hs
  · rintro ⟨hsearch, hmore⟩
    exact .step (hstep hsearch) hmore

theorem isSlashed_cons {more : List String} (hc : c ≠ "") : isSlashed (c :: more) = false := by
  simp [isSlashed, hc]

/-- The names on the way to a place are walked through from the root where all
directories above the place may be searched. -/
theorem leads_root_iff {more : List String} (h : t.IsPlace place)
    (hslash : isSlashed more = false) :
    Leads t creating links [] (place ++ more) target
      ↔ t.IsReachable place ∧ Leads t creating links place more target := by
  induction place using List.reverseRecOn generalizing more with
  | nil =>
      refine (and_iff_right ?_).symm
      exact fun above habove hne => absurd (List.prefix_nil.1 habove) hne
  | append_singleton place c ih =>
      have hc := h.isName c (by simp)
      rw [List.append_assoc, List.singleton_append,
        ih (h.of_prefix (List.prefix_append place [c])) (isSlashed_cons hc.ne_empty),
        leads_cons_iff h hslash, isReachable_append_iff, and_assoc]

/-- Whatever stands before an empty last component is a directory. -/
theorem isDirectory_of_leads {components final : List String}
    (h : Leads t false links place (components ++ [""]) (.place final)) :
    t.entry? final = some .directory := by
  generalize hslashed : components ++ [""] = slashed at h
  generalize htarget : Target.place final = target at h
  induction h generalizing components with
  | here => cases List.append_ne_nil_of_right_ne_nil components (List.cons_ne_nil "" []) hslashed
  | @step _ _ _ more c _ hstep hmore ih =>
      cases components with
      | cons d components => exact ih (List.cons.inj hslashed).2 htarget
      | nil =>
          obtain ⟨rfl, rfl⟩ := List.cons.inj hslashed
          cases hmore
          cases htarget
          obtain ⟨-, ⟨-, hto⟩ | ⟨hdots, -⟩ | ⟨hnamed, -⟩⟩ := step_eq_ok_iff.1 hstep
          · rw [Step.to.inj hto]
            exact isDirectory_of_step hstep
          · exact absurd hdots (by decide)
          · exact absurd rfl hnamed.1.1
  | @link _ _ more c path _ hstep hmore ih =>
      cases components with
      | cons d components =>
          obtain ⟨-, rfl⟩ := List.cons.inj hslashed
          exact @ih (FileTree.components path.text ++ components) (List.append_assoc _ _ _) htarget
      | nil =>
          obtain ⟨rfl, -⟩ := List.cons.inj hslashed
          exact absurd rfl (isNamed_of_step hstep nofun).1.1.1
  | missing => cases htarget

-- ======================================================== whole paths

/-- What a path leads to is what its components lead to. -/
theorem target_eq_ok_iff {path : String} :
    t.target creating current path = .ok target
      ↔ ('\x00' ∉ path.toList ∧ path ≠ "" ∧ path.utf8ByteSize ≤ maxPathBytes)
        ∧ Leads t creating maxLinks (origin current path) (components path) target := by
  unfold FileTree.target
  split
  next hnul => exact iff_of_false nofun fun h => h.1.1 (List.contains_iff_mem.1 hnul)
  next hnul =>
  split
  next hempty => exact iff_of_false nofun fun h => h.1.2.1 hempty
  next hempty =>
  split
  next hlong => exact iff_of_false nofun fun h => absurd h.1.2.2 (Nat.not_le.2 hlong)
  next hlong =>
    rw [walk_eq_ok_iff]
    exact (and_iff_right
      ⟨mt List.contains_iff_mem.2 hnul, hempty, Nat.not_lt.1 hlong⟩).symm

/-- What a path leads to is sound. -/
theorem isSound_of_target {path : String} (h : t.IsPlace current)
    (hpath : t.target creating current path = .ok target) : t.IsSound target :=
  have hway := target_eq_ok_iff.1 hpath
  isSound_of_leads (h.origin path) (chars_of_mem_components hway.1.1) hway.2

theorem resolve_eq_ok_iff {path : String} :
    t.resolve current path = .ok place ↔ t.target false current path = .ok (.place place) := by
  unfold resolve
  cases t.target false current path with
  | error e => exact iff_of_false nofun nofun
  | ok target =>
      cases target with
      | missing dir name => exact iff_of_false nofun nofun
      | place other =>
          show Except.ok other = .ok place ↔ _
          rw [Except.ok.injEq, Except.ok.injEq, Target.place.injEq]

/-- Where a path leads is a place. -/
theorem isPlace_of_resolve {path : String} (h : t.IsPlace current)
    (hpath : t.resolve current path = .ok place) : t.IsPlace place :=
  isSound_of_target h (resolve_eq_ok_iff.1 hpath)

theorem toList_pathText (hne : place ≠ []) :
    (pathText place).toList = place.flatMap fun c => '/' :: c.toList := by
  have hplace : ¬ place.isEmpty = true := mt List.isEmpty_iff.1 hne
  rw [pathText, if_neg hplace, String.toList_join, List.flatMap_map]
  simp only [String.toList_append]
  rfl

theorem splitOnChar_append_flatMap (h : ∀ c ∈ place, '/' ∉ c.toList) (front : List Char) :
    Text.splitOnChar '/' (front ++ place.flatMap fun c => '/' :: c.toList)
      = Text.splitOnChar '/' front ++ place.map String.toList := by
  induction place generalizing front with
  | nil => rw [List.flatMap_nil, List.append_nil, List.map_nil, List.append_nil]
  | cons c more ih =>
      obtain ⟨hc, hmore⟩ := List.forall_mem_cons.1 h
      have hfront := ih hmore (front ++ '/' :: c.toList)
      rw [Text.splitOnChar_append_cons, Text.splitOnChar_of_notMem hc] at hfront
      rw [List.flatMap_cons, ← List.append_assoc, hfront, List.append_assoc]
      rfl

theorem components_pathText (hne : place ≠ []) (h : ∀ c ∈ place, '/' ∉ c.toList) :
    components (pathText place) = "" :: place := by
  have hpieces := splitOnChar_append_flatMap h []
  rw [List.nil_append] at hpieces
  rw [components, toList_pathText hne, hpieces, List.map_append, List.map_map]
  have hsame : String.ofList ∘ String.toList = id := funext fun _ => String.ofList_toList
  rw [hsame, List.map_id]
  rfl

/-- An absolute path begins at the root. -/
theorem exists_toList_pathText (place : List String) : ∃ r, (pathText place).toList = '/' :: r := by
  cases place with
  | nil => exact ⟨[], rfl⟩
  | cons c more =>
      refine ⟨c.toList ++ more.flatMap fun c => '/' :: c.toList, ?_⟩
      rw [toList_pathText (List.cons_ne_nil c more)]
      rfl

/-- An absolute path is walked from the root, wherever that is done, unless it is
too long. -/
theorem target_pathText (h : ∀ c ∈ place, IsName c) (hne : place ≠ []) (current : List String) :
    t.target creating current (pathText place)
      = if maxPathBytes < (pathText place).utf8ByteSize then .error .nameTooLong
        else t.walk creating maxLinks [] place := by
  obtain ⟨r, htext⟩ := exists_toList_pathText place
  have hnul : ¬ (pathText place).toList.contains '\x00' = true := by
    rw [List.contains_iff_mem, toList_pathText hne, List.mem_flatMap]
    rintro ⟨c, hc, hmem⟩
    exact (h c hc).no_nul ((List.mem_cons.1 hmem).resolve_left (by decide))
  have hempty : pathText place ≠ "" := by
    intro hempty
    rw [hempty] at htext
    cases htext
  have hroot : origin current (pathText place) = [] := by
    rw [origin, htext]
    rfl
  have hcomponents := components_pathText hne fun c hc => (h c hc).no_slash
  have hfirst : t.step (creating && isSlashed place) [] "" = .ok (.to []) :=
    step_eq_ok_iff.2 ⟨obstacle?_eq_none_iff.2 ⟨rfl, absurd rfl⟩, .inl ⟨.inl rfl, rfl⟩⟩
  rw [FileTree.target, if_neg hnul, if_neg hempty, hroot, hcomponents, walk_cons, hfirst]

/-- The absolute path of a place leads there from anywhere. -/
theorem resolve_pathText (h : t.IsPlace place) (hne : place ≠ [])
    (hlong : (pathText place).utf8ByteSize ≤ maxPathBytes) (hreach : t.IsReachable place)
    (current : List String) : t.resolve current (pathText place) = .ok place := by
  have hway : Leads t false maxLinks [] (place ++ []) (.place place) :=
    (leads_root_iff h rfl).2 ⟨hreach, .here _ _⟩
  rw [List.append_nil] at hway
  rw [resolve_eq_ok_iff, target_pathText h.isName hne, if_neg (Nat.not_lt.2 hlong),
    walk_eq_ok_iff.2 hway]

/-- A slash at the end of a path asks for a directory. -/
theorem isDirectory_of_resolve_slash {path : String}
    (h : t.resolve current (path ++ "/") = .ok place) : t.entry? place = some .directory := by
  have hcomponents : components (path ++ "/") = components path ++ [""] := by
    have hpath : (path ++ "/").toList = path.toList ++ '/' :: [] := String.toList_append
    rw [components, hpath, Text.splitOnChar_append_cons, List.map_append]
    rfl
  have hway := (target_eq_ok_iff.1 (resolve_eq_ok_iff.1 h)).2
  rw [hcomponents] at hway
  exact isDirectory_of_leads hway

/-- No text is read through one. -/
theorem readText_slash (t : FileTree) (current : List String) (path s : String) :
    t.readText current (path ++ "/") ≠ .ok s := by
  intro h
  obtain ⟨place, hplace, h⟩ := bind_eq_ok_iff.1 h
  rw [readPlace, isDirectory_of_resolve_slash hplace] at h
  cases hrefusal : t.refusal? place .read with
  | none =>
      rw [hrefusal] at h
      cases h
  | some reason =>
      rw [hrefusal] at h
      cases h

end Marginalia.FileTree
