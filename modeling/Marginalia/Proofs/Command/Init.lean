/-
A configuration file for a directory. The command writes the standard settings
into the directory it runs in, unless something has the name of the file
already, and from then on they count there and in everything below that has no
settings of its own in between (`init_governs_subtree`). Running it again
changes nothing.

# What has to fit together

What is written has to be what is read: the settings as they are printed come
back (Config/RoundTrip.lean), and they keep the rules. It has to be written
where the search looks: the search works on paths as text, and climbing from
the path of a place goes through the paths of the places above it
(FileTree/Absolute.lean), so that the first directory with something of either
name on the way up is the one the file was written into (`find?_pathText`).

# Where nothing can be written

A path of more than 4095 bytes cannot be followed, and no file written under
one. A directory has a path that is shorter than those of its files, so it can
be entered and have no room for a configuration file; the command says so then
and changes nothing (`init_deep_and_linked`). The same goes for a directory that
may not be written to, or not be searched. Where there is no room left for the
text itself, the command fails with the file half written.

# Links

A link of the name that leads nowhere is not taken for a configuration file. It is
written through, and what is made is the file that it leads to
(FileTree/Writing.lean). The settings are found by the name of the link then.
-/
import Marginalia.Command
import Marginalia.Proofs.Config.Nearest
import Marginalia.Proofs.Config.RoundTrip
import Marginalia.Proofs.FileTree.Writing
import Marginalia.Proofs.Local.Pages

namespace Marginalia

namespace Config

open FileTree (IsName pathText)

variable {t : FileTree} {dir below current : List String}

-- ============================================================= finding

theorem isName_fileName : IsName fileName :=
  ⟨by decide, by decide, by decide, by decide, by decide, by decide⟩

theorem isName_boundaryName : IsName boundaryName :=
  ⟨by decide, by decide, by decide, by decide, by decide, by decide⟩

/-- Whether no directory below one, on the way down to another, has a
configuration file or ends a search. -/
def IsOpen (t : FileTree) (dir below : List String) : Prop :=
  ∀ above, above ≠ [] → above <+: below →
    t.entry? (dir ++ above ++ [fileName]) = none
      ∧ t.entry? (dir ++ above ++ [boundaryName]) = none

/-- From below, the search finds the file of a directory. -/
theorem find?_pathText (hbelow : t.IsPlace (dir ++ below))
    (hfile : t.pathExists current (pathText (dir ++ [fileName])) = true)
    (hopen : IsOpen t dir below) :
    find? t current (pathText (dir ++ below))
      = some (pathText (dir ++ [fileName])) := by
  have hdir : t.IsPlace dir := hbelow.of_prefix (List.prefix_append dir below)
  have hjoin : PathText.join (pathText dir) fileName
      = pathText (dir ++ [fileName]) :=
    FileTree.join_pathText hdir.isName isName_fileName.no_slash
  have hhere := FileTree.getElem?_ancestors_append hbelow.isName (le_refl below.length)
  rw [Nat.sub_self, List.take_zero, List.append_nil] at hhere
  refine findIn_eq_some_iff.2 ⟨below.length, _, ⟨⟨_, hhere, ?_⟩, ?_⟩, hhere, hjoin.symm⟩
  · rw [HasFile, hjoin]
    exact hfile
  · -- on the way, what could be found has the path of nothing
    intro j hj path hpath
    rw [FileTree.getElem?_ancestors_append hbelow.isName hj.le] at hpath
    obtain rfl := Option.some.inj hpath
    have habove : below.take (below.length - j) ≠ [] := by
      intro hnil
      have hlength := congrArg List.length hnil
      rw [List.length_take, List.length_nil] at hlength
      omega
    have hprefix : below.take (below.length - j) <+: below := List.take_prefix _ _
    have hplace := hbelow.of_prefix ((List.prefix_append_right_inj dir).2 hprefix)
    obtain ⟨hfile, hboundary⟩ := hopen _ habove hprefix
    rw [HasFile, IsBoundary,
      FileTree.pathExists_join_eq_false hplace isName_fileName hfile,
      FileTree.pathExists_join_eq_false hplace isName_boundaryName hboundary]
    exact ⟨Bool.false_ne_true, Bool.false_ne_true⟩

/-- Standard settings that were written are loaded from below. -/
theorem load_standardText
    (hread : t.readText current (pathText (dir ++ [fileName])) = .ok standardText)
    (hbelow : t.IsPlace (dir ++ below)) (hopen : IsOpen t dir below) :
    load t current (pathText (dir ++ below)) = .ok ⟨standard, true⟩ := by
  have hexists : t.pathExists current (pathText (dir ++ [fileName])) = true := by
    obtain ⟨place, hplace, -⟩ := bind_eq_ok_iff.1 hread
    exact FileTree.pathExists_eq_true_iff.2 ⟨place, hplace⟩
  rw [load_of_some (find?_pathText hbelow hexists hopen), loadFile_eq_ok_iff]
  exact ⟨rfl, standardText, hread, ofText_pretty (by decide), validate_standard⟩

end Config

namespace Command

open FileTree (pathText maxPathBytes)

section

variable {t t' : FileTree} {dir : List String} (network : Local.Network) (colour : Bool)

-- ============================================================= running

theorem join_fileName (hplace : t.IsPlace dir) :
    PathText.join (pathText dir) Config.fileName = pathText (dir ++ [Config.fileName]) :=
  FileTree.join_pathText hplace.isName Config.isName_fileName.no_slash

/-- What is found under the name of the file is kept. -/
theorem runInit_of_exists (hplace : t.IsPlace dir)
    (hexists : t.pathExists dir (pathText (dir ++ [Config.fileName])) = true) :
    runInit ⟨t, dir, network, colour⟩
      = { status := .failed
          stderr := "Error: " ++ Config.fileName ++ " already exists\n"
          tree := t } := by
  unfold runInit
  dsimp only
  rw [join_fileName hplace, if_pos hexists]

/-- Otherwise what comes of it is what comes of writing. -/
theorem runInit_of_error {e : FileError} (hplace : t.IsPlace dir)
    (hexists : t.pathExists dir (pathText (dir ++ [Config.fileName])) = false)
    (hwrite : t.writeFile dir (pathText (dir ++ [Config.fileName])) Config.standardText
      = (t', some e)) :
    runInit ⟨t, dir, network, colour⟩
      = { status := .failed
          error := some (.unwritable (pathText (dir ++ [Config.fileName])) e)
          tree := t' } := by
  unfold runInit
  dsimp only
  rw [join_fileName hplace, if_neg (Bool.eq_false_iff.1 hexists), hwrite]

theorem runInit_of_written (hplace : t.IsPlace dir)
    (hexists : t.pathExists dir (pathText (dir ++ [Config.fileName])) = false)
    (hwrite : t.writeFile dir (pathText (dir ++ [Config.fileName])) Config.standardText
      = (t', none)) :
    (runInit ⟨t, dir, network, colour⟩).status = .clean
      ∧ (runInit ⟨t, dir, network, colour⟩).tree = t' := by
  unfold runInit
  dsimp only
  rw [join_fileName hplace, if_neg (Bool.eq_false_iff.1 hexists), hwrite]
  exact ⟨rfl, rfl⟩

/-- Where nothing can be made, nothing is changed. -/
theorem runInit_of_not_canMake (hplace : t.IsPlace dir)
    (hmake : ∀ made, ¬ t.CanMake dir (pathText (dir ++ [Config.fileName])) made) :
    (runInit ⟨t, dir, network, colour⟩).status = .failed
      ∧ (runInit ⟨t, dir, network, colour⟩).tree = t := by
  cases hexists : t.pathExists dir (pathText (dir ++ [Config.fileName])) with
  | true =>
      rw [runInit_of_exists network colour hplace hexists]
      exact ⟨rfl, rfl⟩
  | false =>
      obtain ⟨e, hwrite⟩ := FileTree.exists_writeFile_eq hexists hmake Config.standardText
      rw [runInit_of_error network colour hplace hexists hwrite]
      exact ⟨rfl, rfl⟩

/-- What has the name of the file is kept, unless it is a link that leads
nowhere. -/
theorem runInit_kept (hplace : t.IsPlace dir)
    (hkept : (∃ e, t.entry? (dir ++ [Config.fileName]) = some e ∧ ∀ path, e ≠ .link path)
      ∨ t.pathExists dir (pathText (dir ++ [Config.fileName])) = true) :
    (runInit ⟨t, dir, network, colour⟩).status = .failed
      ∧ (runInit ⟨t, dir, network, colour⟩).tree = t := by
  refine runInit_of_not_canMake network colour hplace fun made hmake => ?_
  rcases hkept with ⟨e, hentry, hlink⟩ | hexists
  · refine FileTree.not_canMake_of_arrival hplace Config.isName_fileName ?_ hmake
    cases e with
    | directory => exact FileTree.arrival_of_isDirectory hentry
    | file content => exact FileTree.arrival_of_isFile hentry
    | link path => exact absurd rfl (hlink path)
  · rw [hmake.pathExists_eq_false] at hexists
    cases hexists

/-- What can be made is made, and holds the standard settings if there is room for
them. -/
theorem runInit_of_canMake {made : List String} (hplace : t.IsPlace dir)
    (hmake : t.CanMake dir (pathText (dir ++ [Config.fileName])) made)
    (hroom : t.HasRoom Config.standardText) :
    (runInit ⟨t, dir, network, colour⟩).status = .clean
      ∧ t.Makes made (.text Config.standardText) (runInit ⟨t, dir, network, colour⟩).tree := by
  obtain ⟨t', hfill, hmakes⟩ := FileTree.makes_fill (hmake.entry?_eq_none hplace) hroom
  obtain ⟨hstatus, htree⟩ := runInit_of_written network colour hplace
    hmake.pathExists_eq_false ((hmake.writeFile _).trans hfill)
  exact ⟨hstatus, htree ▸ hmakes⟩

/-- Once it is made it is kept, however often the command is run. -/
theorem iterate_runInit {made : List String} {content : Content} (hplace : t.IsPlace dir)
    (hmake : t.CanMake dir (pathText (dir ++ [Config.fileName])) made)
    (hmakes : t.Makes made content t') (n : Nat) :
    let again := (fun u => (runInit ⟨u, dir, network, colour⟩).tree)^[n] t'
    again = t' ∧ (runInit ⟨again, dir, network, colour⟩).status = .failed := by
  intro again
  have hexists : t'.pathExists dir (pathText (dir ++ [Config.fileName])) = true :=
    FileTree.pathExists_eq_true_iff.2 ⟨made, hmake.resolve hmakes⟩
  obtain ⟨hstatus, htree⟩ :=
    runInit_kept network colour (hplace.of_makes hmakes) (.inr hexists)
  -- the tree that the first run leaves is one that a run does not change
  have hagain : again = t' :=
    Function.iterate_fixed (f := fun u => (runInit ⟨u, dir, network, colour⟩).tree) htree n
  refine ⟨hagain, ?_⟩
  rw [hagain]
  exact hstatus

/-- And it counts, for the directory and for what is below. -/
theorem load_of_makes {made below current : List String} (hplace : t.IsPlace dir)
    (hmake : t.CanMake dir (pathText (dir ++ [Config.fileName])) made)
    (hmakes : t.Makes made (.text Config.standardText) t') (hbelow : t'.IsPlace (dir ++ below))
    (hopen : Config.IsOpen t' dir below) :
    Config.load t' current (pathText (dir ++ below)) = .ok ⟨Config.standard, true⟩ := by
  have hanywhere := hmake.of_pathText
    (hplace.forall_isName_append Config.isName_fileName) (by simp) current
  exact Config.load_standardText (hanywhere.readText hmakes) hbelow hopen

end

-- =============================================================== main

/-- The command never overwrites anything, and what it writes counts for the
whole subtree. What has the name of the file is kept, unless it is a link that
leads nowhere: the command fails then and changes nothing. Where no file can be made
it fails as well, changes nothing, and tells that it is the file that cannot be
written. If nothing has the name, a file can be made exactly if its path is not
too long to be followed, the directories above it may be searched and the directory
written to; it is the file of the name then, and what is missing is told otherwise.
What a link leads to is made in its place.

Where a file can be made and there is room for the settings, the command succeeds and
adds the file and nothing else; from then on the standard settings are loaded from
there, for the directory and for everything below it with no configuration file and
no boundary in between, and however often the command is run again, it fails and
changes nothing. Without room for them it fails, and there is no more than a new file
either. -/
theorem init_governs_subtree (t : FileTree) (dir : List String) (network : Local.Network)
    (colour : Bool) (hplace : t.IsPlace dir) (hdirectory : t.entry? dir = some .directory) :
    let file := dir ++ [Config.fileName]
    let path := pathText file
    let init := fun u : FileTree => run ⟨u, dir, network, colour⟩ (some .init)
    let failsWith := fun e : FileError => (init t).status.code = 2
      ∧ (init t).error.map RunError.causes = some ["Failed to write " ++ path, e.message]
    ((∃ e, t.entry? file = some e ∧ ∀ link, e ≠ .link link) ∨ t.pathExists dir path = true →
        (init t).status.code = 2 ∧ (init t).tree = t)
      ∧ (t.pathExists dir path = false → (∀ made, ¬ t.CanMake dir path made) →
        (∃ e, failsWith e) ∧ (init t).tree = t)
      ∧ (t.entry? file = none → ∀ made, t.CanMake dir path made
          ↔ made = file ∧ path.utf8ByteSize ≤ maxPathBytes ∧ t.IsReachable file
            ∧ t.refusal? dir .write = none)
      ∧ (t.entry? file = none → maxPathBytes < path.utf8ByteSize →
        failsWith .nameTooLong ∧ (init t).tree = t)
      ∧ (t.entry? file = none → path.utf8ByteSize ≤ maxPathBytes → t.IsReachable file →
        ∀ reason, t.refusal? dir .write = some reason →
          failsWith (.refused reason) ∧ (init t).tree = t)
      ∧ ∀ made, t.CanMake dir path made →
        (t.HasRoom Config.standardText →
          (init t).status.code = 0
            ∧ t.Makes made (.text Config.standardText) (init t).tree
            ∧ (∀ below current, (init t).tree.IsPlace (dir ++ below) →
                Config.IsOpen (init t).tree dir below →
                Config.load (init t).tree current (pathText (dir ++ below))
                  = .ok ⟨Config.standard, true⟩)
            ∧ ∀ n, let again := (fun u => (init u).tree)^[n] (init t).tree
                again = (init t).tree ∧ (init again).status.code = 2)
        ∧ (¬ t.HasRoom Config.standardText →
          failsWith .noSpace ∧ ∃ content, t.Makes made content (init t).tree) := by
  intro file path init failsWith
  have hfails : ∀ {e t'}, t.pathExists dir path = false →
      t.writeFile dir path Config.standardText = (t', some e) →
      failsWith e ∧ (init t).tree = t' := by
    intro e t' hexists hwrite
    have hrun : init t = _ := runInit_of_error network colour hplace hexists hwrite
    show ((init t).status.code = 2 ∧ (init t).error.map RunError.causes = _) ∧ (init t).tree = t'
    rw [hrun]
    exact ⟨⟨rfl, rfl⟩, rfl⟩
  have hname := Config.isName_fileName
  have hnothing : t.entry? file = none → t.pathExists dir path = false := fun hentry =>
    FileTree.pathExists_pathText_eq_false hplace hname hentry dir
  refine ⟨fun hkept => ?_, fun hexists hmake => ?_,
    fun hentry made => FileTree.canMake_iff_of_none hplace hname hdirectory hentry,
    fun hentry hlong => ?_, fun hentry hlong hreach reason hreason => ?_,
    fun made hmake => ⟨fun hroom => ?_, fun hroom => ?_⟩⟩
  · obtain ⟨hstatus, htree⟩ := runInit_kept network colour hplace hkept
    exact ⟨congrArg ExitStatus.code hstatus, htree⟩
  · obtain ⟨e, hwrite⟩ := FileTree.exists_writeFile_eq hexists hmake Config.standardText
    obtain ⟨he, htree⟩ := hfails hexists hwrite
    exact ⟨⟨e, he⟩, htree⟩
  · exact hfails (hnothing hentry) (FileTree.writeFile_of_long hplace hname hlong _)
  · exact hfails (hnothing hentry)
      (FileTree.writeFile_of_refused hplace hname hdirectory hentry hlong hreach hreason _)
  · obtain ⟨hstatus, hmakes⟩ := runInit_of_canMake network colour hplace hmake hroom
    refine ⟨congrArg ExitStatus.code hstatus, hmakes,
      fun below current hbelow hopen => load_of_makes hplace hmake hmakes hbelow hopen,
      fun n => ?_⟩
    obtain ⟨hagain, hfailed⟩ := iterate_runInit network colour hplace hmake hmakes n
    exact ⟨hagain, congrArg ExitStatus.code hfailed⟩
  · obtain ⟨t', content, hfill, hmakes⟩ :=
      FileTree.makes_fill_of_not_hasRoom (hmake.entry?_eq_none hplace) hroom
    obtain ⟨he, htree⟩ := hfails hmake.pathExists_eq_false ((hmake.writeFile _).trans hfill)
    exact ⟨he, content, htree ▸ hmakes⟩

/-- A directory with a directory in it, and with one that ends every search. -/
def nested : FileTree :=
  { entries := [(["a"], .directory), (["a", "b"], .directory), (["a", ".git"], .directory)] }

/-- The settings are written beside what ends the search, and count below. -/
theorem init_governs_nested :
    let init := fun u : FileTree => run ⟨u, ["a"], fun _ => Local.unanswered, false⟩ (some .init)
    nested.IsPlace ["a"] ∧ nested.entry? ["a"] = some .directory
      ∧ (init nested).status.code = 0
      ∧ Config.load (init nested).tree [] "/a/b" = .ok ⟨Config.standard, true⟩
      ∧ (init (init (init nested).tree).tree).status.code = 2 := by
  intro init
  have ha : FileTree.IsName "a" :=
    ⟨by decide, by decide, by decide, by decide, by decide, by decide⟩
  have hb : FileTree.IsName "b" :=
    ⟨by decide, by decide, by decide, by decide, by decide, by decide⟩
  have hplace : nested.IsPlace ["a"] := (FileTree.isPlace_root nested).append rfl ha rfl
  obtain ⟨-, -, hnone, -, -, hinit⟩ :=
    init_governs_subtree nested ["a"] (fun _ => Local.unanswered) false hplace rfl
  have hmake := (hnone (by decide) _).2
    ⟨rfl, by decide, FileTree.isReachable_of_refusals rfl _, rfl⟩
  obtain ⟨hcode, hmakes, hload, hagain⟩ := (hinit _ hmake).1 nofun
  have hopen : Config.IsOpen (init nested).tree ["a"] ["b"] := by
    intro above hne habove
    obtain rfl : above = ["b"] := (List.prefix_concat_iff.1 habove).elim id fun h =>
      absurd (List.prefix_nil.1 h) hne
    rw [hmakes.entry?, hmakes.entry?]
    decide
  have hbelow : (init nested).tree.IsPlace (["a"] ++ ["b"]) :=
    (hplace.append rfl hb rfl).of_makes hmakes
  exact ⟨hplace, rfl, hcode, hload ["b"] [] hbelow hopen, (hagain 1).2⟩

/-- Directories on the way to a place, and the place itself. -/
def directories (place : List String) : FileTree :=
  { entries := place.inits.map fun above => (above, .directory) }

theorem entry?_directories (place above : List String) :
    FileTree.entry? (directories place) above
      = if above <+: place then some .directory else none := by
  unfold FileTree.entry? directories
  by_cases h : above <+: place
  · rw [if_pos h, List.lookup_graph _ ((List.mem_inits above place).2 h), ite_self]
  · have hne : ¬ above.isEmpty = true := by
      rw [List.isEmpty_iff]
      rintro rfl
      exact h (List.nil_prefix)
    rw [if_neg h, if_neg hne, List.lookup_eq_none_iff]
    intro p hp
    obtain ⟨other, hother, rfl⟩ := List.mem_map.1 hp
    apply bne_iff_ne.2
    rintro rfl
    exact h ((List.mem_inits _ place).1 hother)

theorem isPlace_directories {place : List String} (h : ∀ c ∈ place, FileTree.IsName c) :
    (directories place).IsPlace place where
  isName := h
  isDirectory above habove _ := (entry?_directories place above).trans (if_pos habove)
  arrival :=
    FileTree.arrival_of_isDirectory ((entry?_directories place place).trans (if_pos List.prefix_rfl))

/-- A place whose path can be followed, but none longer by a name of fifteen
letters. -/
def deep : List String :=
  List.replicate 16 (String.ofList (List.replicate 254 'a'))

/-- A link of the name of the file that leads nowhere. -/
def strayLink : FileTree :=
  { entries := [([Config.fileName], .link ⟨"shared.json", by decide⟩)] }

/-- In a directory as deep as that the command fails though nothing has the name
of the file; and it does not fail where a stray link has the name, but makes what the
link leads to. -/
theorem init_deep_and_linked :
    ((directories deep).IsPlace deep ∧ FileTree.entry? (directories deep) deep = some .directory
        ∧ (pathText deep).utf8ByteSize ≤ maxPathBytes
        ∧ FileTree.entry? (directories deep) (deep ++ [Config.fileName]) = none
        ∧ (run ⟨directories deep, deep, fun _ => Local.unanswered, false⟩
            (some .init)).status.code = 2)
      ∧ (let out := run ⟨strayLink, [], fun _ => Local.unanswered, false⟩ (some .init)
        (strayLink.entry? [Config.fileName]).isSome ∧ out.status.code = 0
          ∧ out.tree.entry? ["shared.json"] = some (.file (.text Config.standardText)))
      ∧ ¬ ∀ (t : FileTree) (dir : List String) (network : Local.Network) (colour : Bool),
        t.IsPlace dir → t.entry? dir = some .directory →
          (run ⟨t, dir, network, colour⟩ (some .init)).status.code
            = if (t.entry? (dir ++ [Config.fileName])).isSome then 2 else 0 := by
  have hname : ∀ c ∈ deep, FileTree.IsName c := by
    intro c hc
    have hletters : ∀ {a : Char}, a ≠ 'a' →
        a ∉ (String.ofList (List.replicate 254 'a')).toList := by
      intro a ha h
      rw [String.toList_ofList] at h
      exact ha (List.eq_of_mem_replicate h)
    rw [List.eq_of_mem_replicate hc]
    exact ⟨by decide +kernel, by decide +kernel, by decide +kernel, by decide +kernel,
      hletters (by decide), hletters (by decide)⟩
  have hplace := isPlace_directories hname
  have hdirectory : FileTree.entry? (directories deep) deep = some .directory := by
    rw [entry?_directories, if_pos List.prefix_rfl]
  have hentry : FileTree.entry? (directories deep) (deep ++ [Config.fileName]) = none := by
    rw [entry?_directories, if_neg]
    intro h
    have hlength := h.length_le
    rw [List.length_append, List.length_singleton] at hlength
    omega
  have hcode :
      (run ⟨directories deep, deep, fun _ => Local.unanswered, false⟩ (some .init)).status.code
        = 2 := by
    have hlong : maxPathBytes < (pathText (deep ++ [Config.fileName])).utf8ByteSize := by
      decide +kernel
    have hmake : ∀ made,
        ¬ (directories deep).CanMake deep (pathText (deep ++ [Config.fileName])) made := by
      intro made hmake
      have hshort := ((FileTree.canMake_iff_of_none hplace Config.isName_fileName hdirectory
        hentry).1 hmake).2.1
      exact hlong.not_ge hshort
    have hstatus := (runInit_of_not_canMake (fun _ => Local.unanswered) false hplace hmake).1
    exact congrArg ExitStatus.code hstatus
  refine ⟨⟨hplace, hdirectory, by decide +kernel, hentry, hcode⟩, by decide +kernel, fun h => ?_⟩
  rw [h _ _ _ _ hplace hdirectory, hentry] at hcode
  cases hcode

end Command

end Marginalia
