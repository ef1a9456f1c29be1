/-
Pages named by paths. A page that is a file is given the URL of its place, and
whoever fetches that URL reads the file again, whatever characters its path has
(`page_found_iff`). It goes wrong where the path looks like a drive: a path that
ends in a letter and a colon or bar is read with a slash behind it, which no file
has, and a letter and a bar at the root are read as a letter and a colon. Nor has
a page a URL if the absolute path of something on the way to it is too long.
-/
import Marginalia.Local
import Marginalia.Proofs.FileTree.Canonical
import Marginalia.Proofs.Url.FilePath

namespace Marginalia.Local

open FileTree

variable {t : FileTree} {current place : List String} {target s : String}

-- ============================================================== URLs

theorem scheme_ofFilePath (place : List String) : (Url.ofFilePath place).scheme = "file" := rfl

/-- A page has the URL of a page. -/
theorem scheme_mem_of_pageUrl {u : Url} (h : pageUrl t current target = .ok u) :
    u.scheme ∈ pageSchemes := by
  unfold pageUrl at h
  split at h
  next url hurl =>
    rw [Option.filter_eq_some_iff, List.contains_iff_mem] at hurl
    rw [← Except.ok.inj h]
    exact hurl.2
  · split at h
    · rw [← Except.ok.inj h, scheme_ofFilePath]
      decide
    · cases h

/-- What is not the URL of a page is looked for as a path. -/
theorem pageUrl_eq (hlocal : ∀ u, Url.parse? target = some u → u.scheme ∉ pageSchemes) :
    pageUrl t current target
      = ((t.canonicalize current target).map Url.ofFilePath).mapError (.notFound target) := by
  have hnone : ((Url.parse? target).filter fun u => pageSchemes.contains u.scheme) = none := by
    rw [Option.filter_eq_none_iff]
    intro u hu
    rw [List.contains_iff_mem]
    exact hlocal u hu
  rw [pageUrl, hnone]
  dsimp only
  cases t.canonicalize current target with
  | ok place => rfl
  | error e => rfl

/-- A page has a URL where its path can be followed name by name. -/
theorem pageUrl_eq_ok_iff (hlocal : ∀ u, Url.parse? target = some u → u.scheme ∉ pageSchemes)
    (h : t.IsPlace current) (hplace : t.resolve current target = .ok place) {u : Url} :
    pageUrl t current target = .ok u
      ↔ (∀ a ∈ t.asked current target, t.CanAsk a) ∧ u = Url.ofFilePath place := by
  have hfound : ∀ found, t.canonicalize current target = .ok found
      ↔ (∀ a ∈ t.asked current target, t.CanAsk a) ∧ found = place :=
    fun found => canonicalize_eq_ok_iff h hplace
  rw [pageUrl_eq hlocal, mapError_eq_ok_iff]
  cases hresult : t.canonicalize current target with
  | error e =>
      refine iff_of_false nofun fun hasked => ?_
      cases hresult.symm.trans ((hfound place).2 ⟨hasked.1, rfl⟩)
  | ok found =>
      obtain ⟨hasked, rfl⟩ := (hfound found).1 hresult
      rw [and_iff_right hasked]
      show Except.ok (Url.ofFilePath found) = .ok u ↔ _
      rw [Except.ok.injEq, eq_comm]

-- =========================================================== reading

/-- The path that the URL of a place is read as. -/
def pathRead (place : List String) : String :=
  let path := pathText (Url.respelled place)
  if Url.endsInDrive path.toList then path ++ "/" else path

/-- Fetching the URL of a place reads a file. -/
theorem fetch_ofFilePath (send : Url → Except RequestFailure Response) (hne : place ≠ [])
    (h : ∀ name ∈ place, Url.LeadsOn name) :
    fetch t send (Url.ofFilePath place).text
      = (t.readText [] (pathRead place)).mapError (.unreadable (pathRead place)) := by
  have hrespelled : Url.respelled place ≠ [] := by
    obtain ⟨name, more, rfl⟩ := List.exists_cons_of_ne_nil hne
    exact List.cons_ne_nil _ _
  have hbytes : (Url.ofFilePath (Url.respelled place)).filePathBytes?
      = some (Url.textBytes (pathRead place).toList) :=
    Url.filePathBytes?_ofFilePath hrespelled
  rw [fetch, Url.parse?_text_ofFilePath hne h]
  dsimp only
  rw [if_pos (scheme_ofFilePath _), hbytes]
  dsimp only
  rw [readBytes, Url.ofBytes?_textBytes, Url.shownBytes_textBytes, String.ofList_toList]

theorem leadsOn_of_isPlace (h : t.IsPlace place) : ∀ name ∈ place, Url.LeadsOn name :=
  fun name hname =>
    have hname := h.isName name hname
    ⟨hname.ne_empty, hname.ne_dot, hname.ne_dots⟩

theorem readPlace_eq_ok_iff :
    t.readPlace place = .ok s
      ↔ t.refusal? place .read = none ∧ t.entry? place = some (.file (.text s)) := by
  unfold readPlace
  cases t.refusal? place .read with
  | some reason => exact iff_of_false nofun nofun
  | none =>
      cases t.entry? place with
      | none => exact iff_of_false nofun nofun
      | some e =>
          cases e with
          | directory => exact iff_of_false nofun nofun
          | link path => exact iff_of_false nofun nofun
          | file content =>
              cases content with
              | bytes b => exact iff_of_false nofun nofun
              | text text =>
                  show Except.ok text = Except.ok s ↔ _
                  simp

/-- A file is fetched through the URL of its place unless its path is taken for a
drive's. -/
theorem fetch_ofFilePath_eq_ok_iff (send : Url → Except RequestFailure Response)
    (h : t.IsPlace place) (hread : t.readPlace place = .ok s) (hask : t.CanAsk ⟨place, false⟩) :
    fetch t send (Url.ofFilePath place).text = .ok s
      ↔ Url.endsInDrive (pathText (Url.respelled place)).toList = false
        ∧ (Url.respelled place = place
          ∨ t.readText [] (pathText (Url.respelled place)) = .ok s) := by
  have hne : place ≠ [] := by
    rintro rfl
    cases (readPlace_eq_ok_iff.1 hread).2
  rw [fetch_ofFilePath send hne (leadsOn_of_isPlace h), mapError_eq_ok_iff, pathRead]
  split
  next hdrive =>
    refine iff_of_false (readText_slash t [] _ s) fun hread => ?_
    rw [hdrive] at hread
    cases hread.1
  next hdrive =>
    rw [and_iff_right (Bool.eq_false_iff.2 hdrive)]
    refine (or_iff_right_of_imp fun hsame => ?_).symm
    rw [hsame, readText, resolve_pathText h hne hask.1 hask.2]
    exact hread

/-- What is named as a page and is a text file is found again through the URL that
it is given, exactly if everything that is asked for on the way to it has an
absolute path that is not too long and can be reached, and its own is not taken for
a drive's: it must not end in a letter and a colon or bar, nor begin with a
component of a letter and a bar (unless the same text stands where the letter is
followed by a colon). No page has a URL of another scheme than those of pages. -/
theorem page_found_iff (t : FileTree) (current : List String)
    (send : Url → Except RequestFailure Response) (target : String) :
    (∀ u, pageUrl t current target = .ok u → u.scheme ∈ ["http", "https", "file"])
      ∧ ∀ s, t.IsPlace current →
          (∀ u, Url.parse? target = some u → u.scheme ∉ ["http", "https", "file"]) →
          t.readText current target = .ok s →
          ∃ place, t.resolve current target = .ok place
            ∧ ((∃ u, pageUrl t current target = .ok u ∧ u.scheme = "file"
                  ∧ fetch t send u.text = .ok s)
                ↔ (∀ a ∈ t.asked current target, t.CanAsk a)
                  ∧ Url.endsInDrive (pathText (Url.respelled place)).toList = false
                  ∧ (Url.respelled place = place
                    ∨ t.readText [] (pathText (Url.respelled place)) = .ok s)) := by
  refine ⟨fun u => scheme_mem_of_pageUrl, fun s hcurrent hlocal hread => ?_⟩
  obtain ⟨place, hplace, hread⟩ := bind_eq_ok_iff.1 hread
  have hisPlace := isPlace_of_resolve hcurrent hplace
  have hfile : t.entry? place ≠ some .directory := by
    rw [(readPlace_eq_ok_iff.1 hread).2]
    nofun
  have hurl := fun u => pageUrl_eq_ok_iff (u := u) hlocal hcurrent hplace
  have hfetch := fun hasked : ∀ a ∈ t.asked current target, t.CanAsk a =>
    fetch_ofFilePath_eq_ok_iff send hisPlace hread
      (canAsk_of_forall_asked hcurrent hplace hfile hasked)
  refine ⟨place, hplace, ?_⟩
  constructor
  · rintro ⟨u, hu, -, hfound⟩
    obtain ⟨hasked, rfl⟩ := (hurl u).1 hu
    exact ⟨hasked, (hfetch hasked).1 hfound⟩
  · rintro ⟨hasked, hdrive⟩
    exact ⟨_, (hurl _).2 ⟨hasked, rfl⟩, scheme_ofFilePath place, (hfetch hasked).2 hdrive⟩

/-- A directory with a page whose path needs to be encoded. -/
def oddlyNamed : FileTree :=
  { entries :=
      [(["my docs"], .directory),
       (["my docs", "100% \"what?\" #1 \\ é:b.html"], .file (.text "x"))] }

/-- A request that nothing answers. -/
def unanswered (u : Url) : Except RequestFailure Response :=
  .error ⟨"error sending request for url (" ++ u.text ++ ")", []⟩

theorem oddlyNamed_found :
    oddlyNamed.IsPlace []
      ∧ Url.parse? "my docs/./100% \"what?\" #1 \\ é:b.html" = none
      ∧ oddlyNamed.readText [] "my docs/./100% \"what?\" #1 \\ é:b.html" = .ok "x"
      ∧ ∃ u, pageUrl oddlyNamed [] "my docs/./100% \"what?\" #1 \\ é:b.html" = .ok u
        ∧ u.scheme = "file" ∧ fetch oddlyNamed unanswered u.text = .ok "x" := by
  have hparse : Url.parse? "my docs/./100% \"what?\" #1 \\ é:b.html" = none := by
    decide +kernel
  have hread : oddlyNamed.readText [] "my docs/./100% \"what?\" #1 \\ é:b.html" = .ok "x" :=
    eq_ok_of_toOption (by decide +kernel)
  have hresolve : oddlyNamed.resolve [] "my docs/./100% \"what?\" #1 \\ é:b.html"
      = .ok ["my docs", "100% \"what?\" #1 \\ é:b.html"] :=
    eq_ok_of_toOption (by decide +kernel)
  have hlengths : ∀ a ∈ oddlyNamed.asked [] "my docs/./100% \"what?\" #1 \\ é:b.html",
      (pathText a.place).utf8ByteSize + (if a.slash then 1 else 0) ≤ maxPathBytes := by
    decide +kernel
  obtain ⟨place, hplace, hfound⟩ := (page_found_iff oddlyNamed [] unanswered _).2 "x"
    (isPlace_root _) (by rw [hparse]; nofun) hread
  obtain rfl := Except.ok.inj (hresolve.symm.trans hplace)
  exact ⟨isPlace_root _, hparse, hread,
    hfound.2 ⟨fun a ha => ⟨hlengths a ha, isReachable_of_refusals rfl a.place⟩,
      by decide +kernel, .inl (by decide +kernel)⟩⟩

/-- A directory with a page whose name ends like a drive. -/
def namedLikeDrive : FileTree :=
  { entries := [(["page:"], .file (.text "<!--hello-->"))] }

/-- The page is there and has a URL, and is not found through it. -/
theorem page_like_drive_lost :
    namedLikeDrive.IsPlace [] ∧ Url.parse? "./page:" = none
      ∧ namedLikeDrive.readText [] "./page:" = .ok "<!--hello-->"
      ∧ ¬ ∃ u, pageUrl namedLikeDrive [] "./page:" = .ok u ∧ u.scheme = "file"
        ∧ fetch namedLikeDrive unanswered u.text = .ok "<!--hello-->" := by
  have hparse : Url.parse? "./page:" = none := by decide +kernel
  have hread : namedLikeDrive.readText [] "./page:" = .ok "<!--hello-->" :=
    eq_ok_of_toOption (by decide +kernel)
  have hurl : pageUrl namedLikeDrive [] "./page:" = .ok (Url.ofFilePath ["page:"]) :=
    eq_ok_of_toOption (by decide +kernel)
  have hfetch :
      (fetch namedLikeDrive unanswered (Url.ofFilePath ["page:"]).text).toOption = none := by
    decide +kernel
  refine ⟨isPlace_root _, hparse, hread, ?_⟩
  rintro ⟨u, hu, -, htext⟩
  obtain rfl := Except.ok.inj (hurl.symm.trans hu)
  rw [htext] at hfetch
  cases hfetch

end Marginalia.Local
