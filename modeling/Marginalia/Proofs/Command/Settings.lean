/-
The command line of a scan, with its settings in any order. What has been
given after some settings is known outright (`Given.ofSettings`): the kinds
in their order, and for every other sort the value of the one setting of
that sort. So the induction over a line does not follow the record from
step to step. It only needs that no setting but a kind comes twice
(`WellGiven`), which does not depend on the order, and this is how
`scan_arguments_read_back` comes to hold for all orders at once.

Behind the divider an argument is a value whatever it looks like. The page
stands there, so that it may be empty, begin with a dash or be the divider
itself.
-/
import Mathlib.Data.List.Perm.Basic
import Marginalia.Proofs.Command.Line

namespace Marginalia.Command

/-- A setting of a scan with its value. -/
inductive ScanSetting where
  | kind (kind : Kind)
  | noExternal
  | settleDelay (milliseconds : Nat)
  | format (format : Format)
  | verbose
deriving DecidableEq, Repr

namespace ScanSetting

/-- The setting without its value. -/
def setting : ScanSetting → Setting
  | kind _ => .kind
  | noExternal => .noExternal
  | settleDelay _ => .settleDelay
  | format _ => .format
  | verbose => .verbose

/-- How a setting is given on the command line. -/
def arguments : ScanSetting → List String
  | kind k => ["--kind", k.name]
  | noExternal => ["--no-external"]
  | settleDelay n => ["--settle-delay", toString n]
  | format f => ["--format", f.name]
  | verbose => ["-v"]

/-- The kind that is given, if it is one. -/
def kind? : ScanSetting → Option Kind
  | kind k => some k
  | _ => none

/-- The delay that is given, if it is one. -/
def delay? : ScanSetting → Option Nat
  | settleDelay n => some n
  | _ => none

/-- The format that is given, if it is one. -/
def format? : ScanSetting → Option Format
  | format f => some f
  | _ => none

/-- What becomes of what has been given with one more setting. -/
def accept (given : Given) : ScanSetting → Parsed Given
  | kind k => given.acceptSetting .kind k.name
  | noExternal => given.acceptFlag .noExternal
  | settleDelay n => given.acceptSetting .settleDelay (toString n)
  | format f => given.acceptSetting .format f.name
  | verbose => given.acceptFlag .verbose

end ScanSetting

/-- The settings other than kinds that ask for a scan. -/
def ScanRequest.otherSettings (r : ScanRequest) : List ScanSetting :=
  (if r.noExternal then [.noExternal] else []) ++ (if r.verbose then [.verbose] else [])
    ++ r.settleDelay.toList.map .settleDelay ++ [.format r.format]

/-- The settings that ask for a scan, each kind by one of its own. -/
def ScanRequest.settings (r : ScanRequest) : List ScanSetting :=
  r.kinds.map .kind ++ r.otherSettings

/-- What has been given with some settings. -/
def Given.ofSettings (settings : List ScanSetting) : Given where
  kinds := settings.filterMap ScanSetting.kind?
  noExternal := settings.contains .noExternal
  settleDelay := (settings.filterMap ScanSetting.delay?).head?
  format := (settings.filterMap ScanSetting.format?).head?
  verbose := settings.contains .verbose

/-- Settings that can be given together: only kinds are given more than
once, and numbers are not too great. -/
structure WellGiven (settings : List ScanSetting) : Prop where
  once : settings.Pairwise fun s t => s.setting = t.setting → s.setting = .kind
  bounded : ∀ n, .settleDelay n ∈ settings → n ≤ maxNumber

-- ============================================================= numbers

/-- A number is read back from its digits. -/
theorem parseNumber?_toString {n : Nat} (h : n ≤ maxNumber) :
    parseNumber? (toString n) = some n := by
  have hdigit : ∀ c ∈ Nat.toDigits 10 n, c.isDigit = true := fun c hc =>
    Nat.isDigit_of_mem_toDigits (by decide) (by decide) hc
  have hvalue : (Nat.toDigits 10 n).foldl (fun n c => 10 * n + (c.toNat - '0'.toNat)) 0 = n :=
    Nat.ofDigitChars_ten_toDigits
  unfold parseNumber?
  rw [Nat.toString_eq_ofList_toDigits, String.toList_ofList]
  cases hdigits : Nat.toDigits 10 n with
  | nil => exact absurd hdigits Nat.toDigits_ne_nil
  | cons d ds =>
      rw [hdigits] at hdigit hvalue
      have hsign : d ≠ '+' := by
        rintro rfl
        exact absurd (hdigit '+' List.mem_cons_self) (by decide)
      have hall : (d :: ds).all Char.isDigit = true := List.all_eq_true.2 hdigit
      dsimp only
      split
      · next heq => exact absurd (List.cons.inj heq).1 hsign
      · simp only [hall, hvalue, h, List.isEmpty_cons, Bool.not_true, Bool.or_self,
          Bool.false_eq_true, if_false, if_true]

/-- The text of a number is not taken for a setting. -/
theorem shape_toString (n : Nat) : Shape.of (toString n) = .plain := by
  unfold Shape.of
  rw [Nat.toString_eq_ofList_toDigits, String.toList_ofList]
  cases hdigits : Nat.toDigits 10 n with
  | nil => exact absurd hdigits Nat.toDigits_ne_nil
  | cons d ds =>
      have hdash : d ≠ '-' := by
        rintro rfl
        have hmem : '-' ∈ Nat.toDigits 10 n := by
          rw [hdigits]
          exact List.mem_cons_self
        exact absurd (Nat.isDigit_of_mem_toDigits (by decide) (by decide) hmem) (by decide)
      simp [hdash]

-- ========================================================= one setting

variable {r : Reader} {places : List Place} {given given' : Given}
  {done settings : List ScanSetting} {s : ScanSetting}

/-- A setting that is given as on the command line is taken up. -/
theorem Reader.Holds.scanSetting (hr : r.Holds places given) (s : ScanSetting)
    (haccept : s.accept given = .ok given') (more : List String) :
    ∃ r' : Reader, r'.Holds places given'
      ∧ r.readAll .scan (s.arguments ++ more) = r'.readAll .scan more := by
  cases s with
  | kind k =>
      have hshape : Shape.of k.name = .plain := by cases k <;> decide
      exact hr.setting .scan "--kind" "kind" (by decide) rfl rfl hshape haccept more
  | settleDelay n =>
      exact hr.setting .scan "--settle-delay" "settle-delay" (by decide) rfl rfl
        (shape_toString n) haccept more
  | format f =>
      have hshape : Shape.of f.name = .plain := by cases f <;> decide
      exact hr.setting .scan "--format" "format" (by decide) rfl rfl hshape haccept more
  | noExternal =>
      have hread : r.read .scan "--no-external" = r.raise .noExternal := by
        have hshape : Shape.of "--no-external" = .long "no-external" none := by decide
        rw [Reader.read, hr.literal, hshape]
        rfl
      exact hr.flag .scan "--no-external" hread haccept more
  | verbose =>
      have hread : r.read .scan "-v" = r.raise .verbose := by
        have hshape : Shape.of "-v" = .short ['v'] := by decide
        rw [Reader.read, hr.literal, hshape]
        show (r.raise .verbose >>= fun r => .ok r) = _
        cases r.raise .verbose <;> rfl
      exact hr.flag .scan "-v" hread haccept more

/-- No setting of the same sort stands before one that is not a kind. -/
theorem WellGiven.setting_ne (h : WellGiven (done ++ s :: settings)) (hs : s.setting ≠ .kind) :
    ∀ t ∈ done, t.setting ≠ s.setting := by
  intro t ht heq
  obtain ⟨-, -, hbetween⟩ := List.pairwise_append.1 h.once
  exact hs (heq ▸ hbetween t ht s List.mem_cons_self heq)

/-- A flag that is given now has not been given before. -/
theorem WellGiven.contains_eq_false (h : WellGiven (done ++ s :: settings))
    (hs : s.setting ≠ .kind) : done.contains s = false := by
  rw [List.contains_eq_mem, decide_eq_false_iff_not]
  exact fun hmem => h.setting_ne hs s hmem rfl

theorem delay?_of_ne {t : ScanSetting} (h : t.setting ≠ .settleDelay) : t.delay? = none := by
  cases t with
  | settleDelay n => exact absurd rfl h
  | _ => rfl

theorem format?_of_ne {t : ScanSetting} (h : t.setting ≠ .format) : t.format? = none := by
  cases t with
  | format f => exact absurd rfl h
  | _ => rfl

/-- A setting that may come next is accepted, and counts from then on. -/
theorem WellGiven.accept (h : WellGiven (done ++ s :: settings)) :
    s.accept (.ofSettings done) = .ok (.ofSettings (done ++ [s])) := by
  cases s with
  | kind k =>
      have hname : Kind.ofName? k.name = some k := by cases k <;> decide
      rw [ScanSetting.accept, Given.acceptSetting, hname]
      show Except.ok _ = _
      simp [Given.ofSettings, ScanSetting.kind?, ScanSetting.delay?, ScanSetting.format?]
  | noExternal =>
      have hfree : (Given.ofSettings done).noExternal = false := h.contains_eq_false (by decide)
      rw [ScanSetting.accept, Given.acceptFlag, hfree]
      show Except.ok _ = _
      simp [Given.ofSettings, ScanSetting.kind?, ScanSetting.delay?, ScanSetting.format?]
  | verbose =>
      have hfree : (Given.ofSettings done).verbose = false := h.contains_eq_false (by decide)
      rw [ScanSetting.accept, Given.acceptFlag, hfree]
      show Except.ok _ = _
      simp [Given.ofSettings, ScanSetting.kind?, ScanSetting.delay?, ScanSetting.format?]
  | settleDelay n =>
      have hothers := h.setting_ne (by simp [ScanSetting.setting])
      have hfree : done.filterMap ScanSetting.delay? = [] :=
        List.filterMap_eq_nil_iff.2 fun t ht => delay?_of_ne (hothers t ht)
      have hnumber := parseNumber?_toString (h.bounded n (by simp))
      have hnone : (Given.ofSettings done).settleDelay = none := by
        rw [Given.ofSettings, hfree]
        rfl
      rw [ScanSetting.accept, Given.acceptSetting, hnone, hnumber]
      show Except.ok _ = _
      simp [Given.ofSettings, ScanSetting.kind?, ScanSetting.delay?, ScanSetting.format?, hfree]
  | format f =>
      have hname : Format.ofName? f.name = some f := by cases f <;> decide
      have hothers := h.setting_ne (by simp [ScanSetting.setting])
      have hfree : done.filterMap ScanSetting.format? = [] :=
        List.filterMap_eq_nil_iff.2 fun t ht => format?_of_ne (hothers t ht)
      have hnone : (Given.ofSettings done).format = none := by
        rw [Given.ofSettings, hfree]
        rfl
      rw [ScanSetting.accept, Given.acceptSetting, hnone, hname]
      show Except.ok _ = _
      simp [Given.ofSettings, ScanSetting.kind?, ScanSetting.delay?, ScanSetting.format?, hfree]

-- ============================================================ the line

/-- After settings that can be given together, the reader holds what has
been given with all of them. -/
theorem Reader.Holds.scanSettings (hr : r.Holds places (.ofSettings done))
    (h : WellGiven (done ++ settings)) (more : List String) :
    ∃ r' : Reader, r'.Holds places (.ofSettings (done ++ settings))
      ∧ r.readAll .scan (settings.flatMap ScanSetting.arguments ++ more)
        = r'.readAll .scan more := by
  induction settings generalizing r done with
  | nil =>
      refine ⟨r, ?_, rfl⟩
      rw [List.append_nil]
      exact hr
  | cons s settings ih =>
      obtain ⟨r₁, hr₁, hread₁⟩ := hr.scanSetting s h.accept
        (settings.flatMap ScanSetting.arguments ++ more)
      rw [List.append_cons] at h
      obtain ⟨r₂, hr₂, hread₂⟩ := ih hr₁ h
      refine ⟨r₂, ?_, ?_⟩
      · rw [List.append_cons]
        exact hr₂
      · rw [List.flatMap_cons, List.append_assoc]
        exact hread₁.trans hread₂

/-- Looking at the value that waits has nothing to do with the places and the
divider. -/
theorem Reader.settle_divided (h : r.settle = .ok { given, places }) :
    r.places = places
      ∧ ({ r with literal := true } : Reader).settle
          = .ok { given, places, literal := true } := by
  obtain ⟨given₀, waiting, places₀, literal⟩ := r
  cases waiting with
  | none =>
      injection h with h
      injection h with hgiven _ hplaces _
      subst hgiven hplaces
      exact ⟨rfl, rfl⟩
  | some waiting =>
      unfold Reader.settle at h ⊢
      cases waiting with
      | setting s => cases h
      | settingValue s value =>
          dsimp only at h ⊢
          cases haccept : given₀.acceptSetting s value with
          | error e =>
              rw [haccept] at h
              cases h
          | ok given₁ =>
              rw [haccept] at h
              cases h
              exact ⟨rfl, rfl⟩
      | placeValue p value =>
          dsimp only at h ⊢
          cases haccept : given₀.acceptPlace p value with
          | error e =>
              rw [haccept] at h
              cases h
          | ok given₁ =>
              rw [haccept] at h
              cases h
              exact ⟨rfl, rfl⟩

/-- Behind the divider an argument is the value for the next place, whatever
it looks like. -/
theorem Reader.Holds.divided {p : Place} (hr : r.Holds [p] given) (form : Form) (value : String)
    (haccept : given.acceptPlace p value = .ok given') :
    (r.readAll form ["--", value] >>= Reader.settle)
      = .ok { given := given', places := [], literal := true } := by
  obtain ⟨hplaces, hsettle⟩ := Reader.settle_divided hr.settle
  have hdivider : r.read form "--" = .ok { r with literal := true } := by
    have hshape : Shape.of "--" = .divider := by decide
    rw [Reader.read, hr.literal, hshape]
    rfl
  have hvalue : ({ r with literal := true } : Reader).readValue value
      = .ok { given, waiting := some (.placeValue p value), places := [], literal := true } := by
    obtain ⟨given₀, waiting, places₀, literal⟩ := r
    obtain rfl : places₀ = [p] := hplaces
    show (Reader.settle _ >>= fun r => _) = _
    rw [hsettle]
    rfl
  rw [Reader.readAll, hdivider]
  show ((({ r with literal := true } : Reader).readValue value >>= fun r => .ok r)
    >>= Reader.settle) = _
  rw [hvalue]
  show (given.acceptPlace p value >>= fun given => _) = _
  rw [haccept]
  rfl

-- ============================================================= scans

theorem otherSettings_pairwise (r : ScanRequest) :
    r.otherSettings.Pairwise fun s t => s.setting ≠ t.setting := by
  obtain ⟨page, kinds, noExternal, settleDelay, format, verbose⟩ := r
  cases noExternal <;> cases verbose <;> cases settleDelay <;>
    simp [ScanRequest.otherSettings, ScanSetting.setting]

theorem mem_settings_settleDelay {r : ScanRequest} {n : Nat} :
    .settleDelay n ∈ r.settings ↔ n ∈ r.settleDelay := by
  simp [ScanRequest.settings, ScanRequest.otherSettings, Option.mem_toList]

/-- The settings of a scan can be given together, in any order. -/
theorem WellGiven.of_perm {r : ScanRequest} (horder : settings.Perm r.settings)
    (h : ∀ n ∈ r.settleDelay, n ≤ maxNumber) : WellGiven settings := by
  constructor
  · have hsymm : ∀ {s t : ScanSetting}, (s.setting = t.setting → s.setting = .kind) →
        t.setting = s.setting → t.setting = .kind := by
      intro s t hst heq
      rw [heq]
      exact hst heq.symm
    rw [horder.pairwise_iff hsymm]
    refine List.pairwise_append.2 ⟨?_, ?_, ?_⟩
    · exact List.pairwise_map.2 (List.pairwise_of_forall fun _ _ _ => rfl)
    · exact (otherSettings_pairwise r).imp fun hne heq => absurd heq hne
    · intro s hs t _ _
      obtain ⟨k, -, rfl⟩ := List.mem_map.1 hs
      rfl
  · intro n hn
    exact h n (mem_settings_settleDelay.1 (horder.mem_iff.1 hn))

theorem head?_of_perm_toList {α : Type} {o : Option α} {l : List α} (h : l.Perm o.toList) :
    l.head? = o := by
  cases o with
  | none => rw [List.perm_nil.1 h]; rfl
  | some a => rw [List.perm_singleton.1 h]; rfl

/-- What is not read of kinds is read of the other settings alone. -/
theorem filterMap_settings {α : Type} {f : ScanSetting → Option α} (hkind : ∀ k, f (.kind k) = none)
    (r : ScanRequest) : r.settings.filterMap f = r.otherSettings.filterMap f := by
  have hnone : (r.kinds.map ScanSetting.kind).filterMap f = [] :=
    List.filterMap_eq_nil_iff.2 (List.forall_mem_map.2 fun k _ => hkind k)
  rw [ScanRequest.settings, List.filterMap_append, hnone, List.nil_append]

/-- Whatever the order, it is the scan's own data that has been given. -/
theorem ofSettings_of_perm {r : ScanRequest} (horder : settings.Perm r.settings)
    (hkinds : settings.filterMap ScanSetting.kind? = r.kinds) :
    Given.ofSettings settings
      = { kinds := r.kinds
          noExternal := r.noExternal
          settleDelay := r.settleDelay
          format := some r.format
          verbose := r.verbose } := by
  have hexternal : settings.contains .noExternal = r.noExternal := by
    rw [horder.contains_eq]
    simp [ScanRequest.settings, ScanRequest.otherSettings]
  have hverbose : settings.contains .verbose = r.verbose := by
    rw [horder.contains_eq]
    simp [ScanRequest.settings, ScanRequest.otherSettings]
  have hdelay : (settings.filterMap ScanSetting.delay?).head? = r.settleDelay := by
    have hsettings : r.settings.filterMap ScanSetting.delay? = r.settleDelay.toList := by
      rw [filterMap_settings fun _ => rfl, ScanRequest.otherSettings]
      cases r.noExternal <;> cases r.verbose <;> cases r.settleDelay <;> rfl
    exact head?_of_perm_toList (hsettings ▸ horder.filterMap _)
  have hformat : (settings.filterMap ScanSetting.format?).head? = some r.format := by
    have hsettings : r.settings.filterMap ScanSetting.format? = (some r.format).toList := by
      rw [filterMap_settings fun _ => rfl, ScanRequest.otherSettings]
      cases r.noExternal <;> cases r.verbose <;> cases r.settleDelay <;> rfl
    exact head?_of_perm_toList (hsettings ▸ horder.filterMap _)
  rw [Given.ofSettings, hkinds, hexternal, hverbose, hdelay, hformat]

/-- The settings of a scan, in whatever order the kinds are in theirs, the
divider and the page ask for that scan. -/
theorem scan_arguments_read_back (r : ScanRequest) (hdelay : ∀ n ∈ r.settleDelay, n ≤ maxNumber)
    {settings : List ScanSetting} (horder : settings.Perm r.settings)
    (hkinds : settings.filterMap ScanSetting.kind? = r.kinds) :
    parse ("scan" :: (settings.flatMap ScanSetting.arguments ++ ["--", r.page]))
      = .ok (some (.scan r)) := by
  have hstart : Reader.Holds { places := Form.scan.places } [.page] (.ofSettings []) :=
    ⟨rfl, rfl⟩
  obtain ⟨reader, hreader, hread⟩ := hstart.scanSettings (.of_perm horder hdelay) ["--", r.page]
  rw [List.nil_append, ofSettings_of_perm horder hkinds] at hreader
  have hgiven := hreader.divided .scan r.page rfl
  rw [← hread] at hgiven
  have hform : Form.parse .scan (settings.flatMap ScanSetting.arguments ++ ["--", r.page])
      = .ok (.scan r) := by
    show (Reader.readAll _ .scan _ >>= fun r => r.settle >>= fun r => r.given.command .scan) = _
    rw [← bind_assoc, hgiven]
    rfl
  show some <$> Form.parse .scan _ = _
  rw [hform]
  rfl

/-- A scan of a page that is called like a setting. -/
def dashedRequest : ScanRequest where
  page := "--help"
  kinds := [.css, .html, .css]
  noExternal := true
  settleDelay := some 18446744073709551615
  format := .json
  verbose := true

/-- Its settings, in an order of their own. -/
def dashedSettings : List ScanSetting :=
  [.verbose, .kind .css, .format .json, .kind .html, .settleDelay 18446744073709551615,
   .noExternal, .kind .css]

theorem scan_arguments_read_back_dashed :
    (∀ n ∈ dashedRequest.settleDelay, n ≤ maxNumber)
      ∧ dashedSettings.Perm dashedRequest.settings
      ∧ dashedSettings.filterMap ScanSetting.kind? = dashedRequest.kinds
      ∧ parse ["scan", "-v", "--kind", "css", "--format", "json", "--kind", "html",
            "--settle-delay", "18446744073709551615", "--no-external", "--kind", "css",
            "--", "--help"]
          = .ok (some (.scan dashedRequest)) := by
  have hdelay : ∀ n ∈ dashedRequest.settleDelay, n ≤ maxNumber := by
    intro n hn
    obtain rfl := Option.some.inj hn
    decide
  have horder : dashedSettings.Perm dashedRequest.settings := by decide
  have hkinds : dashedSettings.filterMap ScanSetting.kind? = dashedRequest.kinds := by decide
  exact ⟨hdelay, horder, hkinds, scan_arguments_read_back dashedRequest hdelay horder hkinds⟩

end Marginalia.Command
