/-
Reading a command line. A value is looked at only when the next setting is
reached, or at the end, so that between two arguments there is always one
that waits. `Reader.Holds` says what a reader comes to once it has looked,
and this is what an induction over the arguments can use: a reader that
holds something holds one value more after a setting with its value
(`Reader.Holds.setting`), and after a setting that takes none
(`Reader.Holds.flag`).
-/
import Marginalia.Command.Arguments

namespace Marginalia.Command

/-- Kinds as they are given one by one. -/
def kindArguments (kinds : List Kind) : List String :=
  kinds.flatMap fun kind => ["--kind", kind.name]

/-- The arguments for a page, some kinds and a format. -/
def scanArguments (page : String) (kinds : List Kind) (format : Format) : List String :=
  page :: (kindArguments kinds ++ ["--format", format.name])

namespace Reader

/-- The places that are left and what has been given are as stated, the
value that waits included. -/
structure Holds (r : Reader) (places : List Place) (given : Given) : Prop where
  settle : r.settle = .ok { given, places }
  literal : r.literal = false

variable {r : Reader} {places : List Place} {given given' : Given}

namespace Holds

/-- What has been given can be given all at once. -/
theorem place {p : Place} {value : String} (h : given.acceptPlace p value = .ok given') :
    Holds { given, waiting := some (.placeValue p value), places } places given' := by
  refine ⟨?_, rfl⟩
  show (given.acceptPlace p value >>= fun given => _) = _
  rw [h]
  rfl

/-- A setting and its value are taken up together. -/
theorem setting (hr : r.Holds places given) (form : Form) (arg name : String) {value : String}
    {s : Setting} (harg : Shape.of arg = .long name none)
    (hname : form.longNames.lookup name = some s) (htakes : s.takesValue = true)
    (hvalue : Shape.of value = .plain) (haccept : given.acceptSetting s value = .ok given')
    (more : List String) :
    ∃ r' : Reader, r'.Holds places given'
      ∧ r.readAll form (arg :: value :: more) = r'.readAll form more := by
  refine ⟨{ given, waiting := some (.settingValue s value), places }, ⟨?_, rfl⟩, ?_⟩
  · show (given.acceptSetting s value >>= fun given => _) = _
    rw [haccept]
    rfl
  · have hlong : r.readLong form name none
        = .ok { given, waiting := some (.setting s), places } := by
      unfold Reader.readLong
      rw [hname]
      show (if s.takesValue = true then _ else _) = _
      rw [if_pos htakes, hr.settle]
      rfl
    have hsetting : r.read form arg
        = .ok { given, waiting := some (.setting s), places } := by
      unfold Reader.read
      rw [hr.literal, harg]
      exact hlong
    have hplain : Reader.read { given, waiting := some (.setting s), places } form value
        = .ok { given, waiting := some (.settingValue s value), places } := by
      unfold Reader.read
      rw [hvalue]
      rfl
    rw [readAll, hsetting]
    show Reader.readAll _ form (value :: more) = _
    rw [readAll, hplain]
    rfl

/-- A setting without a value is taken up at once. -/
theorem flag (hr : r.Holds places given) (form : Form) (arg : String) {s : Setting}
    (hread : r.read form arg = r.raise s) (haccept : given.acceptFlag s = .ok given')
    (more : List String) :
    ∃ r' : Reader, r'.Holds places given'
      ∧ r.readAll form (arg :: more) = r'.readAll form more := by
  refine ⟨{ given := given', places }, ⟨rfl, rfl⟩, ?_⟩
  have hraise : r.raise s = .ok { given := given', places } := by
    rw [Reader.raise, hr.settle]
    show (given.acceptFlag s >>= fun given => _) = _
    rw [haccept]
    rfl
  rw [readAll, hread, hraise]
  rfl

/-- A list of kinds is added to the kinds there are. -/
theorem kinds (hr : r.Holds places given) (kinds : List Kind) (more : List String) :
    ∃ r' : Reader, r'.Holds places { given with kinds := given.kinds ++ kinds }
      ∧ r.readAll .scan (kindArguments kinds ++ more) = r'.readAll .scan more := by
  induction kinds generalizing r given with
  | nil =>
      refine ⟨r, ?_, rfl⟩
      rw [List.append_nil]
      exact hr
  | cons kind kinds ih =>
      have hshape : Shape.of kind.name = .plain := by cases kind <;> decide
      have hkind : Kind.ofName? kind.name = some kind := by cases kind <;> decide
      have haccept : given.acceptSetting .kind kind.name
          = .ok { given with kinds := given.kinds ++ [kind] } := by
        rw [Given.acceptSetting, hkind]
        rfl
      obtain ⟨r₁, hr₁, hread₁⟩ := hr.setting .scan "--kind" "kind"
        (by decide) rfl rfl hshape haccept (kindArguments kinds ++ more)
      obtain ⟨r₂, hr₂, hread₂⟩ := ih hr₁
      refine ⟨r₂, ?_, hread₁.trans hread₂⟩
      rw [List.append_assoc] at hr₂
      exact hr₂

end Holds

end Reader

/-- The line for a page and some kinds asks for just that, unless the page
would be taken for a setting. -/
theorem parse_scanArguments {page : String} (hpage : Shape.of page = .plain)
    (kinds : List Kind) (format : Format) :
    parse ("scan" :: scanArguments page kinds format)
      = .ok (some (.scan { page, kinds, format })) := by
  have hshape : Shape.of format.name = .plain := by cases format <;> decide
  have hformat : Format.ofName? format.name = some format := by cases format <;> decide
  have hplace : Reader.Holds
      { waiting := some (.placeValue .page page), places := [] } [] { page := some page } :=
    .place rfl
  obtain ⟨r₁, hr₁, hread₁⟩ := hplace.kinds kinds ["--format", format.name]
  have haccept : Given.acceptSetting { page := some page, kinds } .format format.name
      = .ok { page := some page, kinds, format := some format } := by
    rw [Given.acceptSetting, hformat]
    rfl
  obtain ⟨r₂, hr₂, hread₂⟩ := hr₁.setting .scan "--format" "format"
    (by decide) rfl rfl hshape haccept []
  have hfirst : Reader.read { places := Form.scan.places } .scan page
      = .ok { waiting := some (.placeValue .page page), places := [] } := by
    unfold Reader.read
    rw [hpage]
    rfl
  have hread : Reader.readAll { places := Form.scan.places } .scan
      (scanArguments page kinds format) = .ok r₂ := by
    rw [scanArguments, Reader.readAll, hfirst]
    exact hread₁.trans hread₂
  have hform : Form.parse .scan (scanArguments page kinds format)
      = .ok (.scan { page, kinds, format }) := by
    rw [Form.parse, hread]
    show (r₂.settle >>= fun r => r.given.command .scan) = _
    rw [hr₂.settle]
    rfl
  show some <$> Form.parse .scan _ = _
  rw [hform]
  rfl

end Marginalia.Command
