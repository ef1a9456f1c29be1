/-
Settings written and read again. What is printed of the settings is read as the
same settings, and a file may hold any of them, in any order, spelled in any way
that JSON allows and among members of any other name: the settings it holds are
taken over, the others keep their defaults (`settings_read_back`).

The members are taken up one after the other, so what holds after each is the
draft that has just the settings seen so far (`Draft.having`). Members of other
names are passed over, which every well-formed value can be, also one that
stands for nothing.
-/
import Marginalia.Config.Format
import Marginalia.Proofs.Config.Loading
import Marginalia.Proofs.Json.Printer
import Marginalia.Proofs.Messaging.Bus

namespace Marginalia.Config

open Json

variable {c : Config} {keys : List String} {key : String} {v : Reading}

-- =========================================================== values

/-- A kind is read from its name, wherever that stands. -/
theorem variant_name (source : Source) (k : Kind) :
    Reading.variant Kind.names source (.string k.name) = .ok k := by
  cases source with
  | text =>
      cases k with
      | html => rfl
      | css => rfl
      | js => rfl
  | value =>
      cases k with
      | html => rfl
      | css => rfl
      | js => rfl

theorem decodeKinds_names (source : Source) (kinds : List Kind) :
    decodeKinds source (Json.array (kinds.map fun k => .string k.name)).toReading = .ok kinds := by
  have hnames := toReading_strings (kinds.map Kind.name)
  rw [List.map_map, List.map_map] at hnames
  have hkind : ∀ k ∈ kinds,
      (Reading.variant Kind.names source ∘ Reading.string ∘ Kind.name) k = .ok (id k) :=
    fun k _ => variant_name source k
  show decodeKinds source (Json.array (kinds.map (Json.string ∘ Kind.name))).toReading = _
  rw [hnames, decodeKinds, Reading.list, List.mapM_map, mapM_ok kinds hkind, List.map_id]
  rfl

theorem list_text_strings (l : List String) :
    (Json.array (l.map Json.string)).toReading.list Reading.text = .ok l := by
  have htext : ∀ s ∈ l, (Reading.text ∘ Reading.string) s = .ok (id s) := fun _ _ => rfl
  rw [toReading_strings, Reading.list, List.mapM_map, mapM_ok l htext, List.map_id]
  rfl

-- ============================================================ drafts

/-- The settings with the given names, and the defaults for the others. -/
def keeping (c : Config) (keys : List String) : Config :=
  { settleDelayMs := if "settleDelayMs" ∈ keys then c.settleDelayMs else standard.settleDelayMs
    fetchExternal := if "fetchExternal" ∈ keys then c.fetchExternal else standard.fetchExternal
    kinds := if "kinds" ∈ keys then c.kinds else standard.kinds
    ignoreSources := if "ignoreSources" ∈ keys then c.ignoreSources else standard.ignoreSources
    userAgent := if "userAgent" ∈ keys then c.userAgent else standard.userAgent }

theorem keeping_fieldNames (c : Config) : c.keeping fieldNames = c := rfl

/-- The draft that has the settings with the given names. -/
def Draft.having (c : Config) (keys : List String) : Draft :=
  { settleDelayMs := if "settleDelayMs" ∈ keys then some c.settleDelayMs else none
    fetchExternal := if "fetchExternal" ∈ keys then some c.fetchExternal else none
    kinds := if "kinds" ∈ keys then some c.kinds else none
    ignoreSources := if "ignoreSources" ∈ keys then some c.ignoreSources else none
    userAgent := if "userAgent" ∈ keys then some c.userAgent else none }

theorem getD_ite_some {α : Type} {p : Prop} [Decidable p] (a b : α) :
    (if p then some a else none).getD b = if p then a else b := by
  split
  · rfl
  · rfl

theorem Draft.complete_having (c : Config) (keys : List String) :
    (Draft.having c keys).complete = c.keeping keys := by
  simp only [Draft.complete, Draft.having, keeping, getD_ite_some]

/-- A name that is no setting's is passed over with its value. -/
theorem Draft.take_other (hkey : key ∉ fieldNames) (hv : v.skip = .ok ()) (p : Draft) :
    p.take .text key v = .ok p := by
  simp only [fieldNames, List.mem_cons, List.not_mem_nil, or_false, not_or] at hkey
  obtain ⟨h₁, h₂, h₃, h₄, h₅⟩ := hkey
  unfold Draft.take
  dsimp only
  split
  · exact absurd rfl h₁
  · exact absurd rfl h₂
  · exact absurd rfl h₃
  · exact absurd rfl h₄
  · exact absurd rfl h₅
  · rw [hv]
    rfl

theorem Draft.having_other (hkey : key ∉ fieldNames) :
    Draft.having c (keys ++ [key]) = Draft.having c keys := by
  simp only [fieldNames, List.mem_cons, List.not_mem_nil, or_false, not_or] at hkey
  obtain ⟨h₁, h₂, h₃, h₄, h₅⟩ := hkey
  simp only [Draft.having, List.mem_append, List.mem_singleton, Ne.symm h₁, Ne.symm h₂, Ne.symm h₃,
    Ne.symm h₄, Ne.symm h₅, or_false]

/-- The settings are written under their names. -/
theorem mem_of_member? {j : Json} (h : c.toJson.member? key = some j) :
    (key, j) ∈ [("settleDelayMs", Json.natural c.settleDelayMs),
      ("fetchExternal", .bool c.fetchExternal),
      ("kinds", .array (c.kinds.map fun k => .string k.name)),
      ("ignoreSources", .array (c.ignoreSources.map .string)),
      ("userAgent", .string c.userAgent)] := by
  obtain ⟨l, l', h, -⟩ := List.lookup_eq_some_iff.1 h
  rw [h]
  exact List.mem_append_right l List.mem_cons_self

/-- A setting that was not seen before is taken up with its value. -/
theorem Draft.take_field {j : Json} (hj : c.toJson.member? key = some j) (hnew : key ∉ keys) :
    (Draft.having c keys).take .text key j.toReading = .ok (Draft.having c (keys ++ [key])) := by
  have hmem := mem_of_member? hj
  simp only [List.mem_cons, List.not_mem_nil, or_false, Prod.mk.injEq] at hmem
  obtain ⟨rfl, rfl⟩ | ⟨rfl, rfl⟩ | ⟨rfl, rfl⟩ | ⟨rfl, rfl⟩ | ⟨rfl, rfl⟩ := hmem
  all_goals
    simp only [Draft.take, Draft.having, List.mem_append, List.mem_singleton, hnew, String.reduceEq,
      or_false, or_true, if_true, if_false, Option.isSome_none, Bool.false_eq_true]
  · rfl
  · rfl
  · rw [decodeKinds_names]
    rfl
  · rw [list_text_strings]
    rfl
  · rfl

-- ======================================================== whole objects

theorem member?_of_mem (h : key ∈ fieldNames) : ∃ j, c.toJson.member? key = some j := by
  simp only [fieldNames, List.mem_cons, List.not_mem_nil, or_false] at h
  obtain rfl | rfl | rfl | rfl | rfl := h
  all_goals exact ⟨_, rfl⟩

/-- After some members of an object the draft has the settings among them. -/
theorem Draft.takeAll_having (keys : List String) {members : List (String × Reading)}
    (hskip : ∀ m ∈ members, m.2.skip = .ok ())
    (hvalue : ∀ m ∈ members, ∀ j, c.toJson.member? m.1 = some j → m.2 = j.toReading)
    (honce : ∀ key ∈ fieldNames, (keys ++ members.map Prod.fst).count key ≤ 1) :
    (Draft.having c keys).takeAll .text (members.map fun m => (some m.1, m.2))
      = .ok (Draft.having c (keys ++ members.map Prod.fst)) := by
  induction members generalizing keys with
  | nil =>
      rw [List.map_nil, List.map_nil, List.append_nil]
      rfl
  | cons m more ih =>
      obtain ⟨hskipm, hskip⟩ := List.forall_mem_cons.1 hskip
      obtain ⟨hvaluem, hvalue⟩ := List.forall_mem_cons.1 hvalue
      have hkeys : keys ++ (m :: more).map Prod.fst = keys ++ [m.1] ++ more.map Prod.fst := by
        rw [List.map_cons, List.append_assoc]
        rfl
      rw [hkeys] at honce ⊢
      have htake : (Draft.having c keys).take .text m.1 m.2
          = .ok (Draft.having c (keys ++ [m.1])) := by
        by_cases hfield : m.1 ∈ fieldNames
        · obtain ⟨j, hj⟩ := member?_of_mem (c := c) hfield
          have hnew : m.1 ∉ keys := by
            have hcount := honce m.1 hfield
            rw [List.count_append, List.count_append, List.count_singleton_self] at hcount
            exact List.count_eq_zero.1 (by omega)
          rw [hvaluem j hj]
          exact take_field hj hnew
        · rw [having_other hfield]
          exact take_other hfield hskipm _
      rw [List.map_cons, Draft.takeAll, htake]
      exact ih _ hskip hvalue honce

/-- A text of an object is read as the settings among its members. -/
theorem ofText_object {before text after : List Char} {members : List (String × Reading)}
    (htext : Value text (.object (members.map fun m => (some m.1, m.2)) .closed))
    (hbefore : Blank before) (hafter : Blank after)
    (hvalue : ∀ m ∈ members, ∀ j, c.toJson.member? m.1 = some j → m.2 = j.toReading)
    (honce : ∀ key ∈ fieldNames, (members.map Prod.fst).count key ≤ 1) :
    ofText (String.ofList (before ++ text ++ after))
      = .ok (c.keeping (members.map Prod.fst)) := by
  have hmembers := skipMembers_eq_ok_iff.1 (skip_object_eq_ok (skip_of_value htext))
  have hskip : ∀ m ∈ members, m.2.skip = .ok () := List.forall_mem_map.1 hmembers
  have htake := Draft.takeAll_having [] hskip hvalue honce
  unfold ofText
  rw [String.toList_ofList, read_of_value htext hbefore hafter]
  show (Draft.takeAll .text (Draft.having c []) _ >>= _) >>= _ = _
  rw [htake, List.nil_append]
  show Except.ok (Draft.having c _).complete = _
  rw [Draft.complete_having]

theorem exact_toJson (h : c.settleDelayMs ≤ maxNatural) : Exact c.toJson := by
  refine .object ?_
  simp only [List.forall_mem_cons, List.not_mem_nil, false_imp_iff, implies_true, and_true]
  refine ⟨.natural h, .bool _, .array ?_, .array ?_, .string _⟩
  · intro j hj
    obtain ⟨k, -, rfl⟩ := List.mem_map.1 hj
    exact .string _
  · intro j hj
    obtain ⟨s, -, rfl⟩ := List.mem_map.1 hj
    exact .string _

/-- The settings as they are read from their own text. -/
def readings (c : Config) : List (String × Reading) :=
  [("settleDelayMs", .natural c.settleDelayMs),
    ("fetchExternal", .bool c.fetchExternal),
    ("kinds", (Json.array (c.kinds.map fun k => .string k.name)).toReading),
    ("ignoreSources", (Json.array (c.ignoreSources.map .string)).toReading),
    ("userAgent", .string c.userAgent)]

theorem value_of_mem_readings {m : String × Reading} (hm : m ∈ c.readings) {j : Json}
    (hj : c.toJson.member? m.1 = some j) : m.2 = j.toReading := by
  simp only [readings, List.mem_cons, List.not_mem_nil, or_false] at hm
  obtain rfl | rfl | rfl | rfl | rfl := hm
  all_goals exact congrArg Json.toReading (Option.some.inj hj)

/-- Settings come back from the text that is printed of them. -/
theorem ofText_pretty (hdelay : c.settleDelayMs ≤ maxNatural) : ofText c.toJson.pretty = .ok c := by
  have htext : Value (c.toJson.prettyChars 0)
      (.object (c.readings.map fun m => (some m.1, m.2)) .closed) :=
    value_prettyChars (exact_toJson hdelay) 0
  have honce : ∀ key ∈ fieldNames, (c.readings.map Prod.fst).count key ≤ 1 := by
    show ∀ key ∈ fieldNames, fieldNames.count key ≤ 1
    decide
  have hread := ofText_object htext blank_nil blank_nil (fun m hm j => value_of_mem_readings hm)
    honce
  rw [List.nil_append, List.append_nil] at hread
  exact hread.trans (congrArg Except.ok (keeping_fieldNames c))

/-- Settings come back from the text that is printed of them. And they come back
from every object that has some of them, each at most once: those it has are
taken over, the others keep their defaults, whatever the order and the spelling
and whatever else is in the object under other names. The keys are texts; a value
under another name may be one that stands for nothing. -/
theorem settings_read_back (c : Config) (hdelay : c.settleDelayMs ≤ maxNatural) :
    ofText c.toJson.pretty = .ok c
      ∧ ∀ (before text after : List Char) (members : List (String × Reading)),
          Value text (.object (members.map fun m => (some m.1, m.2)) .closed) →
          Blank before → Blank after →
          (∀ m ∈ members, ∀ j, c.toJson.member? m.1 = some j → m.2 = j.toReading) →
          (∀ key ∈ fieldNames, (members.map Prod.fst).count key ≤ 1) →
          ofText (String.ofList (before ++ text ++ after))
            = .ok (c.keeping (members.map Prod.fst)) := by
  exact ⟨ofText_pretty hdelay, fun before text after members htext hbefore hafter hvalue honce =>
    ofText_object htext hbefore hafter hvalue honce⟩

/-- Settings with the longest delay. -/
def patient : Config :=
  { standard with settleDelayMs := maxNatural, userAgent := "a" }

/-- The members of an object with one setting, behind a member of another name;
the letter of the setting is written as an escape. -/
def oneSetting : List Field :=
  [⟨[], quoted "later", [], some "later",
      ⟨[], ['[', 'n', 'u', 'l', 'l', ']'], [], .array [.null] .closed⟩⟩,
    ⟨['\n'], quoted "userAgent", [' '], some "userAgent",
      ⟨[' '], ['\x22', '\\', 'u', '0', '0', '6', '1', '\x22'], [], .string "a"⟩⟩]

theorem padded_oneSetting : ∀ m ∈ oneSetting, m.Padded := by
  have hspace : ∀ {c : Char}, isSpace c = true → Blank [c] := fun h => List.forall_mem_singleton.2 h
  refine List.forall_mem_cons.2 ⟨?_, List.forall_mem_singleton.2 ?_⟩
  · exact ⟨blank_nil, blank_nil, ⟨blank_nil, blank_nil⟩, quoted_quoted _⟩
  · exact ⟨hspace rfl, hspace rfl, ⟨hspace rfl, blank_nil⟩, quoted_quoted _⟩

theorem value_oneSetting : ∀ m ∈ oneSetting, Value m.slot.text m.slot.value := by
  let item : Slot := ⟨[], ['n', 'u', 'l', 'l'], [], .null⟩
  have hitems : ∀ i ∈ [item], i.Padded ∧ Value i.text i.value :=
    List.forall_mem_singleton.2 ⟨⟨blank_nil, blank_nil⟩, .null⟩
  have hnull : Value ['[', 'n', 'u', 'l', 'l', ']'] (.array [.null] .closed) :=
    .array (List.cons_ne_nil item []) (fun i hi => (hitems i hi).1) fun i hi => (hitems i hi).2
  have hunit : CodeUnit ['0', '0', '6', '1'] 97 :=
    .mk (w := 0) (x := 0) (y := 6) (z := 1) rfl rfl rfl rfl
  have hletter : Value ['\x22', '\\', 'u', '0', '0', '6', '1', '\x22'] (.string "a") :=
    .string (.text (.cons (.unit hunit (by unfold IsHigh; omega) (by unfold IsLow; omega)) .nil))
  exact List.forall_mem_cons.2 ⟨hnull, List.forall_mem_singleton.2 hletter⟩

theorem patient_read_back :
    patient.settleDelayMs ≤ maxNatural ∧ ofText patient.toJson.pretty = .ok patient
      ∧ ofText (String.ofList
          ('\x7b' :: [','].intercalate (oneSetting.map Field.written) ++ ['\x7d']))
          = .ok { standard with userAgent := "a" } := by
  obtain ⟨hprinted, hread⟩ := settings_read_back patient (by decide)
  refine ⟨by decide, hprinted, ?_⟩
  have hvalue : ∀ m ∈ [("later", Reading.array [.null] .closed), ("userAgent", .string "a")],
      ∀ j, patient.toJson.member? m.1 = some j → m.2 = j.toReading :=
    List.forall_mem_cons.2 ⟨nofun, List.forall_mem_singleton.2 fun j hj =>
      congrArg Json.toReading (Option.some.inj hj)⟩
  have hobject := hread [] _ [] _
    (.object (List.cons_ne_nil _ _) padded_oneSetting value_oneSetting) blank_nil blank_nil hvalue
    (by decide)
  rwa [List.nil_append, List.append_nil] at hobject

end Marginalia.Config
