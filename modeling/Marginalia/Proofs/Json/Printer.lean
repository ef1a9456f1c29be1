/-
What is printed is well formed and stands for the value that was printed
(`value_prettyChars`), so it is read back as that value whoever reads it.

Not every value is one that a text can stand for: whole numbers have bounds, and
of other numbers only some shortest decimal is kept. `Exact` leaves those out.
-/
import Marginalia.Json.Print
import Marginalia.Proofs.Json.Reader

namespace Marginalia.Json

-- =========================================================== strings

theorem hexValue?_digitChar : ∀ n < 16, hexValue? (Nat.digitChar n) = some n := by
  decide

theorem codeUnit_hexDigits {n : Nat} (h : n < 0x20) :
    CodeUnit ['0', '0', hexDigit (n / 16), hexDigit n] n := by
  have hvalue : ((0 * 16 + 0) * 16 + n / 16 % 16) * 16 + n % 16 = n := by omega
  have hunit := CodeUnit.mk (a := '0') (b := '0') (w := 0) (x := 0) rfl rfl
    (hexValue?_digitChar (n / 16 % 16) (Nat.mod_lt _ (by decide)))
    (hexValue?_digitChar (n % 16) (Nat.mod_lt _ (by decide)))
  rw [hvalue] at hunit
  exact hunit

/-- A character is spelled by its escape. -/
theorem spelled_escapedChar (c : Char) : Spelled (escapedChar c) c := by
  unfold escapedChar
  split
  next h => subst h; exact .letter rfl
  next hquote =>
  split
  next h => subst h; exact .letter rfl
  next hslash =>
  split
  next h => subst h; exact .letter rfl
  split
  next h => subst h; exact .letter rfl
  split
  next h => subst h; exact .letter rfl
  split
  next h => subst h; exact .letter rfl
  split
  next h => subst h; exact .letter rfl
  split
  next hcontrol =>
    have hunit := Spelled.unit (codeUnit_hexDigits hcontrol) (by unfold IsHigh; omega)
      (by unfold IsLow; omega)
    rwa [Char.ofNat_toNat] at hunit
  next hcontrol => exact .plain hquote hslash hcontrol

theorem denotes_escaped (t : List Char) : Denotes (t.flatMap escapedChar) t := by
  induction t with
  | nil => exact .nil
  | cons c t ih =>
      rw [List.flatMap_cons]
      exact .cons (spelled_escapedChar c) ih

theorem quoted_quoted (s : String) : Quoted (quoted s) (some s) := by
  have h := Quoted.text (denotes_escaped s.toList)
  rwa [String.ofList_toList] at h

-- =========================================================== numbers

theorem digits_digits (n : Nat) : Digits (digits n) :=
  ⟨Nat.toDigits_ne_nil, fun _ hc => Nat.isDigit_of_mem_toDigits (by decide) (by decide) hc⟩

/-- Only zero itself is written with a zero in front. -/
theorem digits_of_head_zero {n : Nat} (h : (digits n).head? = some '0') : n = 0 := by
  unfold digits at h
  induction n using Nat.base_induction 10 (by decide) with
  | single m hm =>
      rw [Nat.toDigits_of_lt_base hm] at h
      have hdigit : ∀ m < 10, Nat.digitChar m = '0' → m = 0 := by decide
      exact hdigit m hm (Option.some.inj h)
  | digit m k hk hm ih =>
      rw [← Nat.toDigits_append_toDigits (by decide) hm hk,
        List.head?_append_of_ne_nil _ Nat.toDigits_ne_nil] at h
      exact absurd (ih h) (Nat.ne_of_gt hm)

theorem whole_digits (n : Nat) : Whole (digits n) := by
  refine ⟨digits_digits n, fun h => ?_⟩
  rw [digits_of_head_zero h]
  rfl

theorem le_ofDigitChars (ds : List Char) (start : Nat) : start ≤ Nat.ofDigitChars 10 ds start := by
  induction ds generalizing start with
  | nil => exact Nat.le_refl start
  | cons d ds ih =>
      rw [Nat.ofDigitChars_cons]
      have := ih (10 * start + (d.toNat - '0'.toNat))
      omega

/-- Digits are all taken where their value fits. -/
theorem significand_eq {ds : List Char} {start : Nat}
    (h : Nat.ofDigitChars 10 ds start ≤ maxNatural) :
    significand start ds = (Nat.ofDigitChars 10 ds start, ds.length, 0) := by
  induction ds generalizing start with
  | nil => rfl
  | cons d ds ih =>
      rw [Nat.ofDigitChars_cons] at h ⊢
      have hle := (le_ofDigitChars ds _).trans h
      rw [significand]
      dsimp only
      rw [if_pos hle, ih h]
      rfl

theorem significand_digits {n : Nat} (h : n ≤ maxNatural) :
    significand 0 (digits n) = (n, (digits n).length, 0) := by
  have hvalue : Nat.ofDigitChars 10 (digits n) 0 = n := Nat.ofDigitChars_ten_toDigits
  rw [significand_eq (by rwa [hvalue]), hvalue]

/-- A whole number in bounds is written with its digits. -/
theorem value_natural {n : Nat} (h : n ≤ maxNatural) : Value (digits n) (.natural n) := by
  have hvalue := Value.number (whole_digits n) .none .none
  rw [List.append_nil, List.append_nil, numberOf, significand_digits h] at hvalue
  exact hvalue

theorem value_negative {n : Nat} (hpos : 0 < n) (h : n ≤ Nat.pow 2 63) :
    Value ('-' :: digits n) (.negative n) := by
  have hmax : n ≤ maxNatural := h.trans (by decide)
  have hvalue := Value.minus (whole_digits n) .none .none
  rw [List.append_nil, List.append_nil, numberOf, significand_digits hmax] at hvalue
  dsimp only at hvalue
  rw [if_pos rfl, if_neg (by decide), if_pos ⟨hpos, h⟩] at hvalue
  exact hvalue

-- ============================================================ layout

/-- Values that a text can stand for exactly. -/
inductive Exact : Json → Prop where
  | null : Exact .null
  | bool (b : Bool) : Exact (.bool b)
  | natural {n : Nat} (h : n ≤ maxNatural) : Exact (.natural n)
  | negative {n : Nat} (hpos : 0 < n) (h : n ≤ Nat.pow 2 63) : Exact (.negative n)
  | string (s : String) : Exact (.string s)
  | array {items : List Json} (h : ∀ v ∈ items, Exact v) : Exact (.array items)
  | object {members : List (String × Json)} (h : ∀ m ∈ members, Exact m.2) :
      Exact (.object members)

theorem blank_lineBreak (depth : Nat) : Blank (lineBreak depth) := by
  intro c hc
  rcases List.mem_cons.1 hc with rfl | hc
  · rfl
  · rw [(List.mem_replicate.1 hc).2]
    rfl

/-- An item on a line of its own, with what stands between it and the next
comma or bracket. -/
def printedSlot (depth : Nat) (after : List Char) (v : Json) : Slot :=
  ⟨lineBreak (depth + 1), v.prettyChars (depth + 1), after, v.toReading⟩

/-- The items of an array as they are printed. -/
def printedSlots (depth : Nat) : List Json → List Slot
  | [] => []
  | [v] => [printedSlot depth (lineBreak depth) v]
  | v :: w :: more => printedSlot depth [] v :: printedSlots depth (w :: more)

theorem padded_printedSlot {after : List Char} (hafter : Blank after) (depth : Nat) (v : Json) :
    (printedSlot depth after v).Padded :=
  ⟨blank_lineBreak _, hafter⟩

/-- An item stands in some way for what is printed of it. -/
theorem of_mem_printedSlots {depth : Nat} {i : Slot} {items : List Json}
    (h : i ∈ printedSlots depth items) :
    ∃ v ∈ items, ∃ after, Blank after ∧ i = printedSlot depth after v := by
  induction items using printedSlots.induct with
  | case1 => cases h
  | case2 v => exact ⟨v, List.mem_singleton_self v, _, blank_lineBreak _, List.mem_singleton.1 h⟩
  | case3 v w more ih =>
      rcases List.mem_cons.1 h with rfl | h
      · exact ⟨v, List.mem_cons_self, [], blank_nil, rfl⟩
      · obtain ⟨u, hu, rest⟩ := ih h
        exact ⟨u, List.mem_cons_of_mem v hu, rest⟩

theorem values_printedSlots (depth : Nat) (items : List Json) :
    (printedSlots depth items).map Slot.value = toReadings items := by
  induction items using printedSlots.induct with
  | case1 => rfl
  | case2 v => rfl
  | case3 v w more ih =>
      rw [printedSlots, List.map_cons, ih, toReadings]
      rfl

theorem printedSlots_ne_nil (depth : Nat) (v : Json) (more : List Json) :
    printedSlots depth (v :: more) ≠ [] := by
  cases more with
  | nil => exact List.cons_ne_nil _ _
  | cons w more => exact List.cons_ne_nil _ _

theorem written_printedSlots (depth : Nat) (v : Json) (more : List Json) :
    [','].intercalate ((printedSlots depth (v :: more)).map Slot.written) ++ [']']
      = lineBreak (depth + 1) ++ v.prettyChars (depth + 1) ++ prettyItems depth more := by
  induction more generalizing v with
  | nil =>
      rw [printedSlots, List.map_singleton, List.intercalate_singleton, prettyItems]
      exact List.append_assoc ..
  | cons w more ih =>
      have hne : (printedSlots depth (w :: more)).map Slot.written ≠ [] :=
        mt List.map_eq_nil_iff.1 (printedSlots_ne_nil depth w more)
      have hwritten : (printedSlot depth [] v).written
          = lineBreak (depth + 1) ++ v.prettyChars (depth + 1) :=
        List.append_nil _
      rw [printedSlots, List.map_cons, List.intercalate_cons_of_ne_nil hne, List.append_assoc,
        ih w, hwritten, prettyItems, List.append_assoc _ [',']]
      rfl

/-- A member on a line of its own, with what stands behind it. -/
def printedField (depth : Nat) (after : List Char) (m : String × Json) : Field :=
  ⟨lineBreak (depth + 1), quoted m.1, [], some m.1,
    ⟨[' '], m.2.prettyChars (depth + 1), after, m.2.toReading⟩⟩

/-- The members of an object as they are printed. -/
def printedFields (depth : Nat) : List (String × Json) → List Field
  | [] => []
  | [m] => [printedField depth (lineBreak depth) m]
  | m :: n :: more => printedField depth [] m :: printedFields depth (n :: more)

theorem padded_printedField {after : List Char} (hafter : Blank after) (depth : Nat)
    (m : String × Json) : (printedField depth after m).Padded :=
  ⟨blank_lineBreak _, blank_nil, ⟨List.forall_mem_singleton.2 rfl, hafter⟩, quoted_quoted m.1⟩

theorem of_mem_printedFields {depth : Nat} {f : Field} {members : List (String × Json)}
    (h : f ∈ printedFields depth members) :
    ∃ m ∈ members, ∃ after, Blank after ∧ f = printedField depth after m := by
  induction members using printedFields.induct with
  | case1 => cases h
  | case2 m => exact ⟨m, List.mem_singleton_self m, _, blank_lineBreak _, List.mem_singleton.1 h⟩
  | case3 m n more ih =>
      rcases List.mem_cons.1 h with rfl | h
      · exact ⟨m, List.mem_cons_self, [], blank_nil, rfl⟩
      · obtain ⟨u, hu, rest⟩ := ih h
        exact ⟨u, List.mem_cons_of_mem m hu, rest⟩

theorem values_printedFields (depth : Nat) (members : List (String × Json)) :
    ((printedFields depth members).map fun f => (f.key, f.slot.value)) = toMembers members := by
  induction members using printedFields.induct with
  | case1 => rfl
  | case2 m => rfl
  | case3 m n more ih =>
      rw [printedFields, List.map_cons, ih, toMembers]
      rfl

theorem printedFields_ne_nil (depth : Nat) (m : String × Json) (more : List (String × Json)) :
    printedFields depth (m :: more) ≠ [] := by
  cases more with
  | nil => exact List.cons_ne_nil _ _
  | cons n more => exact List.cons_ne_nil _ _

theorem written_printedFields (depth : Nat) (m : String × Json) (more : List (String × Json)) :
    [','].intercalate ((printedFields depth (m :: more)).map Field.written) ++ ['\x7d']
      = lineBreak (depth + 1) ++ quoted m.1 ++ ':' :: ' ' :: m.2.prettyChars (depth + 1)
        ++ prettyMembers depth more := by
  induction more generalizing m with
  | nil =>
      rw [printedFields, List.map_singleton, List.intercalate_singleton, prettyMembers]
      simp [printedField, Field.written, Slot.written]
  | cons n more ih =>
      have hne : (printedFields depth (n :: more)).map Field.written ≠ [] :=
        mt List.map_eq_nil_iff.1 (printedFields_ne_nil depth n more)
      have hwritten : (printedField depth [] m).written
          = lineBreak (depth + 1) ++ quoted m.1 ++ ':' :: ' ' :: m.2.prettyChars (depth + 1) := by
        simp [printedField, Field.written, Slot.written]
      rw [printedFields, List.map_cons, List.intercalate_cons_of_ne_nil hne, List.append_assoc,
        ih n, hwritten, prettyMembers]
      simp

/-- What is printed of a value stands for it, at any depth. -/
theorem value_prettyChars {v : Json} (h : Exact v) (depth : Nat) :
    Value (v.prettyChars depth) v.toReading := by
  induction h generalizing depth with
  | null => exact .null
  | bool b =>
      cases b with
      | true => exact .true
      | false => exact .false
  | natural h => exact value_natural h
  | negative hpos h => exact value_negative hpos h
  | string s => exact .string (quoted_quoted s)
  | @array items _ ih =>
      cases items with
      | nil => exact .emptyArray blank_nil
      | cons v more =>
          have hpadded : ∀ i ∈ printedSlots depth (v :: more), i.Padded := by
            intro i hi
            obtain ⟨u, -, after, hafter, rfl⟩ := of_mem_printedSlots hi
            exact padded_printedSlot hafter depth u
          have hvalue : ∀ i ∈ printedSlots depth (v :: more), Value i.text i.value := by
            intro i hi
            obtain ⟨u, hu, after, -, rfl⟩ := of_mem_printedSlots hi
            exact ih u hu (depth + 1)
          have harray := Value.array (printedSlots_ne_nil depth v more) hpadded hvalue
          rw [values_printedSlots, List.cons_append, written_printedSlots] at harray
          rw [prettyChars]
          exact harray
  | @object members _ ih =>
      cases members with
      | nil => exact .emptyObject blank_nil
      | cons m more =>
          have hpadded : ∀ f ∈ printedFields depth (m :: more), f.Padded := by
            intro f hf
            obtain ⟨u, -, after, hafter, rfl⟩ := of_mem_printedFields hf
            exact padded_printedField hafter depth u
          have hvalue : ∀ f ∈ printedFields depth (m :: more), Value f.slot.text f.slot.value := by
            intro f hf
            obtain ⟨u, hu, after, -, rfl⟩ := of_mem_printedFields hf
            exact ih u hu (depth + 1)
          have hobject := Value.object (printedFields_ne_nil depth m more) hpadded hvalue
          rw [values_printedFields, List.cons_append, written_printedFields] at hobject
          rw [prettyChars]
          exact hobject

end Marginalia.Json
