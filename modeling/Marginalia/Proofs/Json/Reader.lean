/-
What is well formed is read as what it stands for, whatever follows it
(`readsValue_of_value`), and so is a whole text (`read_of_value`). The reader is
handed a bound on its steps; a text needs no more of them than it has
characters, since every step into an array or an object passes a bracket and
each further item passes a comma.

A value may end in a number, so what follows it may not go on with one: in an
array or an object it is white space, a comma or a bracket.
-/
import Marginalia.Proofs.Json.Numbers
import Marginalia.Proofs.Json.Strings
import Mathlib.Data.List.DropRight

namespace Marginalia.Json

variable {fuel : Nat}

-- ======================================================= white space

theorem skipSpace_append {w : List Char} (hw : Blank w) (s : List Char) :
    skipSpace (w ++ s) = skipSpace s :=
  List.dropWhile_append_of_pos hw

theorem skipSpace_cons {c : Char} (hc : isSpace c = false) (s : List Char) :
    skipSpace (c :: s) = c :: s :=
  List.dropWhile_cons_of_neg (by rw [hc]; exact Bool.false_ne_true)

theorem skipSpace_skipSpace (s : List Char) : skipSpace (skipSpace s) = skipSpace s :=
  List.dropWhile_idempotent isSpace s

-- ============================================================ values

/-- White space before a value makes no difference. -/
theorem readValue_blank_append {w : List Char} (hw : Blank w) (s : List Char) :
    readValue fuel (w ++ s) = readValue fuel s := by
  cases fuel with
  | zero => rfl
  | succ fuel => rw [readValue, readValue, skipSpace_append hw]

/-- Whether a text can begin a value: not with white space, and not with a
bracket that closes an array. -/
def Begins (s : List Char) : Prop :=
  ∃ c r, s = c :: r ∧ isSpace c = false ∧ c ≠ ']'

theorem isSpace_of_isDigit {c : Char} (h : c.isDigit = true) : isSpace c = false := by
  have hne : ∀ d : Char, d.isDigit = false → (c == d) = false := by
    intro d hd
    refine beq_eq_false_iff_ne.2 fun heq => ?_
    rw [heq, hd] at h
    cases h
  rw [isSpace, hne ' ' rfl, hne '\n' rfl, hne '\t' rfl, hne '\r' rfl]
  rfl

theorem exists_whole {whole : List Char} (h : Whole whole) :
    ∃ d more, whole = d :: more ∧ d.isDigit = true := by
  obtain ⟨⟨hne, hdigits⟩, -⟩ := h
  cases whole with
  | nil => exact absurd rfl hne
  | cons d more => exact ⟨d, more, rfl, hdigits d List.mem_cons_self⟩

theorem begins_of_value {s : List Char} {v : Reading} (h : Value s v) : Begins s := by
  have hquoted {s : List Char} {o : Option String} (h : Quoted s o) : Begins s := by
    cases h with
    | text => exact ⟨_, _, rfl, rfl, by decide⟩
    | unpaired => exact ⟨_, _, rfl, rfl, by decide⟩
  cases h with
  | null => exact ⟨_, _, rfl, rfl, by decide⟩
  | true => exact ⟨_, _, rfl, rfl, by decide⟩
  | false => exact ⟨_, _, rfl, rfl, by decide⟩
  | number hwhole =>
      obtain ⟨d, more, rfl, hd⟩ := exists_whole hwhole
      refine ⟨d, _, rfl, isSpace_of_isDigit hd, ?_⟩
      rintro rfl
      cases hd
  | minus => exact ⟨_, _, rfl, rfl, by decide⟩
  | string h => exact hquoted h
  | unpaired h => exact hquoted h
  | emptyArray => exact ⟨_, _, rfl, rfl, by decide⟩
  | array => exact ⟨_, _, rfl, rfl, by decide⟩
  | emptyObject => exact ⟨_, _, rfl, rfl, by decide⟩
  | object => exact ⟨_, _, rfl, rfl, by decide⟩

/-- What reading a value is to give, with steps enough for its characters. -/
def ReadsValue (s : List Char) (v : Reading) : Prop :=
  ∀ (fuel : Nat) (rest : List Char), s.length ≤ fuel → Delimited rest →
    readValue fuel (s ++ rest) = (v, some rest)

theorem readWord_append (word rest : List Char) : readWord word (word ++ rest) = .ok rest := by
  induction word with
  | nil => rfl
  | cons c word ih =>
      rw [List.cons_append, readWord, if_pos rfl]
      exact ih

theorem delimited_cons {c : Char} (h : isSpace c = true ∨ c = ',' ∨ c = ']' ∨ c = '\x7d')
    (s : List Char) : Delimited (c :: s) := by
  intro d hd
  obtain rfl : c = d := Option.some.inj hd
  rcases h with h | rfl | rfl | rfl
  · simp only [isSpace, Bool.or_eq_true, beq_iff_eq] at h
    rcases h with ((rfl | rfl) | rfl) | rfl <;> decide
  · decide
  · decide
  · decide

theorem delimited_blank_append {w s : List Char} (hw : Blank w) (hs : Delimited s) :
    Delimited (w ++ s) := by
  cases w with
  | nil => exact hs
  | cons c w => exact delimited_cons (.inl (hw c List.mem_cons_self)) (w ++ s)

-- ------------------------------------------------------------- arrays

section

variable {i : Slot}

theorem skipSpace_written (hi : i.Padded) (hbegins : Begins i.text) (s : List Char) :
    skipSpace (i.written ++ s) = i.text ++ (i.after ++ s) := by
  obtain ⟨c, r, htext, hc, -⟩ := hbegins
  unfold Slot.written
  rw [List.append_assoc, List.append_assoc, skipSpace_append hi.1, htext]
  exact skipSpace_cons hc _

theorem skipSpace_after (hi : i.Padded) {c : Char} (hc : isSpace c = false) (s : List Char) :
    skipSpace (i.after ++ c :: s) = c :: s := by
  rw [skipSpace_append hi.2, skipSpace_cons hc]

/-- One item is read, and then what stands behind it is looked at. -/
theorem readItems_written (hi : i.Padded) (hbegins : Begins i.text)
    (h : ReadsValue i.text i.value) (hfuel : i.text.length ≤ fuel) {c : Char}
    (hc : c = ',' ∨ c = ']') (rest : List Char) :
    readItems (fuel + 1) (i.written ++ c :: rest)
      = if c = ']' then ([i.value], .closed, some rest)
        else
          let (items, ending, after) := readItems fuel rest
          (i.value :: items, ending, after) := by
  have hspace : isSpace c = false := by
    rcases hc with rfl | rfl
    · rfl
    · rfl
  have hread := h fuel (i.after ++ c :: rest) hfuel
    (delimited_blank_append hi.2 (delimited_cons (.inr (hc.imp_right .inl)) rest))
  rw [readItems, skipSpace_written hi hbegins]
  obtain ⟨d, r, htext, -, hd⟩ := hbegins
  split
  next heq => rw [htext] at heq; cases heq
  next heq => rw [htext] at heq; exact absurd (List.cons.inj heq).1 hd
  next =>
    rw [hread]
    simp only [skipSpace_after hi hspace]
    rcases hc with rfl | rfl
    · rfl
    · rfl

end

/-- The items of an array are read one after the other. -/
theorem readItems_of_slots {items : List Slot} (hne : items ≠ []) (hpadded : ∀ i ∈ items, i.Padded)
    (hbegins : ∀ i ∈ items, Begins i.text) (h : ∀ i ∈ items, ReadsValue i.text i.value)
    (hfuel : ([','].intercalate (items.map Slot.written)).length < fuel) (rest : List Char) :
    readItems fuel ([','].intercalate (items.map Slot.written) ++ ']' :: rest)
      = (items.map Slot.value, .closed, some rest) := by
  induction items generalizing fuel with
  | nil => exact absurd rfl hne
  | cons i more ih =>
      obtain ⟨fuel, rfl⟩ := Nat.exists_eq_succ_of_ne_zero (Nat.ne_of_gt (Nat.zero_lt_of_lt hfuel))
      obtain ⟨hi, hpadded⟩ := List.forall_mem_cons.1 hpadded
      obtain ⟨hbegin, hbegins⟩ := List.forall_mem_cons.1 hbegins
      obtain ⟨hread, h⟩ := List.forall_mem_cons.1 h
      have hlength : i.text.length ≤ i.written.length := by
        unfold Slot.written
        rw [List.length_append, List.length_append]
        omega
      cases more with
      | nil =>
          rw [List.map_singleton, List.intercalate_singleton] at hfuel ⊢
          rw [readItems_written hi hbegin hread (by omega) (.inr rfl)]
          rfl
      | cons j more =>
          have hmore := List.cons_ne_nil j more
          have hmap : (j :: more).map Slot.written ≠ [] := List.cons_ne_nil _ _
          rw [List.map_cons, List.intercalate_cons_of_ne_nil hmap] at hfuel ⊢
          rw [List.length_append, List.length_append, List.length_singleton] at hfuel
          rw [List.append_assoc, List.append_assoc, List.singleton_append,
            readItems_written hi hbegin hread (by omega) (.inl rfl), if_neg (by decide),
            ih hmore hpadded hbegins h (by omega)]
          rfl

-- ------------------------------------------------------------ objects

/-- One member is read, and then what stands behind it is looked at. -/
theorem readMembers_written {m : Field} (hm : m.Padded)
    (h : ReadsValue m.slot.text m.slot.value) (hfuel : m.slot.text.length ≤ fuel) {c : Char}
    (hc : c = ',' ∨ c = '\x7d') (rest : List Char) :
    readMembers (fuel + 1) (m.written ++ c :: rest)
      = if c = '\x7d' then ([(m.key, m.slot.value)], .closed, some rest)
        else
          let (members, ending, after) := readMembers fuel rest
          ((m.key, m.slot.value) :: members, ending, after) := by
  obtain ⟨hbefore, hafter, hslot, hkey⟩ := hm
  have hspace : isSpace c = false := by
    rcases hc with rfl | rfl
    · rfl
    · rfl
  have hread : readValue fuel (m.slot.written ++ c :: rest)
      = (m.slot.value, some (m.slot.after ++ c :: rest)) := by
    unfold Slot.written
    rw [List.append_assoc, List.append_assoc, readValue_blank_append hslot.1]
    exact h fuel _ hfuel (delimited_blank_append hslot.2
      (delimited_cons (.inr (hc.imp_right .inr)) rest))
  obtain ⟨inside, htext, hstring⟩ :=
    readString_of_quoted hkey (m.after ++ ':' :: (m.slot.written ++ c :: rest))
  have hwhole : m.written ++ c :: rest
      = m.before ++ '\x22' :: (inside ++ '\x22' :: (m.after ++ ':' :: (m.slot.written ++ c :: rest))) := by
    unfold Field.written
    rw [htext]
    simp only [List.append_assoc, List.cons_append, List.nil_append]
  have hcolon : skipSpace (m.after ++ ':' :: (m.slot.written ++ c :: rest))
      = ':' :: (m.slot.written ++ c :: rest) := by
    rw [skipSpace_append hafter, skipSpace_cons rfl]
  rw [hwhole, readMembers, skipSpace_append hbefore, skipSpace_cons rfl]
  simp only [hstring, hcolon, hread, skipSpace_after hslot hspace]
  rcases hc with rfl | rfl
  · rfl
  · rfl

/-- The members of an object are read one after the other. -/
theorem readMembers_of_fields {members : List Field} (hne : members ≠ [])
    (hpadded : ∀ m ∈ members, m.Padded)
    (h : ∀ m ∈ members, ReadsValue m.slot.text m.slot.value)
    (hfuel : ([','].intercalate (members.map Field.written)).length < fuel) (rest : List Char) :
    readMembers fuel ([','].intercalate (members.map Field.written) ++ '\x7d' :: rest)
      = (members.map fun m => (m.key, m.slot.value), .closed, some rest) := by
  induction members generalizing fuel with
  | nil => exact absurd rfl hne
  | cons m more ih =>
      obtain ⟨fuel, rfl⟩ := Nat.exists_eq_succ_of_ne_zero (Nat.ne_of_gt (Nat.zero_lt_of_lt hfuel))
      obtain ⟨hm, hpadded⟩ := List.forall_mem_cons.1 hpadded
      obtain ⟨hread, h⟩ := List.forall_mem_cons.1 h
      have hlength : m.slot.text.length ≤ m.written.length := by
        unfold Field.written Slot.written
        simp only [List.length_append, List.length_cons]
        omega
      cases more with
      | nil =>
          rw [List.map_singleton, List.intercalate_singleton] at hfuel ⊢
          rw [readMembers_written hm hread (by omega) (.inr rfl)]
          rfl
      | cons n more =>
          have hmore := List.cons_ne_nil n more
          have hmap : (n :: more).map Field.written ≠ [] := List.cons_ne_nil _ _
          rw [List.map_cons, List.intercalate_cons_of_ne_nil hmap] at hfuel ⊢
          rw [List.length_append, List.length_append, List.length_singleton] at hfuel
          rw [List.append_assoc, List.append_assoc, List.singleton_append,
            readMembers_written hm hread (by omega) (.inl rfl), if_neg (by decide),
            ih hmore hpadded h (by omega)]
          rfl

-- ---------------------------------------------------------- any value

variable {rest : List Char}

theorem readValue_null : readValue (fuel + 1) ('n' :: 'u' :: 'l' :: 'l' :: rest) = (.null, some rest) := by
  have hword : readWord "ull".toList ('u' :: 'l' :: 'l' :: rest) = .ok rest :=
    readWord_append ['u', 'l', 'l'] rest
  rw [readValue, skipSpace_cons rfl]
  dsimp only
  rw [if_neg (by decide), if_neg (by decide), if_neg (by decide), if_pos rfl, hword]

theorem readValue_true :
    readValue (fuel + 1) ('t' :: 'r' :: 'u' :: 'e' :: rest) = (.bool true, some rest) := by
  have hword : readWord "rue".toList ('r' :: 'u' :: 'e' :: rest) = .ok rest :=
    readWord_append ['r', 'u', 'e'] rest
  rw [readValue, skipSpace_cons rfl]
  dsimp only
  rw [if_neg (by decide), if_neg (by decide), if_neg (by decide), if_neg (by decide), if_pos rfl,
    hword]

theorem readValue_false :
    readValue (fuel + 1) ('f' :: 'a' :: 'l' :: 's' :: 'e' :: rest) = (.bool false, some rest) := by
  have hword : readWord "alse".toList ('a' :: 'l' :: 's' :: 'e' :: rest) = .ok rest :=
    readWord_append ['a', 'l', 's', 'e'] rest
  rw [readValue, skipSpace_cons rfl]
  dsimp only
  rw [if_neg (by decide), if_neg (by decide), if_neg (by decide), if_neg (by decide),
    if_neg (by decide), if_pos rfl, hword]

theorem readValue_minus {s : List Char} {v : Reading} (h : readUnsigned true s = .ok (v, rest)) :
    readValue (fuel + 1) ('-' :: s) = (v, some rest) := by
  rw [readValue, skipSpace_cons rfl]
  dsimp only
  rw [if_neg (by decide), if_neg (by decide), if_neg (by decide), if_neg (by decide),
    if_neg (by decide), if_neg (by decide), if_pos rfl, h]

theorem readValue_digit {d : Char} (hd : d.isDigit = true) {s : List Char} {v : Reading}
    (h : readUnsigned false (d :: s) = .ok (v, rest)) :
    readValue (fuel + 1) (d :: s) = (v, some rest) := by
  have hne : ∀ c : Char, c.isDigit = false → d ≠ c := by
    rintro c hc rfl
    rw [hd] at hc
    cases hc
  rw [readValue, skipSpace_cons (isSpace_of_isDigit hd)]
  dsimp only
  rw [if_neg (hne _ rfl), if_neg (hne _ rfl), if_neg (hne _ rfl), if_neg (hne _ rfl),
    if_neg (hne _ rfl), if_neg (hne _ rfl), if_neg (hne _ rfl), if_pos hd, h]

theorem readValue_quoted {s : List Char} {o : Option String} (h : Quoted s o) :
    readValue (fuel + 1) (s ++ rest)
      = (match o with
        | some t => .string t
        | none => .unreadable none, some rest) := by
  obtain ⟨inside, rfl, hstring⟩ := readString_of_quoted h rest
  rw [List.append_assoc, List.cons_append, List.singleton_append, readValue, skipSpace_cons rfl]
  dsimp only
  rw [if_pos rfl, hstring]
  cases o with
  | none => rfl
  | some t => rfl

theorem readValue_emptyArray {w : List Char} (hw : Blank w) :
    readValue (fuel + 1) ('[' :: (w ++ ']' :: rest)) = (.array [] .closed, some rest) := by
  rw [readValue, skipSpace_cons rfl]
  dsimp only
  rw [if_neg (by decide), if_pos rfl, skipSpace_append hw, skipSpace_cons rfl]
  rfl

theorem readValue_emptyObject {w : List Char} (hw : Blank w) :
    readValue (fuel + 1) ('\x7b' :: (w ++ '\x7d' :: rest)) = (.object [] .closed, some rest) := by
  rw [readValue, skipSpace_cons rfl]
  dsimp only
  rw [if_neg (by decide), if_neg (by decide), if_pos rfl, skipSpace_append hw, skipSpace_cons rfl]
  rfl

/-- Items are read alike with and without the white space in front of them. -/
theorem readItems_skipSpace (fuel : Nat) (s : List Char) :
    readItems fuel (skipSpace s) = readItems fuel s := by
  cases fuel with
  | zero => rfl
  | succ fuel => rw [readItems, readItems, skipSpace_skipSpace]

theorem readMembers_skipSpace (fuel : Nat) (s : List Char) :
    readMembers fuel (skipSpace s) = readMembers fuel s := by
  cases fuel with
  | zero => rfl
  | succ fuel => rw [readMembers, readMembers, skipSpace_skipSpace]

theorem readValue_array {s : List Char} (hs : ∀ r, skipSpace s ≠ ']' :: r) {items : List Reading}
    (h : readItems fuel s = (items, .closed, some rest)) :
    readValue (fuel + 1) ('[' :: s) = (.array items .closed, some rest) := by
  rw [readValue, skipSpace_cons rfl]
  dsimp only
  rw [if_neg (by decide), if_pos rfl]
  split
  next heq => exact absurd heq (hs _)
  next => rw [readItems_skipSpace, h]

theorem readValue_object {s : List Char} (hs : ∀ r, skipSpace s ≠ '\x7d' :: r)
    {members : List (Option String × Reading)}
    (h : readMembers fuel s = (members, .closed, some rest)) :
    readValue (fuel + 1) ('\x7b' :: s) = (.object members .closed, some rest) := by
  rw [readValue, skipSpace_cons rfl]
  dsimp only
  rw [if_neg (by decide), if_neg (by decide), if_pos rfl]
  split
  next heq => exact absurd heq (hs _)
  next => rw [readMembers_skipSpace, h]

theorem ReadsValue.of_succ {s : List Char} {v : Reading} (hs : s ≠ [])
    (h : ∀ (fuel : Nat) (rest : List Char), s.length ≤ fuel + 1 → Delimited rest →
      readValue (fuel + 1) (s ++ rest) = (v, some rest)) : ReadsValue s v := by
  intro fuel rest hfuel hrest
  have hpos := List.length_pos_iff.2 hs
  obtain ⟨fuel, rfl⟩ := Nat.exists_eq_succ_of_ne_zero (by omega : fuel ≠ 0)
  exact h fuel rest hfuel hrest

theorem exists_intercalate_cons (sep : List Char) (piece : List Char)
    (more : List (List Char)) : ∃ tail, sep.intercalate (piece :: more) = piece ++ tail := by
  cases more with
  | nil => exact ⟨[], by rw [List.intercalate_singleton, List.append_nil]⟩
  | cons next more =>
      refine ⟨sep ++ sep.intercalate (next :: more), ?_⟩
      rw [List.intercalate_cons_of_ne_nil (List.cons_ne_nil _ _), List.append_assoc]

theorem skipSpace_slots_ne {items : List Slot} (hne : items ≠ [])
    (hpadded : ∀ i ∈ items, i.Padded) (hbegins : ∀ i ∈ items, Begins i.text) (s r : List Char) :
    skipSpace ([','].intercalate (items.map Slot.written) ++ s) ≠ ']' :: r := by
  obtain ⟨i, more, rfl⟩ := List.exists_cons_of_ne_nil hne
  have hbegin := hbegins i List.mem_cons_self
  obtain ⟨tail, htail⟩ := exists_intercalate_cons [','] i.written (more.map Slot.written)
  rw [List.map_cons, htail, List.append_assoc,
    skipSpace_written (hpadded i List.mem_cons_self) hbegin]
  obtain ⟨c, text, htext, -, hc⟩ := hbegin
  rw [htext]
  intro heq
  exact hc (List.cons.inj heq).1

theorem skipSpace_fields_ne {members : List Field} (hne : members ≠ [])
    (hpadded : ∀ m ∈ members, m.Padded) (s r : List Char) :
    skipSpace ([','].intercalate (members.map Field.written) ++ s) ≠ '\x7d' :: r := by
  obtain ⟨m, more, rfl⟩ := List.exists_cons_of_ne_nil hne
  obtain ⟨hbefore, -, -, hkey⟩ := hpadded m List.mem_cons_self
  obtain ⟨inside, htext, -⟩ := readString_of_quoted hkey []
  obtain ⟨tail, htail⟩ := exists_intercalate_cons [','] m.written (more.map Field.written)
  rw [List.map_cons, htail, Field.written, htext]
  simp only [List.append_assoc, List.cons_append]
  rw [skipSpace_append hbefore, skipSpace_cons rfl]
  exact fun heq => nomatch (List.cons.inj heq).1

theorem length_between (first last : Char) (s : List Char) :
    (first :: s ++ [last]).length = s.length + 2 := by
  rw [List.length_append, List.length_cons, List.length_singleton]

/-- What is well formed is read as what it stands for. -/
theorem readsValue_of_value {s : List Char} {v : Reading} (h : Value s v) : ReadsValue s v := by
  induction h with
  | null => exact .of_succ (List.cons_ne_nil _ _) fun _ _ _ _ => readValue_null
  | true => exact .of_succ (List.cons_ne_nil _ _) fun _ _ _ _ => readValue_true
  | false => exact .of_succ (List.cons_ne_nil _ _) fun _ _ _ _ => readValue_false
  | number hwhole hpoint hmark =>
      have hread {rest : List Char} (hrest : Delimited rest) :=
        readUnsigned_append false hwhole hpoint hmark hrest
      obtain ⟨d, more, rfl, hd⟩ := exists_whole hwhole
      exact .of_succ (List.cons_ne_nil _ _) fun _ _ _ hrest => readValue_digit hd (hread hrest)
  | minus hwhole hpoint hmark =>
      refine .of_succ (List.cons_ne_nil _ _) fun _ _ _ hrest => ?_
      exact readValue_minus (readUnsigned_append true hwhole hpoint hmark hrest)
  | string h =>
      obtain ⟨inside, rfl, -⟩ := readString_of_quoted h []
      exact .of_succ (List.cons_ne_nil _ _) fun _ _ _ _ => readValue_quoted h
  | unpaired h =>
      obtain ⟨inside, rfl, -⟩ := readString_of_quoted h []
      exact .of_succ (List.cons_ne_nil _ _) fun _ _ _ _ => readValue_quoted h
  | emptyArray hw =>
      refine .of_succ (List.cons_ne_nil _ _) fun fuel rest _ _ => ?_
      rw [List.append_assoc]
      exact readValue_emptyArray hw
  | @array items hne hpadded hvalue ih =>
      have hbegins : ∀ i ∈ items, Begins i.text := fun i hi => begins_of_value (hvalue i hi)
      refine .of_succ (List.cons_ne_nil _ _) fun fuel rest hfuel _ => ?_
      rw [length_between] at hfuel
      rw [List.append_assoc]
      exact readValue_array (skipSpace_slots_ne hne hpadded hbegins _)
        (readItems_of_slots hne hpadded hbegins ih (by omega) rest)
  | emptyObject hw =>
      refine .of_succ (List.cons_ne_nil _ _) fun fuel rest _ _ => ?_
      rw [List.append_assoc]
      exact readValue_emptyObject hw
  | @object members hne hpadded _ ih =>
      refine .of_succ (List.cons_ne_nil _ _) fun fuel rest hfuel _ => ?_
      rw [length_between] at hfuel
      rw [List.append_assoc]
      exact readValue_object (skipSpace_fields_ne hne hpadded _)
        (readMembers_of_fields hne hpadded ih (by omega) rest)

-- ======================================================== whole texts

/-- A whole text is read as the value in it. -/
theorem read_of_value {s before after : List Char} {v : Reading} (h : Value s v)
    (hbefore : Blank before) (hafter : Blank after) :
    read (before ++ s ++ after) = ⟨v, none⟩ := by
  have hdelimited : Delimited after := by
    have := delimited_blank_append hafter (s := []) nofun
    rwa [List.append_nil] at this
  have hrest : skipSpace after = [] := by
    have := skipSpace_append hafter []
    rwa [List.append_nil] at this
  have hlength : s.length ≤ (before ++ s ++ after).length + 1 := by
    rw [List.length_append, List.length_append]
    omega
  unfold read
  rw [List.append_assoc, readValue_blank_append hbefore,
    readsValue_of_value h _ after (by rwa [← List.append_assoc]) hdelimited]
  dsimp only
  rw [hrest]
  rfl

end Marginalia.Json
