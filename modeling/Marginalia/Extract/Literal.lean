/-
String literals of scripts and their elision. Before a script is searched
for comments every literal is emptied, so that comment marks inside a
string open nothing. Literals of one quotation mark are emptied at a
time: first single quotes, then double quotes, then backticks.
-/
namespace Marginalia.Extract

/-- A sort of string literal. -/
structure Delimiter where
  /-- The mark at both ends. -/
  mark : Char
  /-- Whether a bare line feed may stand inside. -/
  spansLines : Bool

/-- Literals in single quotes. -/
def singleQuoted : Delimiter :=
  ⟨'\x27', false⟩

/-- Literals in double quotes. -/
def doubleQuoted : Delimiter :=
  ⟨'\x22', false⟩

/-- Template literals, between backticks. -/
def template : Delimiter :=
  ⟨'\x60', true⟩

/-- What follows the literal whose opening mark has just been passed. A
backslash takes the character after it along, whatever it is. -/
def afterLiteral? (d : Delimiter) : List Char → Option (List Char)
  | [] => none
  | [c] => if c = d.mark then some [] else none
  | c :: e :: r =>
    if c = '\\' then afterLiteral? d r
    else if c = d.mark then some (e :: r)
    else if c = '\n' && !d.spansLines then none
    else afterLiteral? d (e :: r)

theorem length_afterLiteral? {d : Delimiter} {s r : List Char}
    (h : afterLiteral? d s = some r) : r.length < s.length := by
  fun_induction afterLiteral? d s with
  | case1 => simp at h
  | case2 => simp at h; simp [h]
  | case3 => simp at h
  | case4 _ _ ih => have := ih h; simp; omega
  | case5 => simp at h; simp [← h]
  | case6 => simp at h
  | case7 _ _ _ _ _ _ ih => have := ih h; simp at this ⊢; omega

/-- Empties the literals of one sort. A mark that opens no literal stays
as it is. -/
def elideDelimited (d : Delimiter) : List Char → List Char
  | [] => []
  | c :: r =>
    if c = d.mark then
      match _closed : afterLiteral? d r with
      | some rest => c :: c :: elideDelimited d rest
      | none => c :: elideDelimited d r
    else c :: elideDelimited d r
termination_by s => s.length
decreasing_by
  all_goals first
    | have shorter := length_afterLiteral? _closed
      simp
      omega
    | simp

/-- The text with every string literal emptied. -/
def elideStrings (s : List Char) : List Char :=
  elideDelimited template (elideDelimited doubleQuoted
    (elideDelimited singleQuoted s))

end Marginalia.Extract
