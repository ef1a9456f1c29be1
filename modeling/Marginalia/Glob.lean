/-
Glob patterns for ignoring sources. A star stands for any text, slashes
included, a question mark for any one character, square brackets for a
set of characters, and two stars for any number of whole path
components. A pattern has to match the whole of a name.
-/
namespace Marginalia

namespace Glob

/-- One entry in a set of characters. -/
inductive Member where
  | single (c : Char)
  | range (first last : Char)
deriving DecidableEq, Repr

/-- Whether a character is in a set. -/
def Member.holds (c : Char) : Member → Bool
  | single d => c == d
  | range first last => first ≤ c && c ≤ last

/-- One part of a pattern. -/
inductive Token where
  | char (c : Char)
  | anyChar
  | anyText
  /-- Any number of whole path components. -/
  | components
  | within (set : List Member)
  | outside (set : List Member)
deriving DecidableEq, Repr

/-- What is wrong with a pattern. -/
inductive Complaint where
  | tooManyStars
  | notAComponent
  | range
deriving DecidableEq, Repr

/-- The wording of a complaint. -/
def Complaint.message : Complaint → String
  | .tooManyStars => "wildcards are either regular `*` or recursive `**`"
  | .notAComponent => "recursive wildcards must form a single path component"
  | .range => "invalid range pattern"

/-- Why a text is no pattern, and where, counted in characters. -/
structure Error where
  position : Nat
  complaint : Complaint
deriving DecidableEq, Repr

/-- The wording of an error. -/
def Error.message (e : Error) : String :=
  "Pattern syntax error near position " ++ toString e.position ++ ": "
    ++ e.complaint.message

-- ========================================================= parsing

/-- The set between square brackets. -/
def members : List Char → List Member
  | [] => []
  | a :: '-' :: b :: r => .range a b :: members r
  | a :: r => .single a :: members r

/-- The characters up to the first closing bracket, and those after
it. -/
def untilBracket : List Char → Option (List Char × List Char)
  | [] => none
  | c :: r =>
    if c = ']' then some ([], r)
    else (untilBracket r).map fun (set, rest) => (c :: set, rest)

theorem length_untilBracket {s set rest : List Char}
    (h : untilBracket s = some (set, rest)) :
    rest.length + set.length + 1 = s.length := by
  induction s generalizing set with
  | nil => simp [untilBracket] at h
  | cons c r ih =>
    rw [untilBracket] at h
    split at h
    · simp only [Option.some.injEq, Prod.mk.injEq] at h
      obtain ⟨rfl, rfl⟩ := h
      simp
    · obtain ⟨⟨a, b⟩, hab, he⟩ := Option.map_eq_some_iff.1 h
      simp only [Prod.mk.injEq] at he
      obtain ⟨rfl, rfl⟩ := he
      have := ih hab
      simp only [List.length_cons]
      omega

/-- The set that begins after an opening bracket, whether it is negated,
and what follows its closing bracket. The first character of a set may
be a closing bracket. -/
def bracket? : List Char → Option (Bool × List Member × List Char)
  | '!' :: first :: r =>
    (untilBracket r).map fun (set, rest) => (true, members (first :: set), rest)
  | ['!'] => none
  | first :: r =>
    (untilBracket r).map fun (set, rest) => (false, members (first :: set), rest)
  | [] => none

theorem length_bracket? {s : List Char} {negated : Bool} {set : List Member}
    {rest : List Char} (h : bracket? s = some (negated, set, rest)) :
    rest.length < s.length := by
  unfold bracket? at h
  split at h
  · obtain ⟨⟨a, b⟩, hab, he⟩ := Option.map_eq_some_iff.1 h
    have := length_untilBracket hab
    simp only [Prod.mk.injEq] at he
    obtain ⟨-, -, rfl⟩ := he
    simp only [List.length_cons]
    omega
  · simp at h
  · obtain ⟨⟨a, b⟩, hab, he⟩ := Option.map_eq_some_iff.1 h
    have := length_untilBracket hab
    simp only [Prod.mk.injEq] at he
    obtain ⟨-, -, rfl⟩ := he
    simp only [List.length_cons]
    omega
  · simp at h

/-- Adds two stars to the tokens read so far, latest first. A second pair
right after a pair adds nothing, except at the start of the pattern. -/
def pushComponents : List Token → List Token
  | .components :: t :: earlier => .components :: t :: earlier
  | tokens => .components :: tokens

/-- Reads tokens at position `i`; `before` is the character before it and
`tokens` what has been read, latest first. -/
def parseFrom (i : Nat) (before : Option Char) (tokens : List Token) :
    List Char → Except Error (List Token)
  | [] => .ok tokens.reverse
  | '?' :: r => parseFrom (i + 1) (some '?') (.anyChar :: tokens) r
  | '*' :: '*' :: '*' :: _ => .error ⟨i + 2, .tooManyStars⟩
  | '*' :: '*' :: r =>
    if before = none ∨ before = some '/' then
      match r with
      | [] => .ok (pushComponents tokens).reverse
      | '/' :: r => parseFrom (i + 3) (some '/') (pushComponents tokens) r
      | _ :: _ => .error ⟨i + 2, .notAComponent⟩
    else .error ⟨i - 1, .notAComponent⟩
  | '*' :: r => parseFrom (i + 1) (some '*') (.anyText :: tokens) r
  | '[' :: r =>
    match h : bracket? r with
    | none => .error ⟨i, .range⟩
    | some (negated, set, rest) =>
      let token := if negated then .outside set else .within set
      parseFrom (i + (r.length - rest.length) + 1) (some ']')
        (token :: tokens) rest
  | c :: r => parseFrom (i + 1) (some c) (.char c :: tokens) r
termination_by s => s.length
decreasing_by
  all_goals first
    | have shorter := length_bracket? h
      simp
      omega
    | (simp; try omega)

-- ======================================================== matching

/-- Whether a test holds of some text left after dropping characters. -/
def atSomeSuffix (test : List Char → Bool) : List Char → Bool
  | [] => test []
  | c :: r => test (c :: r) || atSomeSuffix test r

/-- Whether a test holds of what follows some slash, or of nothing. -/
def afterSomeSlash (test : List Char → Bool) : List Char → Bool
  | [] => test []
  | c :: r => (c == '/' && test r) || afterSomeSlash test r

/-- Whether the tokens match the whole text. -/
def matchesAll : List Token → List Char → Bool
  | [], s => s.isEmpty
  | .anyText :: more, s => atSomeSuffix (matchesAll more) s
  | .components :: more, s =>
    matchesAll more s || afterSomeSlash (matchesAll more) s
  | .char d :: more, s =>
    match s with
    | [] => false
    | c :: r => c == d && matchesAll more r
  | .anyChar :: more, s =>
    match s with
    | [] => false
    | _ :: r => matchesAll more r
  | .within set :: more, s =>
    match s with
    | [] => false
    | c :: r => set.any (Member.holds c) && matchesAll more r
  | .outside set :: more, s =>
    match s with
    | [] => false
    | c :: r => !set.any (Member.holds c) && matchesAll more r

end Glob

/-- A glob pattern with its text. -/
structure Glob where
  pattern : String
  tokens : List Glob.Token
deriving DecidableEq, Repr

namespace Glob

/-- The pattern with the given text. -/
def parse (pattern : String) : Except Error Glob := do
  let tokens ← parseFrom 0 none [] pattern.toList
  return ⟨pattern, tokens⟩

/-- Whether the pattern matches the whole of a name. -/
def accepts (g : Glob) (name : String) : Bool :=
  matchesAll g.tokens name.toList

end Glob

end Marginalia
