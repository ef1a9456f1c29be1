/-
The text of elements whose text is not markup. It runs up to the end tag
of the element itself, or to the end of the document where there is none.
In a script an opening "<!--" changes what counts: from there to "-->" a
script tag nested in the text takes the next script end tag for itself.
-/
import Marginalia.Html.Token.Tag

namespace Marginalia.Html

/-- How the characters that come next are to be read. -/
inductive TextKind where
  /-- Tags, comments and text. -/
  | markup
  /-- Text up to the end tag of the given name. -/
  | raw (name : String)
  /-- The same, but with character references. -/
  | escapable (name : String)
  /-- Text up to the end tag of a script. -/
  | script
  /-- Nothing but text from here on. -/
  | plain
deriving DecidableEq, Repr

/-- Whether a text begins with a name, in any letter case, that ends
there. -/
def beginsWithName (name : List Char) (s : List Char) : Bool :=
  (s.take name.length).map Char.toLower = name
    && ((s.drop name.length).head?.map endsName).getD false

/-- Whether what follows a "<" makes it the end tag of the given name. -/
def closesElement (name : List Char) : List Char → Bool
  | '/' :: r => beginsWithName name r
  | _ => false

/-- The text up to the end tag of the given name, and what follows the
text. -/
def rawText (name : List Char) : List Char → List Char × List Char
  | [] => ([], [])
  | c :: r =>
    if c = '<' && closesElement name r then ([], c :: r)
    else consFirst (shown c) (rawText name r)

/-- How deep a script's text is in nested comment and script marks. -/
inductive ScriptLevel where
  | outside
  /-- After "<!--", with so many dashes before the next character. -/
  | commented (dashes : Nat)
  /-- After a script tag inside such a comment. -/
  | nested (dashes : Nat)
deriving DecidableEq, Repr

/-- The name of the script element. -/
def scriptName : List Char :=
  ['s', 'c', 'r', 'i', 'p', 't']

/-- The level after a character, by the level before it and by what
follows the character. -/
def ScriptLevel.after (level : ScriptLevel) (c : Char) (following : List Char) :
    ScriptLevel :=
  match level with
  | outside =>
    match c, following with
    | '<', '!' :: '-' :: '-' :: _ => commented 0
    | _, _ => outside
  | commented dashes =>
    if c = '-' then commented (dashes + 1)
    else if c = '>' && 2 ≤ dashes then outside
    else if c = '<' && beginsWithName scriptName following then nested 0
    else commented 0
  | nested dashes =>
    if c = '-' then nested (dashes + 1)
    else if c = '>' && 2 ≤ dashes then outside
    else if c = '<' && closesElement scriptName following then commented 0
    else nested 0

/-- Whether a script's end tag ends the script at this level. -/
def ScriptLevel.mayEnd : ScriptLevel → Bool
  | nested _ => false
  | _ => true

/-- The text of a script up to its end tag, and what follows the text. -/
def scriptText (level : ScriptLevel) : List Char → List Char × List Char
  | [] => ([], [])
  | c :: r =>
    if c = '<' && level.mayEnd && closesElement scriptName r then ([], c :: r)
    else consFirst (shown c) (scriptText (level.after c r) r)

/-- The text with its character references replaced. -/
def decodeText : List Char → List Char
  | [] => []
  | '&' :: r =>
    match _found : Reference.ofText? false r with
    | some (chars, rest) => chars ++ decodeText rest
    | none => '&' :: decodeText r
  | c :: r => c :: decodeText r
termination_by s => s.length
decreasing_by
  · have := Reference.length_ofText? _found
    simp; omega
  all_goals simp

/-- The text of an element whose text is of a kind that is not markup, and
what follows the text. -/
def TextKind.take (kind : TextKind) (s : List Char) : List Char × List Char :=
  match kind with
  | markup => ([], s)
  | raw name => rawText name.toList s
  | escapable name =>
    let (text, rest) := rawText name.toList s
    (decodeText text, rest)
  | script => scriptText .outside s
  | plain => (s.map shown, [])

theorem length_rawText (name s : List Char) :
    (rawText name s).2.length ≤ s.length := by
  induction s with
  | nil => simp [rawText]
  | cons c r ih => rw [rawText]; split <;> simp [consFirst]; omega

theorem length_scriptText (level : ScriptLevel) (s : List Char) :
    (scriptText level s).2.length ≤ s.length := by
  induction s generalizing level with
  | nil => simp [scriptText]
  | cons c r ih =>
    rw [scriptText]
    split
    · simp
    · have := ih (level.after c r)
      simp [consFirst]; omega

theorem TextKind.length_take (kind : TextKind) (s : List Char) :
    (kind.take s).2.length ≤ s.length := by
  cases kind with
  | markup => simp [take]
  | raw name => exact length_rawText _ _
  | escapable name => exact length_rawText _ _
  | script => exact length_scriptText _ _
  | plain => simp [take]

end Marginalia.Html
