/-
Reading URLs, by themselves or relative to a base. White space and
controls at the ends of the text are dropped, tabs and line breaks
anywhere in it. The scheme decides how the rest is read: special schemes
take a host whatever the number of slashes, "file" a path with an
optional host, and all others a host only after two slashes.

Segments are encoded as they are read, dot segments resolved, and a
drive letter at the start of a file path is never removed.
-/
import Marginalia.Url.Basic

namespace Marginalia.Url

-- ======================================================== characters

/-- Controls and spaces, which are dropped at both ends. -/
def isEdge (c : Char) : Bool :=
  c.toNat ≤ 0x20

/-- Tabs and line breaks, which are dropped everywhere. -/
def isDropped (c : Char) : Bool :=
  c == '\t' || c == '\n' || c == '\r'

/-- The characters of a text that count. -/
def significant (s : List Char) : List Char :=
  (((s.dropWhile isEdge).reverse.dropWhile isEdge).reverse).filter (!isDropped ·)

/-- Whether a character separates path segments. -/
def isSlash (special : Bool) (c : Char) : Bool :=
  c == '/' || (special && c == '\\')

/-- Whether a character ends a path. -/
def endsPath (c : Char) : Bool :=
  c == '?' || c == '#'

/-- A letter and a colon or bar. -/
def isDriveLetter : List Char → Bool
  | [a, b] => a.isAlpha && (b == ':' || b == '|')
  | _ => false

/-- A letter and a colon. -/
def isNormalDriveLetter : List Char → Bool
  | [a, ':'] => a.isAlpha
  | _ => false

/-- Whether a text begins with a drive letter that is a segment of its
own. -/
def beginsWithDriveLetter : List Char → Bool
  | [a, b] => isDriveLetter [a, b]
  | a :: b :: c :: _ => isDriveLetter [a, b] && (isSlash true c || endsPath c)
  | _ => false

-- ============================================================ paths

/-- A path in the making: the segments that a slash follows, and the text
after the last slash. -/
structure Trail where
  done : List (List Char)
  tip : List Char

namespace Trail

/-- The segments of a finished path. -/
def segments (t : Trail) : List (List Char) :=
  t.done ++ [t.tip]

/-- The path after a further slash. -/
def close (t : Trail) : Trail :=
  ⟨t.done ++ [t.tip], []⟩

/-- The path one level up. Drive letters stay. -/
def up (t : Trail) : Trail :=
  if t.tip.isEmpty then
    match t.done.reverse with
    | last :: before => if isDriveLetter last then t else ⟨before.reverse, []⟩
    | [] => t
  else t

end Trail

/-- One dot, plain or encoded. -/
def isDot (s : List Char) : Bool :=
  s == ['.'] || s.map Char.toLower == ['%', '2', 'e']

/-- Two dots, each plain or encoded. -/
def isDoubleDot (s : List Char) : Bool :=
  [['.', '.'], ['.', '%', '2', 'e'], ['%', '2', 'e', '.'],
    ['%', '2', 'e', '%', '2', 'e']].contains (s.map Char.toLower)

/-- Adds one segment to a path. -/
def addSegment (file : Bool) (t : Trail) (segment : List Char) (slash : Bool) :
    Trail :=
  if isDoubleDot segment then
    let t := t.up
    if slash && !t.tip.isEmpty then t.close else t
  else if isDot segment then
    if t.tip.isEmpty then t else t.close
  else
    let segment :=
      if file && t.done.isEmpty && t.tip.isEmpty && isDriveLetter segment then
        segment.take 1 ++ [':']
      else segment
    let t : Trail := ⟨t.done, t.tip ++ segment⟩
    if slash then t.close else t

/-- Reads segments up to a query, a fragment or the end. -/
def readPath (special file : Bool) (t : Trail) (s : List Char) :
    Trail × List Char :=
  let raw := s.takeWhile fun c => !isSlash special c && !endsPath c
  let segment := percentEncode inPathSet raw
  match _after : s.drop raw.length with
  | [] => (addSegment file t segment false, [])
  | c :: r =>
    if isSlash special c then
      readPath special file (addSegment file t segment true) r
    else (addSegment file t segment false, c :: r)
termination_by s.length
decreasing_by
  have h := congrArg List.length _after
  simp only [List.length_drop, List.length_cons] at h
  omega

/-- The segments of a path. In a file path no empty segment comes
first. -/
def finishPath (file : Bool) (t : Trail) : UrlPath :=
  let segs := t.segments
  let segs :=
    if file then
      match segs.dropWhile List.isEmpty with
      | [] => [[]]
      | kept => kept
    else segs
  .segments (segs.map String.ofList)

/-- A path read from the root. -/
def rootedPath (special file : Bool) (s : List Char) : UrlPath × List Char :=
  let (t, rest) := readPath special file ⟨[], []⟩ s
  (finishPath file t, rest)

-- ============================================== query and fragment

/-- The fragment after its mark. -/
def readFragment (s : List Char) : String :=
  String.ofList (percentEncode inFragmentSet s)

/-- Query and fragment. -/
def readTail (special : Bool) (s : List Char) : Option String × Option String :=
  let query (q : List Char) : String :=
    String.ofList
      (percentEncode (if special then inSpecialQuerySet else inQuerySet) q)
  match s with
  | '?' :: r =>
    let q := r.takeWhile (· != '#')
    match r.drop q.length with
    | [] => (some (query q), none)
    | _ :: f => (some (query q), some (readFragment f))
  | '#' :: r => (none, some (readFragment r))
  | _ => (none, none)

/-- The URL with the query and fragment that begin here. -/
def withTail (u : Url) (s : List Char) : Url :=
  let (query, fragment) := readTail (isSpecial u.scheme) s
  { u with query, fragment }

-- ========================================================== authority

/-- The characters up to the end of the authority. -/
def isInAuthority (special : Bool) (c : Char) : Bool :=
  !isSlash special c && !endsPath c

/-- The parts of the text before its last at-sign within the authority,
and the text after that. -/
def splitUserinfo (special : Bool) (s : List Char) :
    Option (List Char × List Char) :=
  let whole := s.takeWhile (isInAuthority special)
  let after := (whole.reverse.takeWhile (· != '@')).length
  if after = whole.length then none
  else
    let n := whole.length - after
    some (whole.take (n - 1), s.drop n)

/-- User name and password, encoded. -/
def readUserinfo (s : List Char) : String × String :=
  let encoded (t : List Char) : String :=
    String.ofList (percentEncode inUserinfoSet t)
  match Text.splitFirst [':'] s with
  | none => (encoded s, "")
  | some (name, password) => (encoded name, encoded password)

/-- The length of the host at the start of a text: up to a colon outside
square brackets or the end of the authority. -/
def hostLength (special : Bool) (inBrackets : Bool) : List Char → Nat
  | [] => 0
  | c :: r =>
    if (c == ':' && !inBrackets) || !isInAuthority special c then 0
    else hostLength special ((inBrackets || c == '[') && c != ']') r + 1

/-- The port after its colon: `none` for a text that is no port. A port
that is empty or the scheme's own is left out. -/
def readPort? (scheme : String) (s : List Char) : Option (Option Nat × List Char) :=
  let ds := s.takeWhile Char.isDigit
  let rest := s.drop ds.length
  let n := ds.foldl (fun n d => 10 * n + (d.toNat - '0'.toNat)) 0
  let ended :=
    match rest with
    | [] => true
    | c :: _ => isSlash true c || endsPath c
  if !ended || 65535 < n then none
  else if ds.isEmpty || defaultPort? scheme == some n then some (none, rest)
  else some (some n, rest)

/-- A URL from the text after the double slash. -/
def readAuthority? (scheme : String) (s : List Char) : Option Url := do
  let special := isSpecial scheme
  let (username, password, s) ←
    match splitUserinfo special s with
    | none => some ("", "", s)
    | some ([], rest) =>
      match rest with
      | c :: _ => if isInAuthority special c then some ("", "", rest) else none
      | [] => some ("", "", rest)
    | some (info, rest) =>
      let (name, password) := readUserinfo info
      some (name, password, rest)
  let n := hostLength special false s
  let hostText := s.take n
  let rest := s.drop n
  if special && hostText.isEmpty then none
  let host ← if special then Host.parse? hostText else Host.parseOther? hostText
  if host == .domain "" then
    if rest.head? == some ':' || username != "" || password != "" then none
  let (port, rest) ←
    match rest with
    | ':' :: r => readPort? scheme r
    | r => some (none, r)
  let bare : Url :=
    { scheme, username, password, host := some host, port,
      path := .segments [], query := none, fragment := none }
  match rest with
  | [] =>
    let path := if special then .segments [""] else .segments []
    return { bare with path }
  | c :: r =>
    if endsPath c && !special then return bare.withTail rest
    else
      let (path, rest) := rootedPath special false (if isSlash special c then r else rest)
      return { bare with path }.withTail rest

-- =============================================================== file

/-- A file URL with the given host and path. -/
def fileUrl (host : Host) (path : UrlPath) : Url :=
  { scheme := "file", username := "", password := "", host := some host,
    port := none, path, query := none, fragment := none }

/-- The host of a file URL that names none. -/
def noHost : Host :=
  .domain ""

/-- The first segment of a path. -/
def firstSegment (u : Url) : List Char :=
  match u.path with
  | .segments (s :: _) => s.toList
  | _ => []

/-- A file URL from the text after the double slash. -/
def readFileHost? (s : List Char) : Option Url := do
  let hostText := s.takeWhile (isInAuthority true)
  let (host, rest) ←
    if isDriveLetter hostText then some (noHost, s)
    else if hostText.isEmpty then some (noHost, s)
    else do
      let host ← Host.parse? hostText
      let host := if host == .domain "localhost" then noHost else host
      some (host, s.drop hostText.length)
  let begun :=
    match rest with
    | c :: r => if isSlash true c then r else rest
    | [] => []
  let (path, tail) := rootedPath true true begun
  let u := fileUrl host path
  let u :=
    if isDriveLetter (begun.takeWhile fun c => isInAuthority true c) then
      { u with host := some noHost }
    else u
  return u.withTail tail

/-- A path relative to the path of a base. -/
def relativePath (special file : Bool) (base : Url) (s : List Char) :
    UrlPath × List Char :=
  let segs :=
    match base.path with
    | .segments list => list.map String.toList
    | .undivided _ => []
  let start : Trail :=
    match segs.reverse with
    | last :: before =>
      if file && isNormalDriveLetter last then ⟨before.reverse, last⟩
      else ⟨before.reverse, []⟩
    | [] => ⟨[], []⟩
  let (t, rest) := readPath special file start s
  (finishPath file t, rest)

/-- A file URL from the text after its scheme, or from a text without a
scheme. -/
def readFile? (base : Option Url) (s : List Char) : Option Url :=
  match s with
  | a :: b :: r =>
    if isSlash true a && isSlash true b then readFileHost? r
    else readOther a (b :: r)
  | [a] => readOther a []
  | [] =>
    match base with
    | some base => some { base with fragment := none }
    | none => some (fileUrl noHost (.segments [""]))
where
  /-- A text that does not begin with two slashes. -/
  readOther (a : Char) (r : List Char) : Option Url :=
    if isSlash true a then
      let start : Trail × Host :=
        match base with
        | some base =>
          if beginsWithDriveLetter r then (⟨[], []⟩, noHost)
          else if isNormalDriveLetter base.firstSegment then
            (⟨[base.firstSegment], []⟩, noHost)
          else (⟨[], []⟩, base.host.getD noHost)
        | none => (⟨[], []⟩, noHost)
      let (t, rest) := readPath true true start.1 r
      some ((fileUrl start.2 (finishPath true t)).withTail rest)
    else
      match base with
      | none =>
        let (path, rest) := rootedPath true true (a :: r)
        some ((fileUrl noHost path).withTail rest)
      | some base =>
        if a = '?' then some (base.withTail (a :: r))
        else if a = '#' then some { base with fragment := some (readFragment r) }
        else if beginsWithDriveLetter (a :: r) then
          let (path, rest) := rootedPath true true (a :: r)
          some ((fileUrl noHost path).withTail rest)
        else
          let (path, rest) := relativePath true true base (a :: r)
          some ({ base with path }.withTail rest)

-- ============================================================ relative

/-- A text without a scheme, or with the scheme of the base, relative to
a base that is no file. -/
def readRelative? (base : Url) (s : List Char) : Option Url :=
  let special := isSpecial base.scheme
  match s with
  | [] => some { base with fragment := none }
  | c :: r =>
    if c = '?' then some (base.withTail s)
    else if c = '#' then some { base with fragment := some (readFragment r) }
    else if isSlash true c then
      match r with
      | d :: more =>
        if isSlash true d then
          if c = '/' && d = '/' then readAuthority? base.scheme more
          else readAuthority? base.scheme (s.dropWhile (isSlash true))
        else
          let (path, rest) := rootedPath special false r
          some ({ base with path }.withTail rest)
      | [] => some { base with path := .segments [""], query := none, fragment := none }
    else
      let (path, rest) := relativePath special false base s
      some ({ base with path }.withTail rest)

-- ============================================================== schemes

/-- Characters of a scheme after the first. -/
def isSchemeChar (c : Char) : Bool :=
  c.isAlphanum || c == '+' || c == '-' || c == '.'

/-- The scheme at the start of a text, in lower case, and the text after
its colon. -/
def splitScheme (s : List Char) : Option (String × List Char) :=
  match s with
  | c :: _ =>
    if c.isAlpha then
      let name := s.takeWhile isSchemeChar
      match s.drop name.length with
      | ':' :: rest => some (String.ofList (name.map Char.toLower), rest)
      | _ => none
    else none
  | [] => none

/-- A URL that needs no host, from the text after its scheme. -/
def readPlain (scheme : String) (s : List Char) : Url :=
  let bare (path : UrlPath) : Url :=
    { scheme, username := "", password := "", host := none, port := none,
      path, query := none, fragment := none }
  match s with
  | '/' :: r =>
    let (path, rest) := rootedPath false false r
    (bare path).withTail rest
  | s =>
    let text := s.takeWhile (!endsPath ·)
    (bare (.undivided (String.ofList (percentEncode isControl text)))).withTail
      (s.drop text.length)

/-- A URL from its scheme and the text after it. -/
def readScheme? (base : Option Url) (scheme : String) (s : List Char) :
    Option Url :=
  if scheme = "file" then
    readFile? (base.filter fun b => b.scheme == "file") s
  else if isSpecial scheme then
    let slashes := s.takeWhile (isSlash true)
    match base with
    | some base =>
      if slashes.length < 2 && base.scheme == scheme then readRelative? base s
      else readAuthority? scheme (s.drop slashes.length)
    | none => readAuthority? scheme (s.drop slashes.length)
  else
    match s with
    | '/' :: '/' :: r => readAuthority? scheme r
    | s => some (readPlain scheme s)

/-- A URL from its text, relative to a base if there is one. -/
def read? (base : Option Url) (text : String) : Option Url :=
  let s := significant text.toList
  match splitScheme s with
  | some (scheme, rest) => readScheme? base scheme rest
  | none =>
    match base with
    | none => none
    | some base =>
      match base.path, s with
      | _, '#' :: r => some { base with fragment := some (readFragment r) }
      | .undivided _, _ => none
      | .segments _, s =>
        if base.scheme = "file" then readFile? (some base) s
        else readRelative? base s

/-- The URL with the given text. -/
def parse? (text : String) : Option Url :=
  read? none text

/-- The URL that a reference on a page stands for. -/
def join? (base : Url) (reference : String) : Option Url :=
  read? (some base) reference

end Marginalia.Url
