/-
File URLs read again. The URL of a path is written with its segments encoded, so
that none of them ends early or is taken for a step up, and reading it gives the
URL back (`parse?_text_ofFilePath`), save for one thing: a first segment that is
a letter and a bar is taken for a drive and gets a colon (`respelled`).

The path that the URL names is then the one it was made of, again save for one
thing: to a path that ends like a drive a slash is added (`filePathBytes?_ofFilePath`).
-/
import Marginalia.Proofs.FileTree.Places
import Marginalia.Proofs.Url.Segments

namespace Marginalia.Url

variable {s t rest : List Char}

-- ============================================================ reading

/-- A text that is read as one segment and kept as it is. -/
structure IsSegment (s : List Char) : Prop where
  isPlain : ∀ c ∈ s, IsPlain c
  ne_nil : s ≠ []
  not_dot : isDot s = false
  not_doubleDot : isDoubleDot s = false

theorem takeWhile_plain (hs : ∀ c ∈ s, IsPlain c)
    (hrest : ∀ c ∈ rest.head?, isInAuthority true c = false) :
    (s ++ rest).takeWhile (isInAuthority true) = s := by
  rw [List.takeWhile_append_of_pos fun c hc => isInAuthority_of_isPlain (hs c hc)]
  cases rest with
  | nil => exact List.append_nil s
  | cons c r =>
      have hc : ¬ isInAuthority true c = true := Bool.eq_false_iff.1 (hrest c rfl)
      rw [List.takeWhile_cons_of_neg hc, List.append_nil]

theorem percentEncode_plain (hs : ∀ c ∈ s, IsPlain c) : percentEncode inPathSet s = s :=
  percentEncode_of_forall fun c hc => ⟨(hs c hc).1, (hs c hc).2.2.2⟩

theorem readPath_last (hs : ∀ c ∈ s, IsPlain c) (trail : Trail) :
    readPath true true trail s = (addSegment true trail s false, []) := by
  have hraw : s.takeWhile (fun c => !isSlash true c && !endsPath c) = s := by
    have hwhole : (s ++ []).takeWhile (isInAuthority true) = s := takeWhile_plain hs nofun
    rwa [List.append_nil] at hwhole
  rw [readPath]
  split
  next hdrop => rw [hraw, percentEncode_plain hs]
  next c r hdrop =>
    rw [hraw, List.drop_length] at hdrop
    cases hdrop

theorem readPath_slash (hs : ∀ c ∈ s, IsPlain c) (trail : Trail) (rest : List Char) :
    readPath true true trail (s ++ '/' :: rest)
      = readPath true true (addSegment true trail s true) rest := by
  have hraw : (s ++ '/' :: rest).takeWhile (fun c => !isSlash true c && !endsPath c) = s :=
    takeWhile_plain hs fun c hc => by rw [← Option.some.inj hc]; rfl
  rw [readPath]
  split
  next hdrop =>
    rw [hraw, List.drop_left] at hdrop
    cases hdrop
  next c r hdrop =>
    rw [hraw, List.drop_left] at hdrop
    obtain ⟨rfl, rfl⟩ := List.cons.inj hdrop
    rw [hraw, percentEncode_plain hs]
    rfl

/-- The segments that a path has after one more, if that is no dots. -/
theorem addSegment_name (hs : IsSegment s) (done : List (List Char)) (slash : Bool) :
    addSegment true ⟨done, []⟩ s slash
      = if slash then ⟨done ++ [if done = [] then driveSpelled s else s], []⟩
        else ⟨done, if done = [] then driveSpelled s else s⟩ := by
  have hkept : (if (true && done.isEmpty && ([] : List Char).isEmpty && isDriveLetter s) = true
      then s.take 1 ++ [':'] else s) = if done = [] then driveSpelled s else s := by
    cases done with
    | nil => rfl
    | cons u done => rfl
  rw [addSegment, hs.not_doubleDot, hs.not_dot]
  dsimp only
  rw [hkept]
  rfl

theorem readPath_segments {more : List (List Char)} (done : List (List Char))
    (hs : ∀ u ∈ s :: more, IsSegment u) :
    ∃ trail, readPath true true ⟨done, []⟩ (['/'].intercalate (s :: more)) = (trail, [])
      ∧ trail.segments = done ++ (if done = [] then driveSpelled s else s) :: more := by
  induction more generalizing s done with
  | nil =>
      obtain ⟨hs, -⟩ := List.forall_mem_cons.1 hs
      rw [List.intercalate_singleton, readPath_last hs.isPlain, addSegment_name hs]
      exact ⟨_, rfl, rfl⟩
  | cons u more ih =>
      obtain ⟨hs, hmore⟩ := List.forall_mem_cons.1 hs
      obtain ⟨trail, hread, hsegments⟩ :=
        ih (done ++ [if done = [] then driveSpelled s else s]) hmore
      refine ⟨trail, ?_, ?_⟩
      · rw [List.intercalate_cons_of_ne_nil (List.cons_ne_nil u more), List.append_assoc,
          List.singleton_append, readPath_slash hs.isPlain, addSegment_name hs]
        exact hread
      · rw [hsegments, if_neg (List.append_ne_nil_of_right_ne_nil _ (List.cons_ne_nil _ _)),
          List.append_assoc]
        rfl

theorem isSegment_encodedSegment (hempty : s ≠ []) (hdot : s ≠ ['.']) (hdots : s ≠ ['.', '.']) :
    IsSegment (encodedSegment s) where
  isPlain _ hc := isPlain_of_mem_encodedSegment hc
  ne_nil h := hempty (encodedSegment_injective h)
  not_dot := isDot_encodedSegment hdot
  not_doubleDot := isDoubleDot_encodedSegment hdots

theorem driveSpelled_ne_nil (h : s ≠ []) : driveSpelled s ≠ [] := by
  unfold driveSpelled
  split
  · exact List.append_ne_nil_of_right_ne_nil _ (List.cons_ne_nil _ _)
  · exact h

/-- The file URL with the given segments. -/
def segmentsUrl (segs : List (List Char)) : Url :=
  fileUrl noHost (.segments (segs.map String.ofList))

theorem finishPath_segments {trail : Trail} {more : List (List Char)}
    (h : trail.segments = s :: more) (hs : s ≠ []) :
    finishPath true trail = .segments ((s :: more).map String.ofList) := by
  have hfirst : ¬ s.isEmpty = true := mt List.isEmpty_iff.1 hs
  rw [finishPath, h, if_pos rfl, List.dropWhile_cons_of_neg hfirst]

theorem flatMap_slash (s : List Char) (more : List (List Char)) :
    (s :: more).flatMap ('/' :: ·) = '/' :: ['/'].intercalate (s :: more) := by
  induction more generalizing s with
  | nil =>
      rw [List.intercalate_singleton, List.flatMap_singleton]
  | cons u more ih =>
      rw [List.flatMap_cons, ih u, List.intercalate_cons_of_ne_nil (List.cons_ne_nil u more),
        List.append_assoc]
      rfl

/-- What stands before the path of a file URL. -/
def fileMark : List Char :=
  ['f', 'i', 'l', 'e', ':', '/', '/']

theorem chars_segmentsUrl (s : List Char) (more : List (List Char)) :
    (segmentsUrl (s :: more)).chars = fileMark ++ '/' :: ['/'].intercalate (s :: more) := by
  have htext : (UrlPath.segments ((s :: more).map String.ofList)).text
      = '/' :: ['/'].intercalate (s :: more) := by
    rw [UrlPath.text, List.flatMap_map, ← flatMap_slash]
    simp only [String.toList_ofList]
  have hscheme : (segmentsUrl (s :: more)).scheme = "file" := rfl
  have hauthority : (segmentsUrl (s :: more)).authority = ['/', '/'] := rfl
  rw [chars, hscheme, hauthority]
  show fileMark ++ (UrlPath.segments ((s :: more).map String.ofList)).text ++ [] ++ [] = _
  rw [List.append_nil, List.append_nil, htext]

theorem significant_of_forall (h : ∀ c ∈ s, isEdge c = false ∧ isDropped c = false) :
    significant s = s := by
  have hedge {t : List Char} (ht : ∀ c ∈ t, isEdge c = false) : t.dropWhile isEdge = t := by
    cases t with
    | nil => rfl
    | cons c t => exact List.dropWhile_cons_of_neg (Bool.eq_false_iff.1 (ht c List.mem_cons_self))
  have hreverse : ∀ c ∈ s.reverse, isEdge c = false := fun c hc => (h c (List.mem_reverse.1 hc)).1
  rw [significant, hedge fun c hc => (h c hc).1, hedge hreverse, List.reverse_reverse,
    List.filter_eq_self]
  intro c hc
  rw [(h c hc).2]
  rfl

theorem significant_chars {more : List (List Char)}
    (hs : ∀ u ∈ s :: more, ∀ c ∈ u, IsPlain c) :
    significant (fileMark ++ '/' :: ['/'].intercalate (s :: more))
      = fileMark ++ '/' :: ['/'].intercalate (s :: more) := by
  refine significant_of_forall fun c hc => ?_
  have hmark : fileMark.all (fun c => !isEdge c && !isDropped c) = true := rfl
  rcases List.mem_append.1 hc with hc | hc
  · simpa using List.all_eq_true.1 hmark c hc
  · by_cases hslash : c = '/'
    · rw [hslash]
      decide
    · have hpath := (List.mem_cons.1 hc).resolve_left hslash
      obtain ⟨u, hu, hc⟩ := (Text.mem_intercalate_iff hslash).1 hpath
      exact ⟨isEdge_of_isPlain (hs u hu c hc), isDropped_of_isPlain (hs u hu c hc)⟩

/-- Where no host is named, none is kept, whether or not a drive stands in front
of the path. -/
theorem readFileHost?_path (s : List Char) :
    readFileHost? ('/' :: s)
      = some ((fileUrl noHost (rootedPath true true s).1).withTail (rootedPath true true s).2) := by
  have hhost (p : Prop) [Decidable p] (path : UrlPath) :
      (if p then { fileUrl noHost path with host := some noHost } else fileUrl noHost path)
        = fileUrl noHost path :=
    ite_self (fileUrl noHost path)
  exact congrArg (fun u => some (withTail u (rootedPath true true s).2)) (hhost _ _)

/-- The URL is read again, with its first segment spelled as a drive if it can be
taken for one. -/
theorem parse?_segmentsUrl {more : List (List Char)} (hs : ∀ u ∈ s :: more, IsSegment u) :
    parse? (segmentsUrl (s :: more)).text = some (segmentsUrl (driveSpelled s :: more)) := by
  obtain ⟨trail, hread, hsegments⟩ := readPath_segments [] hs
  have hne : driveSpelled s ≠ [] := driveSpelled_ne_nil (hs s List.mem_cons_self).ne_nil
  rw [List.nil_append, if_pos rfl] at hsegments
  have hrooted : rootedPath true true (['/'].intercalate (s :: more))
      = (.segments ((driveSpelled s :: more).map String.ofList), []) := by
    rw [rootedPath, hread]
    dsimp only
    rw [finishPath_segments hsegments hne]
  rw [parse?, read?, text, String.toList_ofList, chars_segmentsUrl,
    significant_chars fun u hu => (hs u hu).isPlain]
  show readFileHost? ('/' :: ['/'].intercalate (s :: more)) = _
  rw [readFileHost?_path, hrooted]
  rfl

-- ============================================================= paths

/-- The components of a path as they are read from its URL. -/
def respelled : List String → List String
  | [] => []
  | name :: more => String.ofList (driveSpelled name.toList) :: more

/-- Names in a path that lead on: not what stands for no step or for a step up. -/
def LeadsOn (name : String) : Prop :=
  name ≠ "" ∧ name ≠ "." ∧ name ≠ ".."

theorem ofFilePath_cons (name : String) (more : List String) :
    ofFilePath (name :: more)
      = segmentsUrl ((name :: more).map fun c => encodedSegment c.toList) := by
  rw [segmentsUrl, List.map_map]
  rfl

/-- The URL of a path is read again as the URL of the path, up to the spelling of
a drive. -/
theorem parse?_text_ofFilePath {place : List String} (hne : place ≠ [])
    (h : ∀ name ∈ place, LeadsOn name) :
    parse? (ofFilePath place).text = some (ofFilePath (respelled place)) := by
  cases place with
  | nil => exact absurd rfl hne
  | cons name more =>
      have hsegment : ∀ u ∈ (name :: more).map fun c => encodedSegment c.toList, IsSegment u := by
        intro u hu
        obtain ⟨c, hc, rfl⟩ := List.mem_map.1 hu
        have hne {d : String} (hd : c ≠ d) : c.toList ≠ d.toList := mt String.toList_inj.1 hd
        obtain ⟨hempty, hdot, hdots⟩ := h c hc
        exact isSegment_encodedSegment (hne hempty) (hne hdot) (hne hdots)
      rw [ofFilePath_cons, List.map_cons, parse?_segmentsUrl hsegment, respelled, ofFilePath_cons,
        List.map_cons, String.toList_ofList, encodedSegment_driveSpelled]

-- ================================================= paths as bytes

/-- The last byte of a character is the character, or beyond ASCII like it. -/
theorem exists_reverse_charBytes (c : Char) :
    ∃ b more, (charBytes c).reverse = b :: more
      ∧ (c.toNat < 0x80 → b.toNat = c.toNat ∧ more = []) ∧ (0x80 ≤ c.toNat → 0x80 ≤ b.toNat) := by
  by_cases h : c.toNat < 0x80
  · have hbyte := toNat_ofNat_of_lt (n := c.toNat) (by omega)
    exact ⟨_, [], by rw [charBytes_one h]; rfl, fun _ => ⟨hbyte, rfl⟩, fun hge => by omega⟩
  · have hne : (charBytes c).reverse ≠ [] :=
      mt List.reverse_eq_nil_iff.1 String.utf8EncodeChar_ne_nil
    obtain ⟨b, more, hmore⟩ := List.exists_cons_of_ne_nil hne
    have hb : b ∈ charBytes c := List.mem_reverse.1 (hmore ▸ List.mem_cons_self)
    exact ⟨b, more, hmore, fun hlt => absurd hlt h, fun hge => le_of_mem_charBytes hge hb⟩

theorem toNat_lt_of_isAlpha {c : Char} (h : c.isAlpha = true) : c.toNat < 0x80 :=
  (inSegmentSet_of_isAlpha h).2

/-- Whether two characters are a letter and a colon or bar. -/
theorem isDriveLetter_iff {letter mark : Char} :
    isDriveLetter [letter, mark] = true
      ↔ letter.isAlpha = true ∧ (mark.toNat = 0x3A ∨ mark.toNat = 0x7C) := by
  show (letter.isAlpha && (mark == ':' || mark == '|')) = true ↔ _
  rw [Bool.and_eq_true, Bool.or_eq_true, beq_iff_eq, beq_iff_eq, ← Char.toNat_inj (c := mark),
    ← Char.toNat_inj (c := mark)]
  rfl

/-- Whether a path ends in a letter and a colon or bar. -/
def endsInDrive (path : List Char) : Bool :=
  match path.reverse with
  | mark :: letter :: _ => isDriveLetter [letter, mark]
  | _ => false

theorem endsInDriveLetter_iff {bytes : List UInt8} :
    endsInDriveLetter bytes = true
      ↔ ∃ b a c rest, bytes.reverse = b :: a :: c :: rest
        ∧ (Char.ofNat a.toNat).isAlpha = true ∧ (b.toNat = 0x3A ∨ b.toNat = 0x7C) := by
  unfold endsInDriveLetter
  split
  next b a c rest h =>
    rw [h, Bool.and_eq_true, Bool.or_eq_true, beq_iff_eq, beq_iff_eq]
    constructor
    · intro hdrive
      exact ⟨b, a, c, rest, rfl, hdrive⟩
    · rintro ⟨b', a', c', rest', heq, hdrive⟩
      rw [List.cons.injEq, List.cons.injEq] at heq
      obtain ⟨rfl, rfl, -⟩ := heq
      exact hdrive
  next hshort =>
    refine iff_of_false nofun ?_
    rintro ⟨b, a, c, rest, h, -⟩
    exact hshort b a c rest h

theorem textBytes_append (s t : List Char) : textBytes (s ++ t) = textBytes s ++ textBytes t :=
  List.flatMap_append

theorem textBytes_ne_nil (h : s ≠ []) : textBytes s ≠ [] := by
  obtain ⟨c, r, rfl⟩ := List.exists_cons_of_ne_nil h
  exact List.append_ne_nil_of_left_ne_nil String.utf8EncodeChar_ne_nil _

theorem toNat_ofNat_toNat (b : UInt8) : (Char.ofNat b.toNat).toNat = b.toNat := by
  have hb : b.toNat < 256 := b.toNat_lt
  have hvalid : b.toNat.isValidChar := .inl (by omega)
  rw [Char.ofNat, dif_pos hvalid]
  rfl

theorem endsInDriveLetter_append {front : List Char} {letter mark : Char}
    (hfront : front = [] → letter = '/') :
    endsInDriveLetter (textBytes (front ++ [letter, mark])) = isDriveLetter [letter, mark] := by
  obtain ⟨b, more, hb, hmark, hmark'⟩ := exists_reverse_charBytes mark
  obtain ⟨a, more', ha, hletter, hletter'⟩ := exists_reverse_charBytes letter
  have hreverse : (textBytes (front ++ [letter, mark])).reverse
      = b :: (more ++ (a :: (more' ++ (textBytes front).reverse))) := by
    have hlast : textBytes [letter, mark] = charBytes letter ++ charBytes mark := by
      simp [textBytes]
    rw [textBytes_append, hlast, List.reverse_append, List.reverse_append, hb, ha]
    simp
  rw [Bool.eq_iff_iff, endsInDriveLetter_iff, isDriveLetter_iff, hreverse]
  constructor
  · rintro ⟨b', a', c, rest, heq, halpha, hcolon⟩
    have hlast : b = b' := (List.cons.inj heq).1
    rw [← hlast] at hcolon
    obtain ⟨hb', rfl⟩ := hmark (by omega)
    rw [List.nil_append, List.cons.injEq, List.cons.injEq] at heq
    obtain ⟨-, rfl, -⟩ := heq
    have hlt := toNat_lt_of_isAlpha halpha
    rw [toNat_ofNat_toNat] at hlt
    obtain ⟨ha', -⟩ := hletter (by omega)
    rw [ha', Char.ofNat_toNat] at halpha
    exact ⟨halpha, by omega⟩
  · rintro ⟨halpha, hcolon⟩
    obtain ⟨hb', rfl⟩ := hmark (by omega)
    obtain ⟨ha', rfl⟩ := hletter (toNat_lt_of_isAlpha halpha)
    have hne : (textBytes front).reverse ≠ [] := by
      refine mt List.reverse_eq_nil_iff.1 (textBytes_ne_nil fun hnil => ?_)
      rw [hfront hnil] at halpha
      cases halpha
    obtain ⟨c, rest, hrest⟩ := List.exists_cons_of_ne_nil hne
    refine ⟨b, a, c, rest, by rw [hrest]; rfl, ?_, by omega⟩
    rwa [ha', Char.ofNat_toNat]

theorem endsInDrive_append (front : List Char) (letter mark : Char) :
    endsInDrive (front ++ [letter, mark]) = isDriveLetter [letter, mark] := by
  rw [endsInDrive, List.reverse_append]
  rfl

/-- Bytes that end like a drive are those of a path that does. -/
theorem endsInDriveLetter_textBytes (s : List Char) :
    endsInDriveLetter (textBytes ('/' :: s)) = endsInDrive ('/' :: s) := by
  obtain rfl | ⟨init, mark, rfl⟩ := List.eq_nil_or_concat' s
  · rfl
  · obtain h | ⟨front, letter, h⟩ := List.eq_nil_or_concat' ('/' :: init)
    · cases h
    · have hpath : '/' :: (init ++ [mark]) = front ++ [letter, mark] := by
        rw [← List.cons_append, h, List.append_assoc]
        rfl
      have hfront : front = [] → letter = '/' := by
        rintro rfl
        exact (List.cons.inj h).1.symm
      rw [hpath, endsInDriveLetter_append hfront, endsInDrive_append]

/-- The URL of a path names the path. Where the path ends like a drive, it names
the path with a slash behind it. -/
theorem filePathBytes?_ofFilePath {place : List String} (hne : place ≠ []) :
    (ofFilePath place).filePathBytes?
      = some (textBytes (if endsInDrive (FileTree.pathText place).toList
          then FileTree.pathText place ++ "/" else FileTree.pathText place).toList) := by
  obtain ⟨name, more, rfl⟩ := List.exists_cons_of_ne_nil hne
  have hbytes : ((name :: more).map fun c =>
        String.ofList (percentEncode inSegmentSet c.toList)).flatMap
        (fun s => 0x2F :: percentDecode s.toList)
      = textBytes (FileTree.pathText (name :: more)).toList := by
    have hname (c : String) :
        0x2F :: percentDecode (String.ofList (percentEncode inSegmentSet c.toList)).toList
          = ('/' :: c.toList).flatMap charBytes := by
      rw [String.toList_ofList, percentDecode_percentEncode rfl]
      rfl
    rw [FileTree.toList_pathText hne, List.flatMap_map, textBytes, List.flatMap_assoc]
    simp only [hname]
  have hurl : (ofFilePath (name :: more)).filePathBytes?
      = some (if endsInDriveLetter (textBytes (FileTree.pathText (name :: more)).toList)
          then textBytes (FileTree.pathText (name :: more)).toList ++ [0x2F]
          else textBytes (FileTree.pathText (name :: more)).toList) := by
    rw [← hbytes]
    rfl
  have hends : endsInDriveLetter (textBytes (FileTree.pathText (name :: more)).toList)
      = endsInDrive (FileTree.pathText (name :: more)).toList := by
    rw [FileTree.toList_pathText hne]
    exact endsInDriveLetter_textBytes _
  rw [hurl, hends]
  split
  · rw [String.toList_append, textBytes_append]
    rfl
  · rfl

end Marginalia.Url
