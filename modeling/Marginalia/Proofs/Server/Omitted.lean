/-
Asking for comments without saying of what kinds. The server then takes
the kinds of the settings (`answer_omitted`), which are all kinds only
where the settings do not say otherwise. What an answer leaves out in this
way is told exactly (`omitted_kinds_exact`): a scan for some kinds finds
the part of those kinds of what a scan for every kind finds, and an answer
shows how many comments it has, so that no two answers are the same by
chance.
-/
import Marginalia.Proofs.Config.Loading
import Marginalia.Proofs.Server.Comments

namespace Marginalia

-- ==================================================== counts in a text

namespace Json

/-- A digit stands for itself in a JSON string. -/
theorem escapedChar_digit {c : Char} (h : c.isDigit = true) : escapedChar c = [c] := by
  have hne : ∀ d : Char, d.isDigit = false → c ≠ d := by
    intro d hd heq
    rw [heq, hd] at h
    cases h
  have hprintable : ¬ c.toNat < 0x20 := by
    simp only [Char.isDigit, Bool.and_eq_true, decide_eq_true_eq] at h
    exact Nat.not_lt.2 (le_trans (by decide) h.1)
  unfold escapedChar
  rw [if_neg (hne _ (by decide)), if_neg (hne _ (by decide)), if_neg (hne _ (by decide)),
    if_neg (hne _ (by decide)), if_neg (hne _ (by decide)), if_neg (hne _ (by decide)),
    if_neg (hne _ (by decide)), if_neg hprintable]

theorem isDigit_of_mem_digits {n : Nat} {c : Char} (h : c ∈ digits n) : c.isDigit = true :=
  Nat.isDigit_of_mem_toDigits (by decide) (by decide) h

theorem digits_inj {m n : Nat} (h : digits m = digits n) : m = n := by
  calc m = Nat.ofDigitChars 10 (digits m) 0 := Nat.ofDigitChars_ten_toDigits.symm
    _ = Nat.ofDigitChars 10 (digits n) 0 := by rw [h]
    _ = n := Nat.ofDigitChars_ten_toDigits

theorem quoted_toString (n : Nat) :
    quoted (toString n) = '\x22' :: (digits n ++ ['\x22']) := by
  have hdigits : (digits n).flatMap escapedChar = (digits n).flatMap fun c => [c] :=
    List.flatMap_congr fun c hc => escapedChar_digit (isDigit_of_mem_digits hc)
  unfold quoted
  rw [Nat.toString_eq_ofList_toDigits, String.toList_ofList]
  show '\x22' :: (digits n).flatMap escapedChar ++ _ = _
  rw [hdigits, List.flatMap_singleton']
  rfl

end Json

namespace Server

open Command (Environment)

/-- The count that a badge shows. -/
def shownCount (found : List Comment) : List Char :=
  if found = [] then [] else Json.digits found.length

theorem quote_notMem_shownCount (found : List Comment) : '\x22' ∉ shownCount found := by
  unfold shownCount
  split
  · exact List.not_mem_nil
  · intro h
    exact absurd (Json.isDigit_of_mem_digits h) (by decide)

theorem length_eq_of_shownCount {found other : List Comment}
    (h : shownCount found = shownCount other) : found.length = other.length := by
  have hdigits : ∀ l : List Comment, Json.digits l.length ≠ [] := by
    intro l
    exact Nat.toDigits_ne_nil
  unfold shownCount at h
  split at h
  case isTrue hfound =>
    split at h
    case isTrue hother => rw [hfound, hother]
    case isFalse hother => exact absurd h.symm (hdigits other)
  case isFalse hfound =>
    split at h
    case isTrue hother => exact absurd h (hdigits found)
    case isFalse hother => exact Json.digits_inj h

/-- The text of the findings begins with the count, in quotation marks. -/
theorem pretty_findings : ∃ lead : List Char, ∀ found, ∃ rest,
    (Json.object (findings found)).prettyChars 0
      = lead ++ (shownCount found ++ '\x22' :: rest) := by
  have hquoted : ∀ found : List Comment,
      Json.quoted (if found = [] then "" else toString found.length)
        = '\x22' :: (shownCount found ++ ['\x22']) := by
    intro found
    unfold shownCount
    split
    · rfl
    · exact Json.quoted_toString found.length
  refine ⟨'{' :: Json.lineBreak 1 ++ Json.quoted "badge" ++ ':' :: ' ' :: '{'
    :: Json.lineBreak 2 ++ Json.quoted "text" ++ [':', ' ', '\x22'], fun found => ?_⟩
  unfold findings Badge.toJson
  rw [Json.prettyChars, Json.prettyChars, Json.prettyChars, Json.scalar, hquoted]
  · simp only [List.append_assoc, List.cons_append, List.nil_append]
    exact ⟨_, rfl⟩
  -- the badge's text is printed as a scalar, since it is no array and no object
  all_goals nofun

/-- Two answers that are the same have as many comments. -/
theorem length_eq_of_toolResult {found other : List Comment}
    (h : toolResult (.object (findings found)) = toolResult (.object (findings other))) :
    found.length = other.length := by
  have hpretty : (Json.object (findings found)).pretty
      = (Json.object (findings other)).pretty := by
    unfold toolResult at h
    simpa using h
  have hchars := String.ofList_injective hpretty
  obtain ⟨lead, hlead⟩ := pretty_findings
  obtain ⟨rest, hfound⟩ := hlead found
  obtain ⟨rest', hother⟩ := hlead other
  rw [hfound, hother] at hchars
  have hcut := congrArg (Text.splitFirst ['\x22']) (List.append_cancel_left hchars)
  rw [Text.splitFirst_singleton (quote_notMem_shownCount found),
    Text.splitFirst_singleton (quote_notMem_shownCount other)] at hcut
  exact length_eq_of_shownCount (Prod.mk.inj (Option.some.inj hcut)).1

-- ===================================================== what is scanned

/-- What a scan starts from: the options that the settings ask for, the URL
of the page and a way to fetch it. -/
structure Prepared where
  options : Options
  url : Url
  fetch : Fetcher

/-- Takes the steps before a scan. -/
def prepare (env : Environment) (page : String) : Except RequestError Prepared := do
  let loaded ← (Config.load env.tree env.current (FileTree.pathText env.current)).mapError
    .config
  let options ← loaded.config.options.mapError .options
  let url ← (Local.pageUrl env.tree env.current page).mapError .page
  let fetch ← (Local.client env.tree env.network loaded.config.userAgent).mapError .client
  return ⟨options, url, fetch⟩

/-- What has to succeed before a scan, and what the scan starts from. -/
theorem prepare_eq_ok_iff {env : Environment} {page : String} {s : Prepared} :
    prepare env page = .ok s
      ↔ ∃ loaded,
          Config.load env.tree env.current (FileTree.pathText env.current) = .ok loaded
            ∧ loaded.config.options = .ok s.options
            ∧ Local.pageUrl env.tree env.current page = .ok s.url
            ∧ Local.client env.tree env.network loaded.config.userAgent = .ok s.fetch := by
  unfold prepare
  simp only [bind_eq_ok_iff, mapError_eq_ok_iff]
  constructor
  · rintro ⟨loaded, hload, o, hoptions, url, hurl, fetch, hclient, h⟩
    rw [← Except.ok.inj h]
    exact ⟨loaded, hload, hoptions, hurl, hclient⟩
  · rintro ⟨loaded, hload, hoptions, hurl, hclient⟩
    exact ⟨loaded, hload, _, hoptions, _, hurl, _, hclient, rfl⟩

theorem kinds_ne_nil_of_prepare {env : Environment} {page : String} {s : Prepared}
    (h : prepare env page = .ok s) : s.options.kinds ≠ [] := by
  obtain ⟨loaded, hload, hoptions, -⟩ := prepare_eq_ok_iff.1 h
  rw [Config.kinds_of_options hoptions]
  exact Config.kinds_ne_nil_of_load hload

namespace Prepared

variable (s : Prepared) (kinds : List Kind)

/-- The visit for some kinds. -/
def visit : Except Session.Failure Session :=
  Session.visit s.url s.fetch { s.options with kinds }

/-- What the server lists for some kinds. -/
def listing : Except RequestError Json := do
  let session ← (s.visit kinds).mapError .visit
  return .object (findings session.popup.comments)

/-- The page as it is visited for some kinds, once it has been fetched. -/
def page (body : String) : PageContext :=
  ⟨Page.ofHtml body (some s.url), s.fetch, { s.options with kinds }⟩

end Prepared

/-- The kinds that are asked for matter to the listing alone. -/
theorem getComments_eq_listing (env : Environment) (args : PageArguments)
    (hsome : args.kinds ≠ some []) :
    getComments env args = prepare env args.page >>= fun s =>
      s.listing (args.kinds.getD s.options.kinds) := by
  unfold getComments prepare
  simp only [bind_assoc, pure_bind]
  refine bind_congr fun loaded => bind_congr fun o => ?_
  rw [if_neg hsome]
  refine bind_congr fun url => bind_congr fun fetch => ?_
  unfold Prepared.listing Prepared.visit
  cases hvisit : Session.visit url fetch { o with kinds := args.kinds.getD o.kinds } with
  | error f => rfl
  | ok session =>
      show Except.ok (commentsResult session.badge session.popup) = _
      rw [commentsResult, findings_of_badge (Session.badge_of_visit hvisit)]
      rfl

-- =================================================== fewer kinds listed

/-- The comments that the popup of a page lists. -/
def listed (c : PageContext) : List Comment :=
  (Popup.ofWire (c.scan.map Comment.encode)).comments

theorem length_listed (c : PageContext) : (listed c).length = c.scan.length := by
  unfold listed
  rw [← Popup.total_eq_length_comments, c.total_popup]

theorem forall_kind_listed {c : PageContext} {kinds : List Kind} :
    (∀ comment ∈ listed c, comment.kind ∈ kinds)
      ↔ ∀ comment ∈ c.scan, comment.kind ∈ kinds :=
  Popup.forall_kind_ofWire_encode (P := (· ∈ kinds))

/-- A page with only some of its comments is told as the whole page
exactly if the others are none. -/
theorem toolResult_listed_iff {part whole : PageContext} {o : Options}
    (h : part.scan = whole.scan.filter fun c => o.includes c.kind) :
    toolResult (.object (findings (listed part)))
        = toolResult (.object (findings (listed whole)))
      ↔ ∀ c ∈ listed whole, c.kind ∈ o.kinds := by
  rw [forall_kind_listed]
  constructor
  · intro htold
    have hlength := length_eq_of_toolResult htold
    rw [length_listed, length_listed, h] at hlength
    intro c hc
    exact List.contains_iff_mem.1 (List.length_filter_eq_length_iff.1 hlength c hc)
  · intro hall
    have hself : part.scan = whole.scan := by
      rw [h]
      exact List.filter_eq_self.2 fun c hc => List.contains_iff_mem.2 (hall c hc)
    unfold listed
    rw [hself]

namespace Prepared

variable {s : Prepared}

theorem listing_of_error {e : FetchError} (hbody : s.fetch s.url.text = .error e)
    (kinds : List Kind) :
    s.listing kinds = .error (.visit (.pageNotLoaded s.url.text e)) := by
  unfold listing visit
  rw [Session.visit_eq, hbody]
  rfl

theorem visit_of_ok {body : String} (hbody : s.fetch s.url.text = .ok body)
    (kinds : List Kind) :
    ∃ session, s.visit kinds = .ok session
      ∧ session.popup.comments = listed (s.page kinds body) := by
  unfold visit
  rw [Session.visit_eq, hbody]
  refine ⟨_, rfl, ?_⟩
  unfold listed
  rfl

theorem listing_of_ok {body : String} (hbody : s.fetch s.url.text = .ok body)
    (kinds : List Kind) :
    s.listing kinds = .ok (.object (findings (listed (s.page kinds body)))) := by
  obtain ⟨session, hvisit, hcomments⟩ := visit_of_ok hbody kinds
  unfold listing
  rw [hvisit, ← hcomments]
  rfl

/-- Listing the kinds of the settings comes to listing all kinds exactly if
the page has comments of no other kind. -/
theorem listing_eq_iff :
    (s.listing s.options.kinds).map toolResult = (s.listing Kind.all).map toolResult
      ↔ ∀ session, s.visit Kind.all = .ok session →
          ∀ c ∈ session.popup.comments, c.kind ∈ s.options.kinds := by
  cases hbody : s.fetch s.url.text with
  | error e =>
      have hfails : ∀ session, s.visit Kind.all ≠ .ok session := by
        unfold visit
        rw [Session.visit_eq, hbody]
        exact fun session h => nomatch h
      rw [listing_of_error hbody, listing_of_error hbody]
      exact iff_of_true rfl fun session h => absurd h (hfails session)
  | ok body =>
      have hpart : (s.page s.options.kinds body).scan
          = (s.page Kind.all body).scan.filter fun c => s.options.includes c.kind :=
        Page.scan_eq_filter _ _ s.options
      have htold : (s.listing s.options.kinds).map toolResult
            = (s.listing Kind.all).map toolResult
          ↔ ∀ c ∈ listed (s.page Kind.all body), c.kind ∈ s.options.kinds := by
        rw [listing_of_ok hbody, listing_of_ok hbody, ← toolResult_listed_iff hpart]
        show Except.ok _ = Except.ok _ ↔ _
        rw [Except.ok.injEq]
      obtain ⟨session, hvisit, hcomments⟩ := visit_of_ok hbody Kind.all
      rw [htold, ← hcomments]
      constructor
      · intro h other hother
        rw [hvisit] at hother
        rw [← Except.ok.inj hother]
        exact h
      · intro h
        exact h session hvisit

end Prepared

-- ======================================================== the answers

section

variable (env : Environment) (page : String)

/-- Where the kinds are left out, or null, they are those of the settings. -/
theorem answer_omitted {more : List (String × Json)}
    (h : PageArguments.decode (("page", .string page) :: more) = .ok ⟨page, none, none⟩) :
    answer env (commentsCall page more)
      = (prepare env page >>= fun s => s.listing s.options.kinds).map toolResult := by
  have hsome : (none : Option (List Kind)) ≠ some [] := nofun
  rw [answer_commentsCall env h, getComments_eq_listing env _ hsome]
  rfl

theorem answer_kinds {kinds : List Kind} (hkinds : kinds ≠ []) :
    answer env (commentsCall page [kindsMember kinds])
      = (prepare env page >>= fun s => s.listing kinds).map toolResult := by
  have hsome : some kinds ≠ some [] := fun h => hkinds (Option.some.inj h)
  rw [answer_commentsCall env (decode_page_kinds page kinds),
    getComments_eq_listing env _ hsome]
  rfl

end

/-- A comment of a kind that the settings do not ask for is missed where
the kinds are left out. -/
theorem answer_omitted_ne {env : Environment} {page : String} {s : Prepared}
    {body : String} {c : Comment} (hprepare : prepare env page = .ok s)
    (hbody : s.fetch s.url.text = .ok body) (hc : c ∈ (s.page Kind.all body).scan)
    (hkind : c.kind ∉ s.options.kinds) :
    answer env (commentsCall page [])
      ≠ answer env (commentsCall page [kindsMember Kind.all]) := by
  have hall : Kind.all ≠ [] := List.cons_ne_nil _ _
  intro h
  rw [answer_omitted env page (decode_page page), answer_kinds env page hall,
    bind_of_eq_ok hprepare, bind_of_eq_ok hprepare] at h
  obtain ⟨session, hvisit, hcomments⟩ := Prepared.visit_of_ok hbody Kind.all
  have hkinds := Prepared.listing_eq_iff.1 h session hvisit
  rw [hcomments, forall_kind_listed] at hkinds
  exact hkind (hkinds c hc)

/-- Where the kinds are left out, or null, the answer is that for the kinds
of the settings. It is the answer for all kinds exactly if the page cannot
be scanned or has comments of no other kind. -/
theorem omitted_kinds_exact (env : Environment) (page : String) :
    answer env (commentsCall page [("kinds", .null)]) = answer env (commentsCall page [])
      ∧ (∀ s, prepare env page = .ok s →
          answer env (commentsCall page [])
            = answer env (commentsCall page [kindsMember s.options.kinds]))
      ∧ (answer env (commentsCall page [])
            = answer env (commentsCall page [kindsMember Kind.all])
          ↔ ∀ s session, prepare env page = .ok s → s.visit Kind.all = .ok session →
              ∀ c ∈ session.popup.comments, c.kind ∈ s.options.kinds) := by
  have hnull : PageArguments.decode [("page", .string page), ("kinds", .null)]
      = .ok ⟨page, none, none⟩ := rfl
  have hall : Kind.all ≠ [] := List.cons_ne_nil _ _
  rw [answer_omitted env page hnull, answer_omitted env page (decode_page page),
    answer_kinds env page hall]
  refine ⟨rfl, ?_, ?_⟩
  · intro s hprepare
    rw [answer_kinds env page (kinds_ne_nil_of_prepare hprepare), bind_of_eq_ok hprepare,
      bind_of_eq_ok hprepare]
  · cases prepare env page with
    | error e =>
        rw [bind_of_eq_error rfl, bind_of_eq_error rfl]
        exact iff_of_true rfl fun s session h => absurd h nofun
    | ok s =>
        rw [bind_of_eq_ok rfl, bind_of_eq_ok rfl, Prepared.listing_eq_iff]
        constructor
        · intro h other session hother
          rw [← Except.ok.inj hother]
          exact h session
        · intro h session
          exact h s session rfl

-- ======================================== settings for stylesheets only

/-- A directory whose settings ask for the comments of stylesheets, with a
page that has a comment in the document. -/
def stylesOnly : Environment :=
  { tree :=
      { entries :=
          [([".remarksrc.json"], .file (.text "\x7b\"kinds\":[\"css\"]\x7d")),
           (["index.html"], .file (.text "<!--hello-->"))] }
    current := []
    network := fun _ _ => .ok ⟨404, .ok "Not Found"⟩
    colour := false }

/-- What a scan of that page starts from. -/
def stylesOnlyPrepared : Prepared :=
  ⟨⟨[.css], true, []⟩, Url.ofFilePath ["index.html"],
    Local.fetch stylesOnly.tree (stylesOnly.network Config.standard.userAgent)⟩

theorem prepare_stylesOnly : prepare stylesOnly "index.html" = .ok stylesOnlyPrepared := by
  have hload : Config.load stylesOnly.tree [] (FileTree.pathText [])
      = .ok ⟨{ Config.standard with kinds := [.css] }, true⟩ :=
    eq_ok_of_toOption (by decide +kernel)
  have hurl : Local.pageUrl stylesOnly.tree [] "index.html"
      = .ok (Url.ofFilePath ["index.html"]) :=
    eq_ok_of_toOption (by decide +kernel)
  exact prepare_eq_ok_iff.2 ⟨_, hload, rfl, hurl, Config.client_standard _ _⟩

theorem omitted_kinds_of_settings :
    prepare stylesOnly "index.html" = .ok stylesOnlyPrepared
      ∧ answer stylesOnly (commentsCall "index.html" [])
        = answer stylesOnly (commentsCall "index.html"
            [kindsMember stylesOnlyPrepared.options.kinds]) :=
  ⟨prepare_stylesOnly,
    (omitted_kinds_exact stylesOnly "index.html").2.1 stylesOnlyPrepared prepare_stylesOnly⟩

/-- With settings that ask for stylesheets, a comment in the document is
told for all kinds, and not where the kinds are left out. -/
theorem omitted_kinds_left_out :
    answer stylesOnly (commentsCall "index.html" [])
      ≠ answer stylesOnly (commentsCall "index.html" [kindsMember Kind.all]) := by
  have hbody : stylesOnlyPrepared.fetch stylesOnlyPrepared.url.text = .ok "<!--hello-->" :=
    eq_ok_of_toOption (by decide +kernel)
  have hscan : (⟨.html, "hello", "Document"⟩ : Comment)
      ∈ (stylesOnlyPrepared.page Kind.all "<!--hello-->").scan := by
    decide +kernel
  exact answer_omitted_ne prepare_stylesOnly hbody hscan (by decide)

end Server

end Marginalia
