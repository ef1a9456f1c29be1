/-
What a page embeds is recovered. A document is written as comments, styles
and scripts one after the other, and what a scan reads of it is these texts,
each sort in order. One lemma says what one of the written things adds once
there is a head (`step`); the rest is by induction on what is written.
-/
import Marginalia.Proofs.Html.Parts

namespace Marginalia

open Html

variable {t : Tree} {html head : Nat}

/-- Something that a page embeds. -/
inductive Embedded where
  | comment (text : String)
  | style (text : String)
  | script (text : String)
deriving DecidableEq, Repr

namespace Embedded

/-- How it is written. -/
def markup : Embedded → String
  | comment text => "<!--" ++ text ++ "-->"
  | style text => "<style>" ++ text ++ "</style>"
  | script text => "<script>" ++ text ++ "</script>"

/-- Its text. -/
def text : Embedded → String
  | comment text => text
  | style text => text
  | script text => text

/-- Whether it can be written so that its text is neither changed nor ended
early. -/
def Plain (item : Embedded) : Prop :=
  '\x00' ∉ item.text.toList ∧ '\r' ∉ item.text.toList ∧
    match item with
    | comment text =>
        ¬ "-->".toList <:+: text.toList ∧ ¬ "--!>".toList <:+: text.toList
          ∧ ¬ ">".toList <+: text.toList ∧ ¬ "->".toList <+: text.toList
    | style text => ¬ "</style".toList <:+: text.toList.map Char.toLower
    | script text =>
        ¬ "</script".toList <:+: text.toList.map Char.toLower ∧ ¬ "<!--".toList <:+: text.toList

instance : DecidablePred Plain
  | comment _ => inferInstanceAs (Decidable (_ ∧ _ ∧ _ ∧ _ ∧ _ ∧ _))
  | style _ => inferInstanceAs (Decidable (_ ∧ _ ∧ _))
  | script _ => inferInstanceAs (Decidable (_ ∧ _ ∧ _ ∧ _))

/-- The text of a comment. -/
def comment? : Embedded → Option String
  | comment text => some text
  | _ => none

/-- The text of a style. -/
def style? : Embedded → Option String
  | style text => some text
  | _ => none

/-- The text of a script. -/
def script? : Embedded → Option String
  | script text => some text
  | _ => none

/-- What is written of things one after the other, with nothing in
between. -/
def document : List Embedded → String
  | [] => ""
  | item :: items => item.markup ++ document items

/-- The page that embeds these things and nothing else. -/
def page (items : List Embedded) : Page where
  comments := items.filterMap comment?
  styles := items.filterMap style?
  scripts := (items.filterMap script?).map .inline

theorem page_cons (item : Embedded) (items : List Embedded) :
    page (item :: items) = page [item] ++ page items := by
  cases item <;> rfl

variable {item : Embedded} {items : List Embedded}

theorem markup_comment (text : String) (rest : List Char) :
    (comment text).markup.toList ++ rest = Builder.commentBefore text.toList rest := by
  simp [markup, Builder.commentBefore, commentClose]

theorem markup_style (text : String) (rest : List Char) :
    (style text).markup.toList ++ rest = Builder.codeBefore .style text.toList rest := by
  simp [markup, Builder.codeBefore, Builder.endBefore, Code.name]

theorem markup_script (text : String) (rest : List Char) :
    (script text).markup.toList ++ rest = Builder.codeBefore .script text.toList rest := by
  simp [markup, Builder.codeBefore, Builder.endBefore, Code.name, scriptName]

/-- Everything that can be written is a comment or an element of code, and is
read as it was written. -/
theorem Plain.cases (h : item.Plain) :
    (∃ text, page [item] = { comments := [String.ofList text] } ∧ ∀ rest,
        item.markup.toList ++ rest = Builder.commentBefore text rest
          ∧ commentText (text ++ (commentClose ++ rest)) = (text, rest))
      ∨ ∃ k text, page [item] = Page.ofCode k text ∧ ∀ rest,
        item.markup.toList ++ rest = Builder.codeBefore k text rest
          ∧ k.reading.take (text ++ Builder.endBefore k rest)
            = (text, Builder.endBefore k rest) := by
  cases item with
  | comment text =>
      obtain ⟨hnull, -, hclose, hbang, hend, hdash⟩ := h
      refine .inl ⟨text.toList, by rw [String.ofList_toList]; rfl, fun rest => ⟨?_, ?_⟩⟩
      · exact markup_comment text rest
      · exact commentText_append hclose hbang hnull hend hdash rest
  | style text =>
      obtain ⟨hnull, -, hend⟩ := h
      refine .inr ⟨.style, text.toList, by rw [Page.ofCode, String.ofList_toList]; rfl,
        fun rest => ⟨?_, ?_⟩⟩
      · exact markup_style text rest
      · exact Builder.take_reading .style hend nofun hnull rest
  | script text =>
      obtain ⟨hnull, -, hend, hopen⟩ := h
      refine .inr ⟨.script, text.toList, by rw [Page.ofCode, String.ofList_toList]; rfl,
        fun rest => ⟨?_, ?_⟩⟩
      · exact markup_script text rest
      · exact Builder.take_reading .script hend (fun _ => hopen) hnull rest

/-- What is written goes to the end of the head. -/
theorem step (h : Tree.HeadOpen t html head) (hitem : item.Plain) (mode : Mode)
    (base : Option Url) :
    ∃ t' mode', Tree.HeadOpen t' html head
      ∧ (∀ rest, (Builder.inHeadOf t html head mode).takeAll (item.markup.toList ++ rest)
          = (Builder.inHeadOf t' html head mode').takeAll rest)
      ∧ Page.ofTree t' base = Page.ofTree t base ++ page [item] := by
  rcases hitem.cases with ⟨text, hpage, hwritten⟩ | ⟨k, text, hpage, hwritten⟩
  · refine ⟨_, mode, h.put_comment text, fun rest => ?_, ?_⟩
    · rw [(hwritten rest).1, Builder.takeAll_comment (hwritten rest).2 rfl,
        Builder.take_comment_inHeadOf]
    · rw [Page.ofTree_put_comment h.grown h.root_edge h.code_after, hpage]
  · refine ⟨_, .inHead, h.embed k.element text, fun rest => ?_, ?_⟩
    · rw [(hwritten rest).1]
      exact Builder.takeAll_code h.head_lt (hwritten rest).2
    · rw [Page.ofTree_embed h.grown h.root_edge h.code_after, Page.ofParts_code, hpage]

-- ------------------------------------------------- all of them

/-- The page of a document of which a part has been read. -/
def pageAfter (b : Builder) (base : Option Url) (items : List Embedded) : Page :=
  Page.ofTree ((b.takeAll (document items).toList).take .endOfDocument).tree base

theorem toList_document_cons (item : Embedded) (items : List Embedded) :
    (document (item :: items)).toList = item.markup.toList ++ (document items).toList :=
  String.toList_append ..

theorem pageAfter_inHeadOf (h : Tree.HeadOpen t html head) (hitems : ∀ item ∈ items, item.Plain)
    (mode : Mode) (base : Option Url) :
    pageAfter (.inHeadOf t html head mode) base items = Page.ofTree t base ++ page items := by
  induction items generalizing t mode with
  | nil =>
      have hbody := Page.ofTree_put_plain h.grown h.html_edge
        (fun x hx hcode => Nat.lt_of_le_of_lt h.html_le (h.code_after x hx hcode))
        (show "body" ∈ ["html", "head", "body"] by decide) base
      rw [pageAfter, document, String.toList_empty, Builder.takeAll_nil,
        Builder.take_end_inHeadOf, hbody]
      exact (Page.append_empty _).symm
  | cons item items ih =>
      obtain ⟨t', mode', h', hrun, hpage⟩ := step h (hitems item (List.mem_cons_self ..)) mode base
      have hrest := ih h' (fun i hi => hitems i (List.mem_cons_of_mem _ hi)) mode'
      rw [page_cons, ← Page.append_assoc, ← hpage, ← hrest, pageAfter, toList_document_cons, hrun,
        pageAfter]

theorem pageAfter_started (h : Tree.Codeless t) (hitems : ∀ item ∈ items, item.Plain)
    (base : Option Url) :
    pageAfter (.started t) base items = Page.ofTree t base ++ page items := by
  induction items generalizing t with
  | nil =>
      have hnone : ∀ item ∈ ([] : List Embedded), item.Plain := nofun
      have hhead := pageAfter_inHeadOf h.headOpen hnone .initial base
      rw [h.ofTree_withHead, pageAfter, document, String.toList_empty, Builder.takeAll_nil,
        Builder.take_end_inHeadOf] at hhead
      rw [pageAfter, document, String.toList_empty, Builder.takeAll_nil, Builder.take_end_started,
        hhead]
  | cons item items ih =>
      rcases (hitems item (List.mem_cons_self ..)).cases with
        ⟨text, hpage, hwritten⟩ | ⟨k, text, -, hwritten⟩
      · have hrest := ih (h.put_comment text) (fun i hi => hitems i (List.mem_cons_of_mem _ hi))
        rw [page_cons, ← Page.append_assoc, hpage,
          ← Page.ofTree_put_comment h.grown (.self _) (h.codeAfter _), ← hrest, pageAfter,
          toList_document_cons, (hwritten _).1, Builder.takeAll_comment (hwritten _).2 rfl,
          Builder.take_comment_started, pageAfter]
      · have hhead := pageAfter_inHeadOf h.headOpen hitems .initial base
        rw [h.ofTree_withHead] at hhead
        rw [← hhead, pageAfter, pageAfter, toList_document_cons, (hwritten _).1,
          Builder.takeAll_code_started]

theorem return_notMem_document (hitems : ∀ item ∈ items, item.Plain) :
    '\r' ∉ (document items).toList := by
  induction items with
  | nil => exact List.not_mem_nil
  | cons item items ih =>
      have hitem := (hitems item (List.mem_cons_self ..)).2.1
      have hrest := ih fun i hi => hitems i (List.mem_cons_of_mem _ hi)
      rw [toList_document_cons, List.mem_append, not_or]
      refine ⟨?_, hrest⟩
      cases item <;> simpa [markup, Embedded.text] using hitem

theorem head?_document (items : List Embedded) :
    (document items).toList.head? ≠ some '\uFEFF' := by
  cases items with
  | nil => exact nofun
  | cons item items => cases item <;> simp [document, markup]

end Embedded

/-- What a page embeds is recovered: of a document that is written as
comments, styles and scripts with nothing in between a scan gets their texts,
each sort in order, and nothing else. -/
theorem Page.embedded_recovered (items : List Embedded) (h : ∀ item ∈ items, item.Plain)
    (base : Option Url) :
    Page.ofHtml (Embedded.document items) base
      = { comments := items.filterMap Embedded.comment?
          styles := items.filterMap Embedded.style?
          stylesheets := []
          scripts := (items.filterMap Embedded.script?).map .inline } := by
  have hempty : Html.Tree.Codeless .empty := ⟨.empty, nofun⟩
  have hpage := Embedded.pageAfter_started hempty h base
  have hnormal : normalise (Embedded.document items).toList = (Embedded.document items).toList :=
    normalise_eq_self (Embedded.return_notMem_document h) (Embedded.head?_document items)
  rw [Page.ofHtml, Html.Tree.ofText, hnormal]
  exact hpage

/-- Dashes at the ends of comments, comments in a style and parts of end tags
are text like any other. -/
theorem Page.embedded_recovered_dashes :
    (∀ item ∈ [Embedded.comment "a--!", .style "<!--b--></ style>", .comment "<!-", .script "",
        .script "c-->d</scrip", .comment "-"], item.Plain)
      ∧ Page.ofHtml ("<!--a--!--><style><!--b--></ style></style><!--<!--->"
          ++ "<script></script><script>c-->d</scrip</script><!----->") none
        = { comments := ["a--!", "<!-", "-"]
            styles := ["<!--b--></ style>"]
            stylesheets := []
            scripts := [.inline "", .inline "c-->d</scrip"] } := by
  have hwritten : "<!--a--!--><style><!--b--></ style></style><!--<!--->"
        ++ "<script></script><script>c-->d</scrip</script><!----->"
      = Embedded.document [.comment "a--!", .style "<!--b--></ style>", .comment "<!-",
        .script "", .script "c-->d</scrip", .comment "-"] := by
    decide
  refine ⟨by decide, ?_⟩
  rw [hwritten]
  exact Page.embedded_recovered _ (by decide) none

end Marginalia
