/-
What a page gets from a tree that grows. A page is put together from the
comments and the elements of a document (`ofParts`), and both only grow at
the end while the document is read. The text of an element of code stays as
it is as long as nodes are put on nodes that were made before it
(`Tree.CodeAfter`).

Two sorts of trees are met on the way through a document that starts with
comments and elements of code: those without code, which get their nodes at
the root (`Codeless`), and those with a head that gets all the others
(`HeadOpen`).
-/
import Marginalia.Page
import Marginalia.Proofs.Html.Head

namespace Marginalia

open Html

variable {t : Tree} {p html head : Nat} {base : Option Url}

-- ====================================================== parts of pages

namespace Page

/-- Two pages, one behind the other. -/
instance : Append Page where
  append p q :=
    { comments := p.comments ++ q.comments
      styles := p.styles ++ q.styles
      stylesheets := p.stylesheets ++ q.stylesheets
      scripts := p.scripts ++ q.scripts }

theorem append_def (p q : Page) :
    p ++ q = ⟨p.comments ++ q.comments, p.styles ++ q.styles, p.stylesheets ++ q.stylesheets,
      p.scripts ++ q.scripts⟩ :=
  rfl

theorem append_assoc (p q r : Page) : p ++ q ++ r = p ++ (q ++ r) := by
  simp only [append_def, List.append_assoc]

theorem append_empty (p : Page) : p ++ ({} : Page) = p := by
  simp only [append_def, List.append_nil]

/-- What a scan needs of comments and elements, by the text of each
element. -/
def ofParts (textOf : NodeId → List Char) (base : Option Url) (comments : List (List Char))
    (elements : List (NodeId × Element)) : Page where
  comments := comments.map String.ofList
  styles := (elements.filter (·.2.name = "style")).map fun x => String.ofList (textOf x.1)
  stylesheets := (elements.filter (isStylesheetLink ·.2)).filterMap fun x => link? base x.2 "href"
  scripts := (elements.filter (·.2.name = "script")).map fun x =>
    match link? base x.2 "src" with
    | some url => .external url
    | none => .inline (String.ofList (textOf x.1))

theorem ofTree_eq (t : Tree) (base : Option Url) :
    ofTree t base = ofParts t.textBelow base t.comments t.elements :=
  rfl

theorem ofParts_append (textOf : NodeId → List Char) (base : Option Url)
    (cs cs' : List (List Char)) (es es' : List (NodeId × Element)) :
    ofParts textOf base (cs ++ cs') (es ++ es')
      = ofParts textOf base cs es ++ ofParts textOf base cs' es' := by
  simp only [ofParts, append_def, List.map_append, List.filter_append, List.filterMap_append]

/-- Whether the text of an element is read as code. -/
def IsCode (e : Element) : Prop :=
  e.name = "style" ∨ e.name = "script"

theorem ofParts_congr {f g : NodeId → List Char} {cs : List (List Char)}
    {es : List (NodeId × Element)} (h : ∀ x ∈ es, IsCode x.2 → f x.1 = g x.1) :
    ofParts f base cs es = ofParts g base cs es := by
  unfold ofParts
  congr 1
  · refine List.map_congr_left fun x hx => ?_
    rw [List.mem_filter, decide_eq_true_iff] at hx
    rw [h x hx.1 (.inl hx.2)]
  · refine List.map_congr_left fun x hx => ?_
    rw [List.mem_filter, decide_eq_true_iff] at hx
    rw [h x hx.1 (.inr hx.2)]

end Page

-- ============================================================ one more

namespace Html.Tree

/-- All elements of code have been made after a node. -/
def CodeAfter (t : Tree) (p : NodeId) : Prop :=
  ∀ x ∈ t.elements, Page.IsCode x.2 → p < x.1

end Html.Tree

namespace Page

theorem ofTree_put_comment (h : t.Grown) (hp : Tree.RightEdge t Tree.root p) (hcode : t.CodeAfter p)
    (text : List Char) (base : Option Url) :
    ofTree (t.put p (.comment text)) base
      = ofTree t base ++ { comments := [String.ofList text] } := by
  have helements : (t.put p (.comment text)).elements = t.elements ++ [] := h.elements_put hp _
  have hkept : ofParts (t.put p (.comment text)).textBelow base t.comments t.elements
      = ofParts t.textBelow base t.comments t.elements := by
    refine ofParts_congr fun x hx hcodex => ?_
    have hlt := hcode x hx hcodex
    exact h.textBelow_put_of_notMem hp _ (Nat.ne_of_gt hlt) (h.notMem_descendants_of_lt hlt)
  rw [ofTree_eq, ofTree_eq, h.comments_put hp, helements, ofParts_append, hkept]
  rfl

theorem ofTree_embed (h : t.Grown) (hp : Tree.RightEdge t Tree.root p) (hcode : t.CodeAfter p)
    (e : Element) (run : List Char) (base : Option Url) :
    ofTree (t.embed p e run) base
      = ofTree t base ++ ofParts (fun _ => run) base [] [(t.nodes.size, e)] := by
  have hkept : ofParts (t.embed p e run).textBelow base t.comments t.elements
      = ofParts t.textBelow base t.comments t.elements :=
    ofParts_congr fun x hx hcodex =>
      h.textBelow_embed hp e run (hcode x hx hcodex) (Tree.lt_of_mem_elements hx)
  have hnew : ofParts (t.embed p e run).textBelow base [] [(t.nodes.size, e)]
      = ofParts (fun _ => run) base [] [(t.nodes.size, e)] := by
    refine ofParts_congr fun x hx _ => ?_
    rw [List.mem_singleton.1 hx]
    exact h.textBelow_embed_self hp e run
  rw [ofTree_eq, ofTree_eq, h.comments_embed hp, h.elements_embed hp,
    ← List.append_nil t.comments, ofParts_append, List.append_nil, hkept, hnew]

theorem not_isCode_plain {name : String} (hstyle : name ≠ "style") (hscript : name ≠ "script") :
    ¬ IsCode (.plain name) := by
  rintro (h | h)
  · exact hstyle h
  · exact hscript h

/-- The elements that are there without being written add nothing to a
page. -/
theorem ofTree_put_plain (h : t.Grown) (hp : Tree.RightEdge t Tree.root p) (hcode : t.CodeAfter p)
    {name : String} (hname : name ∈ ["html", "head", "body"]) (base : Option Url) :
    ofTree (t.put p (.element (.plain name))) base = ofTree t base := by
  have hnone : ofParts (fun _ => []) base [] [(t.nodes.size, .plain name)] = {} := by
    simp only [List.mem_cons, List.not_mem_nil, or_false] at hname
    rcases hname with rfl | rfl | rfl <;> rfl
  have hembed := ofTree_embed h hp hcode (.plain name) [] base
  rw [hnone, append_empty] at hembed
  exact hembed

/-- What an element of code adds to a page. -/
def ofCode (k : Code) (text : List Char) : Page :=
  match k with
  | .style => { styles := [String.ofList text] }
  | .script => { scripts := [.inline (String.ofList text)] }

theorem ofParts_code (k : Code) (text : List Char) (id : NodeId) (base : Option Url) :
    ofParts (fun _ => text) base [] [(id, k.element)] = ofCode k text := by
  cases k <;> rfl

end Page

-- ============================================================ the head

namespace Html.Tree

/-- Trees with an html element and a head to which all that follows goes. -/
structure HeadOpen (t : Tree) (html head : NodeId) : Prop where
  grown : t.Grown
  html_edge : RightEdge t root html
  head_edge : RightEdge t html head
  code_after : t.CodeAfter head

namespace HeadOpen

variable (h : HeadOpen t html head)
include h

theorem html_lt : html < t.nodes.size :=
  (h.grown.le_of_rightEdge h.html_edge h.grown.pos).2

theorem html_le : html ≤ head :=
  (h.grown.le_of_rightEdge h.head_edge h.html_lt).1

theorem head_lt : head < t.nodes.size :=
  (h.grown.le_of_rightEdge h.head_edge h.html_lt).2

theorem root_edge : RightEdge t root head :=
  h.html_edge.trans h.head_edge

theorem put_comment (text : List Char) : HeadOpen (t.put head (.comment text)) html head where
  grown := h.grown.put h.root_edge _
  html_edge := h.html_edge.put h.grown h.grown.pos h.head_lt h.html_le _
  head_edge := h.head_edge.put h.grown h.html_lt h.head_lt (Nat.le_refl _) _
  code_after := by
    have helements : (t.put head (.comment text)).elements = t.elements ++ [] :=
      h.grown.elements_put h.root_edge _
    rw [CodeAfter, helements, List.append_nil]
    exact h.code_after

theorem embed (e : Element) (run : List Char) : HeadOpen (t.embed head e run) html head where
  grown := h.grown.embed h.root_edge e run
  html_edge := h.grown.rightEdge_embed h.root_edge e run h.html_edge h.grown.pos h.html_le
  head_edge := h.grown.rightEdge_embed h.root_edge e run h.head_edge h.html_lt (Nat.le_refl _)
  code_after := by
    rw [CodeAfter, h.grown.elements_embed h.root_edge]
    intro x hx hcode
    rcases List.mem_append.1 hx with hx | hx
    · exact h.code_after x hx hcode
    · rw [List.mem_singleton.1 hx]
      exact h.head_lt

end HeadOpen

/-- Trees without code, to which all goes that stands in front of the html
element. -/
structure Codeless (t : Tree) : Prop where
  grown : t.Grown
  not_isCode : ∀ x ∈ t.elements, ¬ Page.IsCode x.2

namespace Codeless

theorem codeAfter (h : Codeless t) (p : NodeId) : t.CodeAfter p :=
  fun x hx hcode => absurd hcode (h.not_isCode x hx)

theorem put_comment (h : Codeless t) (text : List Char) :
    Codeless (t.put root (.comment text)) where
  grown := h.grown.put (.self _) _
  not_isCode := by
    have helements : (t.put root (.comment text)).elements = t.elements ++ [] :=
      h.grown.elements_put (.self _) _
    rw [helements, List.append_nil]
    exact h.not_isCode

theorem put_element (h : Codeless t) (hp : RightEdge t root p) {e : Element}
    (he : ¬ Page.IsCode e) : Codeless (t.put p (.element e)) where
  grown := h.grown.put hp _
  not_isCode := by
    have helements : (t.put p (.element e)).elements = t.elements ++ [(t.nodes.size, e)] :=
      h.grown.elements_put hp _
    rw [helements]
    intro x hx
    rcases List.mem_append.1 hx with hx | hx
    · exact h.not_isCode x hx
    · rw [List.mem_singleton.1 hx]
      exact he

section WithHead

variable (h : Codeless t)
include h

theorem withRoot : Codeless (Builder.withRoot t) :=
  h.put_element (.self _) (Page.not_isCode_plain (by decide) (by decide))

theorem rightEdge_withRoot : RightEdge (Builder.withRoot t) root t.nodes.size :=
  h.grown.rightEdge_put (.self _) _

theorem withHead : Codeless (Builder.withHead t) :=
  h.withRoot.put_element h.rightEdge_withRoot (Page.not_isCode_plain (by decide) (by decide))

theorem headOpen :
    HeadOpen (Builder.withHead t) t.nodes.size (Builder.withRoot t).nodes.size := by
  have hroot := h.withRoot.grown
  have hsize := (hroot.le_of_rightEdge h.rightEdge_withRoot hroot.pos).2
  exact
    { grown := h.withHead.grown
      html_edge := h.rightEdge_withRoot.put hroot hroot.pos hsize (Nat.le_refl _) _
      head_edge := .put_self hsize _
      code_after := h.withHead.codeAfter _ }

theorem ofTree_withHead (base : Option Url) :
    Page.ofTree (Builder.withHead t) base = Page.ofTree t base :=
  calc Page.ofTree (Builder.withHead t) base
      = Page.ofTree (Builder.withRoot t) base :=
        Page.ofTree_put_plain h.withRoot.grown h.rightEdge_withRoot
          (h.withRoot.codeAfter _) (by decide) base
    _ = Page.ofTree t base :=
        Page.ofTree_put_plain h.grown (.self _) (h.codeAfter _) (by decide) base

end WithHead

end Codeless

end Html.Tree

end Marginalia
