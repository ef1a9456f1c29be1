/-
How the head of a document is built when nothing but comments, styles and
scripts are written. Up to the first style or script there are only comments
outside of everything (`started`); then there is a head, and all that follows
goes to its end (`inHeadOf`). The body comes when the document ends.
-/
import Marginalia.Html.Document
import Marginalia.Proofs.Html.TreeOrder
import Marginalia.Proofs.Html.Verbatim

namespace Marginalia.Html

/-- Elements whose text is code. -/
inductive Code where
  | style
  | script
deriving DecidableEq, Repr

namespace Code

/-- The name of the element. -/
def name : Code → List Char
  | style => ['s', 't', 'y', 'l', 'e']
  | script => scriptName

/-- The tag of the element, without attributes. -/
def tag (k : Code) : Tag :=
  ⟨String.ofList k.name, [], false⟩

/-- The element. -/
def element (k : Code) : Element :=
  .ofTag k.tag

/-- How the text of the element is to be read. -/
def reading : Code → TextKind
  | style => .raw "style"
  | script => .script

end Code

namespace Builder

variable {t : Tree} {html head : Nat} {mode : Mode}

/-- A builder that has seen nothing but comments. -/
def started (t : Tree) : Builder :=
  { tree := t }

/-- A builder with the head open. -/
def inHeadOf (t : Tree) (html head : NodeId) (returnMode : Mode) : Builder :=
  { tree := t
    mode := .inHead
    returnMode
    stack := [⟨head, .plain "head"⟩, ⟨html, .plain "html"⟩]
    head := some ⟨head, .plain "head"⟩ }

/-- A builder that has opened an element of code in the head. -/
def inCode (t : Tree) (html head id : NodeId) (k : Code) (reading : TextKind) : Builder :=
  { inHeadOf t html head .inHead with
    mode := .text
    stack := ⟨id, k.element⟩ :: (inHeadOf t html head .inHead).stack
    reading }

-- ============================================================= tokens

theorem take_comment_started (t : Tree) (text : List Char) :
    (started t).take (.comment text) = started (t.put Tree.root (.comment text)) :=
  rfl

theorem take_comment_inHeadOf (text : List Char) :
    (inHeadOf t html head mode).take (.comment text)
      = inHeadOf (t.put head (.comment text)) html head mode :=
  rfl

theorem settle_startTag_inHeadOf (k : Code) (n : Nat) :
    settle (.startTag k.tag) (n + 1) (inHeadOf t html head mode)
      = inCode (t.put head (.element k.element)) html head t.nodes.size k k.reading := by
  cases k <;> rfl

theorem take_endTag_inCode (t : Tree) (html head id : NodeId) (k : Code) :
    (inCode t html head id k .markup).take (.endTag (String.ofList k.name))
      = inHeadOf t html head .inHead := by
  cases k <;> rfl

theorem place_inCode {id : NodeId} (k : Code) :
    (inCode t html head id k .markup).place = .lastIn id := by
  cases k <;> rfl

theorem take_text_inCode {id : NodeId} (k : Code) (run : List Char) (hnone : t.children id = #[]) :
    (inCode t html head id k .markup).take (.text run)
      = inCode (if run.isEmpty then t else t.put id (.text run)) html head id k .markup := by
  cases run with
  | nil => rfl
  | cons c run =>
      have hinsert : (inCode t html head id k .markup).take (.text (c :: run))
          = (inCode t html head id k .markup).insertText (c :: run) := by
        cases k <;> rfl
      rw [hinsert, insertText, place_inCode]
      have hput : (inCode t html head id k .markup).tree.appendText id (c :: run)
          = t.put id (.text (c :: run)) :=
        Tree.appendText_of_childless hnone _
      simp only [List.isEmpty_cons, Bool.false_eq_true, if_false, hput]
      rfl

/-- The tree with an html element. -/
def withRoot (t : Tree) : Tree :=
  t.put Tree.root (.element (.plain "html"))

/-- The tree with an html element and a head. -/
def withHead (t : Tree) : Tree :=
  (withRoot t).put t.nodes.size (.element (.plain "head"))

/-- A builder with the html element open. -/
def inRoot (t : Tree) : Builder :=
  { tree := withRoot t, mode := .beforeHead, stack := [⟨t.nodes.size, .plain "html"⟩] }

theorem settle_of_again {b b' : Builder} {token : Token} (h : b.step token = .again b') (n : Nat) :
    settle token (n + 1) b = settle token n b' := by
  rw [settle, h]

/-- An element of code brings the head with it, and so does the end of the
document. -/
theorem settle_started {token : Token}
    (htoken : (∃ k : Code, token = .startTag k.tag) ∨ token = .endOfDocument) (n : Nat) :
    settle token (n + 3) (started t)
      = settle token n (inHeadOf (withHead t) t.nodes.size (withRoot t).nodes.size .initial) := by
  have hmode : (started t).step token = .again { started t with mode := .beforeHtml } := by
    rcases htoken with ⟨_ | _, rfl⟩ | rfl <;> rfl
  have hroot : { started t with mode := .beforeHtml }.step token = .again (inRoot t) := by
    rcases htoken with ⟨_ | _, rfl⟩ | rfl <;> rfl
  have hhead : (inRoot t).step token
      = .again (inHeadOf (withHead t) t.nodes.size (withRoot t).nodes.size .initial) := by
    rcases htoken with ⟨_ | _, rfl⟩ | rfl <;> rfl
  rw [settle_of_again hmode, settle_of_again hroot, settle_of_again hhead]

theorem settle_end_inHeadOf (n : Nat) :
    (settle .endOfDocument (n + 3) (inHeadOf t html head mode)).tree
      = t.put html (.element (.plain "body")) := by
  rfl

-- =============================================================== text

theorem takeAll_of_next? {b : Builder} {token : Token} {s rest : List Char}
    (hnext : Token.next? b.inForeign s = some (token, rest)) :
    b.takeAll s
      = if (b.take token).reading = .markup then (b.take token).takeAll rest
        else ((b.take token).takeText rest).1.takeAll ((b.take token).takeText rest).2 := by
  rw [takeAll]
  split
  · next h => rw [hnext] at h; cases h
  · next h =>
      rw [hnext] at h
      cases h
      rfl

theorem takeAll_nil (b : Builder) : b.takeAll [] = b := by
  rw [takeAll]
  rfl

theorem takeText_of_take {b : Builder} {s text rest : List Char}
    (h : b.reading.take s = (text, rest)) :
    b.takeText s = (({ b with reading := .markup }).take (.text text), rest) := by
  rw [takeText, h]

/-- A comment as it is written in front of a text. -/
def commentBefore (text rest : List Char) : List Char :=
  '<' :: '!' :: '-' :: '-' :: (text ++ (commentClose ++ rest))

/-- An end tag as it is written in front of a text. -/
def endBefore (k : Code) (rest : List Char) : List Char :=
  '<' :: '/' :: (k.name ++ '>' :: rest)

/-- An element of code as it is written in front of a text. -/
def codeBefore (k : Code) (text rest : List Char) : List Char :=
  '<' :: (k.name ++ '>' :: (text ++ endBefore k rest))

variable {text rest : List Char}

theorem takeAll_comment {b : Builder}
    (hread : commentText (text ++ (commentClose ++ rest)) = (text, rest))
    (hreading : (b.take (.comment text)).reading = .markup) :
    b.takeAll (commentBefore text rest) = (b.take (.comment text)).takeAll rest := by
  have hnext := next?_comment b.inForeign (text ++ (commentClose ++ rest))
  rw [hread] at hnext
  exact (takeAll_of_next? hnext).trans (if_pos hreading)

theorem isTagName_name (k : Code) : IsTagName k.name := by
  cases k <;> decide

theorem reading_ne_markup (k : Code) : k.reading ≠ .markup := by
  cases k <;> decide

theorem next?_codeBefore (foreign : Bool) (k : Code) (text rest : List Char) :
    Token.next? foreign (codeBefore k text rest)
      = some (.startTag k.tag, text ++ endBefore k rest) :=
  next?_startTag foreign (isTagName_name k) _

theorem next?_endBefore (foreign : Bool) (k : Code) (rest : List Char) :
    Token.next? foreign (endBefore k rest) = some (.endTag (String.ofList k.name), rest) :=
  next?_endTag foreign (isTagName_name k) _

theorem closesElement_end (k : Code) (rest : List Char) :
    closesElement k.name ('/' :: (k.name ++ '>' :: rest)) := by
  cases k <;> rfl

/-- The text of an element of code ends at the end tag that is written behind
it. -/
theorem take_reading (k : Code) (hend : ¬ '<' :: '/' :: k.name <:+: text.map Char.toLower)
    (hopen : k = .script → ¬ ['<', '!', '-', '-'] <:+: text) (hnull : '\x00' ∉ text)
    (rest : List Char) : k.reading.take (text ++ endBefore k rest) = (text, endBefore k rest) := by
  have hclose := closesElement_end k rest
  cases k with
  | style => exact rawText_append (by decide) hend hnull hclose
  | script => exact scriptText_append hend (hopen rfl) hnull hclose

/-- An element of code in the head is put there with its text. -/
theorem takeAll_code {k : Code} (hhead : head < t.nodes.size)
    (hread : k.reading.take (text ++ endBefore k rest) = (text, endBefore k rest)) :
    (inHeadOf t html head mode).takeAll (codeBefore k text rest)
      = (inHeadOf (t.embed head k.element text) html head .inHead).takeAll rest := by
  have hopen : (inHeadOf t html head mode).take (.startTag k.tag)
      = inCode (t.put head (.element k.element)) html head t.nodes.size k k.reading :=
    settle_startTag_inHeadOf k 35
  have htext : (inCode (t.put head (.element k.element)) html head t.nodes.size k
        k.reading).takeText (text ++ endBefore k rest)
      = (inCode (t.embed head k.element text) html head t.nodes.size k .markup,
        endBefore k rest) := by
    rw [takeText_of_take hread]
    exact congrArg (·, _) (take_text_inCode k text (Tree.children_put_self hhead _))
  have hclose := take_endTag_inCode (t.embed head k.element text) html head t.nodes.size k
  calc (inHeadOf t html head mode).takeAll (codeBefore k text rest)
      = (inCode (t.embed head k.element text) html head t.nodes.size k .markup).takeAll
          (endBefore k rest) := by
        rw [takeAll_of_next? (next?_codeBefore _ k text rest), hopen, htext]
        exact if_neg (reading_ne_markup k)
    _ = (inHeadOf (t.embed head k.element text) html head .inHead).takeAll rest := by
        rw [takeAll_of_next? (next?_endBefore _ k rest), hclose]
        exact if_pos rfl

/-- The first element of code brings the head with it. -/
theorem takeAll_code_started (t : Tree) (k : Code) (text rest : List Char) :
    (started t).takeAll (codeBefore k text rest)
      = (inHeadOf (withHead t) t.nodes.size (withRoot t).nodes.size .initial).takeAll
          (codeBefore k text rest) := by
  have hhead : (inHeadOf (withHead t) t.nodes.size (withRoot t).nodes.size .initial).take
        (.startTag k.tag)
      = inCode ((withHead t).put (withRoot t).nodes.size (.element k.element)) t.nodes.size
          (withRoot t).nodes.size (withHead t).nodes.size k k.reading :=
    settle_startTag_inHeadOf k 35
  have hstarted : (started t).take (.startTag k.tag)
      = inCode ((withHead t).put (withRoot t).nodes.size (.element k.element)) t.nodes.size
          (withRoot t).nodes.size (withHead t).nodes.size k k.reading :=
    (settle_started (.inl ⟨k, rfl⟩) 29).trans (settle_startTag_inHeadOf k 28)
  rw [takeAll_of_next? (next?_codeBefore _ k text rest), hstarted,
    takeAll_of_next? (next?_codeBefore _ k text rest), hhead]

/-- The end of a document that has had no head yet. -/
theorem take_end_started (t : Tree) :
    ((started t).take .endOfDocument).tree
      = (withHead t).put t.nodes.size (.element (.plain "body")) :=
  (congrArg Builder.tree (settle_started (.inr rfl) 29)).trans (settle_end_inHeadOf 26)

theorem take_end_inHeadOf :
    ((inHeadOf t html head mode).take .endOfDocument).tree
      = t.put html (.element (.plain "body")) :=
  settle_end_inHeadOf 33

end Builder

end Marginalia.Html
