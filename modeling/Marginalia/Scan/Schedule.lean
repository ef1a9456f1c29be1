/-
A scan while its requests are under way. The requests for one kind are
issued together, and are answered one at a time in an order that nobody
controls. An answer is kept in the place of its request. When every
place is filled, the comments in all of them are appended to the result
at once, and only then the next kind is taken up. A request that fails
is answered like any other: with no comments.
-/
import Marginalia.Scan

namespace Marginalia

/-- What requests are answered: the `n`-th request for a kind, by its
URL. A URL that is asked for twice need not be answered in the same way
both times. -/
abbrev Network := Kind → Nat → Fetcher

/-- The network that always answers like one fetcher. -/
def Fetcher.network (fetch : Fetcher) : Network :=
  fun _ _ => fetch

/-- The comments of one kind in the page itself, if they are
collected. -/
def Page.ownIncluded (p : Page) (o : Options) (kind : Kind) : List Comment :=
  if o.includes kind then p.ownComments kind else []

namespace Schedule

/-- A place for the answer to a request: the URL asked for, and the
comments in the answer when it has come in. -/
structure Slot where
  url : String
  found : Option (List Comment)
deriving DecidableEq, Repr

/-- What a scan does next. -/
inductive Stage where
  /-- It takes up the first of the kinds that are left; it is finished
  when none is. -/
  | between (left : List Kind)
  /-- It waits for the answers to its requests for a kind. -/
  | waiting (kind : Kind) (slots : List Slot) (left : List Kind)
deriving DecidableEq, Repr

/-- A scan under way, with the comments collected so far. -/
structure State where
  collected : List Comment
  stage : Stage
deriving DecidableEq, Repr

/-- A scan that has not begun. -/
def start : State :=
  ⟨[], .between Kind.all⟩

/-- Whether a scan has come to its end. -/
def State.Finished (s : State) : Prop :=
  s.stage = .between []

/-- What happens in a scan. -/
inductive Event where
  /-- All requests for a kind are issued. -/
  | issue (kind : Kind) (urls : List String)
  /-- The request in a place is answered. -/
  | settle (kind : Kind) (place : Nat)
  /-- The answers to all requests for a kind are put together. -/
  | join (kind : Kind)
deriving DecidableEq, Repr

/-- The URLs that are asked for when something happens. -/
def Event.urls : Event → List String
  | issue _ urls => urls
  | _ => []

/-- One thing happens in a scan. -/
inductive Step (p : Page) (o : Options) (net : Network) : State → Event → State → Prop where
  | issue (collected : List Comment) (kind : Kind) (left : List Kind) :
    Step p o net ⟨collected, .between (kind :: left)⟩ (.issue kind (p.requestsFor o kind))
      ⟨collected ++ p.ownIncluded o kind,
        .waiting kind ((p.requestsFor o kind).map fun url => ⟨url, none⟩) left⟩
  | settle {collected : List Comment} {kind : Kind} {slots : List Slot} {left : List Kind}
    {place : Nat} {url : String} (pending : slots[place]? = some ⟨url, none⟩) :
    Step p o net ⟨collected, .waiting kind slots left⟩ (.settle kind place)
      ⟨collected,
        .waiting kind
          (slots.set place
            ⟨url, some (Page.answerComments kind url (net kind place url))⟩) left⟩
  | join {collected : List Comment} {kind : Kind} {slots : List Slot} {left : List Kind}
    {found : List (List Comment)} (filled : slots.map Slot.found = found.map some) :
    Step p o net ⟨collected, .waiting kind slots left⟩ (.join kind)
      ⟨collected ++ found.flatten, .between left⟩

/-- Things happen in a scan, in order. -/
inductive Run (p : Page) (o : Options) (net : Network) : State → List Event → State → Prop where
  | nil (s : State) : Run p o net s [] s
  | cons {s s' s'' : State} {e : Event} {events : List Event}
    (first : Step p o net s e s') (rest : Run p o net s' events s'') :
    Run p o net s (e :: events) s''

end Schedule

end Marginalia
