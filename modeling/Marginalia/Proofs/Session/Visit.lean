/-
A visit against the scan it is made of. A visit scans its page twice,
once for the report to the background and once for the popup, and what
it shows has crossed the bus both times. It still agrees with a single
scan of the page: none of the places where it could give up or fall
short is ever reached.

- The report is not lost, so the badge is there and counts the scan
  (`World.load_background`).
- The popup's request is answered, and the answer is read back string
  by string (`World.openPopup_page`).
- Regrouping by kind changes no order, since a scan finds comments kind
  by kind (`PageContext.encode_comments_popup`).

Texts and origins need not come back as they were (Comment/Wire.lean);
the wire strings do, and so the agreement is stated on those.
-/
import Marginalia.Proofs.Messaging.Delivery
import Marginalia.Proofs.Popup.Scanned
import Marginalia.Session

namespace Marginalia

namespace Session

/-- Opening a page succeeds, and asks for everything twice. -/
theorem opened_eq (c : PageContext) :
    opened c
      = ⟨.ok (.ofCount c.scan.length, .ofWire (c.scan.map Comment.encode)),
          c.requests ++ c.requests⟩ := by
  have hload := World.load_background (w := World.start [c]) (i := 0) tab rfl
  have hpopup := fun badges => World.openPopup_page (i := 0) (c := c)
    (w := { World.start [c] with badges := badges }) rfl
  have hurls : (c.requests.map fun url => ((0, url) : Request)).map (·.2)
      = c.requests := by
    rw [List.map_map]
    exact List.map_id _
  unfold opened
  simp only [hload, hpopup, World.badge?_cons_self, Option.getD_some,
    List.map_append, hurls]

/-- A visit shows what a scan of the page finds, counted and sent over the
wire. -/
theorem visit_eq (url : Url) (fetch : Fetcher) (o : Options) :
    visit url fetch o
      = match fetch url.text with
        | .error e => .error (.pageNotLoaded url.text e)
        | .ok body =>
          let c : PageContext := ⟨Page.ofHtml body (some url), fetch, o⟩
          .ok ⟨.ofCount c.scan.length, .ofWire (c.scan.map Comment.encode),
            url.text :: (c.requests ++ c.requests)⟩ := by
  unfold visit attempt
  simp only [Fetching.value_bind, Fetching.fetched_bind, Fetching.value_ask,
    Fetching.fetched_ask]
  cases fetch url.text with
  | error e => rfl
  | ok body =>
      simp only [opened_eq]
      rfl

/-- If the page cannot be fetched, a visit fails with the reason and
fetches nothing else. If it can, the visit succeeds, and the badge, the
popup and the URLs fetched are those of a scan of the page. -/
theorem visit_agrees_with_scan (url : Url) (fetch : Fetcher) (o : Options) :
    match fetch url.text with
    | .error e =>
        attempt url fetch o = ⟨.error (.pageNotLoaded url.text e), [url.text]⟩
          ∧ visit url fetch o = .error (.pageNotLoaded url.text e)
    | .ok body =>
        let found := (Page.ofHtml body (some url)).gather fetch o
        ∃ popup,
          visit url fetch o
              = .ok ⟨.ofCount found.value.length, popup,
                  url.text :: (found.fetched ++ found.fetched)⟩
            ∧ popup.total = found.value.length
            ∧ popup.comments.map Comment.encode = found.value.map Comment.encode := by
  cases hbody : fetch url.text with
  | error e =>
      have hattempt : attempt url fetch o
          = ⟨.error (.pageNotLoaded url.text e), [url.text]⟩ := by
        unfold attempt
        rw [Fetching.ext_iff_parts]
        simp only [Fetching.value_bind, Fetching.fetched_bind, Fetching.value_ask,
          Fetching.fetched_ask, hbody]
        exact ⟨rfl, rfl⟩
      refine ⟨hattempt, ?_⟩
      unfold visit
      rw [hattempt]
      rfl
  | ok body =>
      let c : PageContext := ⟨Page.ofHtml body (some url), fetch, o⟩
      have hattempt : attempt url fetch o
          = ⟨.ok (.ofCount c.scan.length, .ofWire (c.scan.map Comment.encode)),
              url.text :: (c.requests ++ c.requests)⟩ := by
        unfold attempt
        rw [Fetching.ext_iff_parts]
        simp only [Fetching.value_bind, Fetching.fetched_bind, Fetching.value_ask,
          Fetching.fetched_ask, hbody]
        rw [opened_eq c]
        exact ⟨rfl, rfl⟩
      refine ⟨.ofWire (c.scan.map Comment.encode), ?_, c.total_popup,
        c.encode_comments_popup⟩
      unfold visit
      rw [hattempt]
      rfl

end Session

end Marginalia
