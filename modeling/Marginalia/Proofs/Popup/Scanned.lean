/-
The popup of a page. A scan finds comments kind by kind, which is the
order in which a popup lists them, so that nothing is moved when the
wire strings of a scan are regrouped, and nothing is left out.
-/
import Marginalia.Messaging.World
import Marginalia.Proofs.Extract.Kinds
import Marginalia.Proofs.Popup.Grouping

namespace Marginalia

namespace PageContext

theorem scan_eq_flatMap (c : PageContext) :
    c.scan = Kind.all.flatMap fun kind =>
      (c.page.commentsOfKind c.fetch c.options kind).value :=
  Page.value_gather c.page c.fetch c.options

/-- The popup of a page shows comments with the wire strings of its scan,
in the order of the scan. -/
theorem encode_comments_popup (c : PageContext) :
    (Popup.ofWire (c.scan.map Comment.encode)).comments.map Comment.encode
      = c.scan.map Comment.encode := by
  rw [scan_eq_flatMap]
  exact Popup.encode_comments_ofWire fun _ => Page.kind_of_mem_commentsOfKind

theorem total_popup (c : PageContext) :
    (Popup.ofWire (c.scan.map Comment.encode)).total = c.scan.length := by
  have h := congrArg List.length c.encode_comments_popup
  rw [List.length_map, List.length_map] at h
  rw [Popup.total_eq_length_comments, h]

end PageContext

end Marginalia
