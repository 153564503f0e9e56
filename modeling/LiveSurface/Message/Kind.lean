/-!
# Kinds of messages

A message element names its kind by the field that carries its payload. The kinds are listed in the order in
which they are looked for.
-/
namespace LiveSurface

/-- What a message asks for. -/
inductive MessageKind
  | createSurface | updateComponents | updateDataModel | deleteSurface
deriving DecidableEq, Repr

namespace MessageKind

/-- All kinds; if an element has several, the first one counts. -/
def all : List MessageKind := [.createSurface, .updateComponents, .updateDataModel, .deleteSurface]

/-- The field that carries the payload. -/
def word : MessageKind → String
  | .createSurface => "createSurface"
  | .updateComponents => "updateComponents"
  | .updateDataModel => "updateDataModel"
  | .deleteSurface => "deleteSurface"

theorem mem_all (k : MessageKind) : k ∈ all := by cases k <;> simp [all]

end MessageKind

end LiveSurface
