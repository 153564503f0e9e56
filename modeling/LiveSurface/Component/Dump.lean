import LiveSurface.Component.Basic
import LiveSurface.Json.Nesting
/-!
# Writing components as records

`Component.toJson` writes a component as a record again: its id and type, the properties that were sent, in
the order of the catalog and under their first names, and the extra properties in the order in which they
came. Records hold finite numbers only; a NaN or an infinity is written as null.

A value of any shape may be sent, but only so much nesting of it can be written: `Component.record` refuses a
component with a value that nests deeper than `recordDepth`.
-/
namespace LiveSurface

mutual

/-- The value with null in place of every number that is not finite. -/
def Json.finite : Json → Json
  | .num (.double x) => if x.isFinite then .num (.double x) else .null
  | .arr items => .arr (Json.finiteItems items)
  | .obj fields => .obj (Json.finiteFields fields)
  | .num (.int n) => .num (.int n)
  | .null => .null
  | .bool b => .bool b
  | .str s => .str s

/-- The items with null in place of every number that is not finite. -/
def Json.finiteItems : List Json → List Json
  | [] => []
  | v :: rest => v.finite :: Json.finiteItems rest

/-- The fields with null in place of every number that is not finite. -/
def Json.finiteFields : List (Key × Json) → List (Key × Json)
  | [] => []
  | (k, v) :: rest => (k, v.finite) :: Json.finiteFields rest

end

/-- The fields that were sent. -/
def sentFields (fields : List (String × Option Json)) : Fields :=
  fields.filterMap fun e => e.2.map fun v => ((e.1 : Key), v)

namespace Json

/-- A text or null. -/
def ofText (s : Option String) : Json := ofOption .str s

/-- A truth value or null. -/
def ofFlag (b : Option Bool) : Json := ofOption .bool b

/-- A number or null. -/
def ofNumber (n : Option Number) : Json := ofOption .num n

end Json

/-- A binding as an object of the tags that were sent. -/
def Binding.toJson (b : Binding) : Json :=
  .obj <| sentFields [("literalString", b.literalString), ("literalNumber", b.literalNumber),
    ("literalBoolean", b.literalBoolean), ("literalArray", b.literalArray),
    ("path", b.path.map Json.ofText)]

/-- A value in place or the object of a binding. -/
def Bindable.toJson : Bindable → Json
  | .plain v => v
  | .bound b => b.toJson

/-- Children as an object. -/
def Children.toJson : Children → Json
  | .explicit ids => .ofFields [("ids", .arr (ids.map .str))]
  | .template id binding => .ofFields [("componentId", .str id), ("dataBinding", .str binding)]

/-- An option as an object. -/
def Choice.toJson (c : Choice) : Json :=
  .obj (sentFields [("label", c.label.map Bindable.toJson), ("value", c.value)])

/-- A tab as an object. -/
def TabItem.toJson (t : TabItem) : Json :=
  .obj (sentFields [("title", t.title.map Bindable.toJson), ("child", t.child.map Json.ofText)])

/-- The values of the properties of a body, as far as they were sent. -/
def Body.sent : Body → List (Property × Option Json) :=
  let shows (v : Option Bindable) : Option Json := v.map Bindable.toJson
  let word (v : Option (Option String)) : Option Json := v.map Json.ofText
  let flag (v : Option (Option Bool)) : Option Json := v.map Json.ofFlag
  let bound (v : Option (Option Number)) : Option Json := v.map Json.ofNumber
  let kids (v : Option (Option Children)) : Option Json := v.map (Json.ofOption Children.toJson)
  fun
  | .text value hint => [(.text, shows value), (.usageHint, word hint)]
  | .image url fit hint => [(.url, shows url), (.fit, word fit), (.usageHint, word hint)]
  | .icon name => [(.name, shows name)]
  | .row children distribution alignment | .column children distribution alignment =>
    [(.children, kids children), (.distribution, word distribution), (.alignment, word alignment)]
  | .list children direction distribution alignment =>
    [(.children, kids children), (.direction, word direction), (.distribution, word distribution),
     (.alignment, word alignment)]
  | .card child => [(.child, word child)]
  | .button child primary action => [(.child, word child), (.primary, flag primary), (.action, action)]
  | .textField label value type =>
    [(.label, shows label), (.text, shows value), (.textFieldType, word type)]
  | .divider axis => [(.axis, word axis)]
  | .slider value low high => [(.value, shows value), (.minValue, bound low), (.maxValue, bound high)]
  | .checkBox label value => [(.label, shows label), (.value, shows value)]
  | .multipleChoice selections options most =>
    [(.selections, shows selections),
     (.options, options.map fun os => .arr (os.map Choice.toJson)),
     (.maxAllowedSelections, most.map (Json.ofOption Json.ofInt))]
  | .dateTimeInput value date time => [(.value, shows value), (.enableDate, flag date), (.enableTime, flag time)]
  | .tabs items => [(.tabItems, items.map fun ts => .arr (ts.map TabItem.toJson))]
  | .modal entry content => [(.entryPointChild, word entry), (.contentChild, word content)]
  | .unknown _ => []

/-- The values in a body whose shape is up to the sender; those of options and tabs stand each for itself. -/
def Body.values : Body → List Json
  | .multipleChoice selections options _ =>
    selections.toList.map Bindable.toJson ++
      (options.getD []).flatMap fun o => o.label.toList.map Bindable.toJson ++ o.value.toList
  | .tabs items => (items.getD []).flatMap fun t => t.title.toList.map Bindable.toJson
  | body => body.sent.filterMap Prod.snd

/-- A component as a record. -/
def Component.toJson (c : Component) : Json :=
  Json.finite <| .obj <|
    (("id" : Key), .str c.id) :: (("type" : Key), .str c.typeWord) ::
      (sentFields (c.body.sent.map fun e => (e.1.word, e.2)) ++ c.extras)

/-! ## Nesting -/

/-- The greatest depth of a value in a record; a property's own value is at depth 1. -/
def recordDepth : Nat := 255

/-- A value in a component nests too deep for a record. -/
structure RecordTooDeep where
deriving DecidableEq, Repr

/-- The text of the refusal. -/
def RecordTooDeep.message (_ : RecordTooDeep) : String := "Maximum serialization depth exceeded"

/-- Whether all values in a component can be written. -/
def Component.isWritable (c : Component) : Bool :=
  (c.body.values ++ c.extras.map Prod.snd).all fun v => !v.exceedsDepth recordDepth 1

/-- A component as a record, if its values can be written. -/
def Component.record (c : Component) : Except RecordTooDeep Json :=
  if c.isWritable then .ok c.toJson else .error {}

theorem Component.record_eq_ok_iff (c : Component) (v : Json) :
    c.record = .ok v ↔ c.isWritable = true ∧ c.toJson = v := by
  unfold Component.record
  split <;> simp_all

end LiveSurface
