import LiveSurface.Catalog
import LiveSurface.Json.Basic
/-!
# Components

A component is a record that was parsed once, when it arrived. Each property is kept as it was sent: a
property that was not sent is `none`, and one that was sent in a shape that cannot be used holds an unusable
value rather than being left out. Properties outside the catalog are kept as `extras`.

A property that shows a value is `Bindable`: it holds the value itself, or a `Binding` that names a literal
or a path into the data model.
-/
namespace LiveSurface

/-- The tags of a binding, as far as they were sent. A literal beats the path, even a literal null. -/
structure Binding where
  literalString : Option Json := none
  literalNumber : Option Json := none
  literalBoolean : Option Json := none
  literalArray : Option Json := none
  /-- The path; sent but unusable if it was not a text. -/
  path : Option (Option String) := none
deriving Repr

/-- A value that is given in place or bound. -/
inductive Bindable
  | plain (v : Json)
  | bound (b : Binding)
deriving Repr

/-- Which components stand inside another. -/
inductive Children
  /-- The components with these ids, in order. -/
  | explicit (ids : List String)
  /-- One component, repeated for every entry of the container found at a path. -/
  | template (componentId dataBinding : String)
deriving DecidableEq, Repr

/-- An option of a multiple choice. -/
structure Choice where
  label : Option Bindable := none
  value : Option Json := none
deriving Repr

/-- A tab: its title and the component under it. -/
structure TabItem where
  title : Option Bindable := none
  child : Option (Option String) := none
deriving Repr

/-- What a component is, with the properties of its type. -/
inductive Body
  | text (text : Option Bindable) (usageHint : Option (Option String))
  | image (url : Option Bindable) (fit usageHint : Option (Option String))
  | icon (name : Option Bindable)
  | row (children : Option (Option Children)) (distribution alignment : Option (Option String))
  | column (children : Option (Option Children)) (distribution alignment : Option (Option String))
  | list (children : Option (Option Children)) (direction distribution alignment : Option (Option String))
  | card (child : Option (Option String))
  | button (child : Option (Option String)) (primary : Option (Option Bool)) (action : Option Json)
  | textField (label text : Option Bindable) (textFieldType : Option (Option String))
  | divider (axis : Option (Option String))
  | slider (value : Option Bindable) (minValue maxValue : Option (Option Number))
  | checkBox (label value : Option Bindable)
  | multipleChoice (selections : Option Bindable) (options : Option (List Choice))
      (maxAllowedSelections : Option (Option Int))
  | dateTimeInput (value : Option Bindable) (enableDate enableTime : Option (Option Bool))
  | tabs (tabItems : Option (List TabItem))
  | modal (entryPointChild contentChild : Option (Option String))
  /-- A component of a type outside the catalog. -/
  | unknown (type : String)
deriving Repr

/-- A component. -/
structure Component where
  id : String
  body : Body
  /-- The properties outside the catalog, in the order in which they were sent. -/
  extras : Fields
deriving Repr

namespace Body

/-- The type of a body within the catalog. -/
def type? : Body → Option ComponentType
  | .text .. => some .text
  | .image .. => some .image
  | .icon .. => some .icon
  | .row .. => some .row
  | .column .. => some .column
  | .list .. => some .list
  | .card .. => some .card
  | .button .. => some .button
  | .textField .. => some .textField
  | .divider .. => some .divider
  | .slider .. => some .slider
  | .checkBox .. => some .checkBox
  | .multipleChoice .. => some .multipleChoice
  | .dateTimeInput .. => some .dateTimeInput
  | .tabs .. => some .tabs
  | .modal .. => some .modal
  | .unknown _ => none

/-- The name of the type of a body. -/
def typeWord : Body → String
  | .unknown type => type
  | body => (body.type?.map ComponentType.word).getD ""

end Body

/-- The name of the type of a component. -/
def Component.typeWord (c : Component) : String := c.body.typeWord

/-! ## Properties -/

/-- The properties of the catalog's components. -/
inductive Property
  | text | usageHint | url | fit | name | children | distribution | alignment | direction | child | primary
  | action | label | textFieldType | axis | value | minValue | maxValue | selections | options
  | maxAllowedSelections | enableDate | enableTime | tabItems | entryPointChild | contentChild
deriving DecidableEq, Repr

namespace Property

/-- The name of a property in component records. -/
def word : Property → String
  | .text => "text"
  | .usageHint => "usageHint"
  | .url => "url"
  | .fit => "fit"
  | .name => "name"
  | .children => "children"
  | .distribution => "distribution"
  | .alignment => "alignment"
  | .direction => "direction"
  | .child => "child"
  | .primary => "primary"
  | .action => "action"
  | .label => "label"
  | .textFieldType => "textFieldType"
  | .axis => "axis"
  | .value => "value"
  | .minValue => "minValue"
  | .maxValue => "maxValue"
  | .selections => "selections"
  | .options => "options"
  | .maxAllowedSelections => "maxAllowedSelections"
  | .enableDate => "enableDate"
  | .enableTime => "enableTime"
  | .tabItems => "tabItems"
  | .entryPointChild => "entryPointChild"
  | .contentChild => "contentChild"

/-- The other name under which a property is accepted, with words set apart by underscores. -/
def otherWord : Property → String
  | .usageHint => "usage_hint"
  | .textFieldType => "text_field_type"
  | .minValue => "min_value"
  | .maxValue => "max_value"
  | .maxAllowedSelections => "max_allowed_selections"
  | .enableDate => "enable_date"
  | .enableTime => "enable_time"
  | .tabItems => "tab_items"
  | .entryPointChild => "entry_point_child"
  | .contentChild => "content_child"
  | p => p.word

end Property

/-- The properties of a type, in the order in which they are written. -/
def ComponentType.properties : ComponentType → List Property
  | .text => [.text, .usageHint]
  | .image => [.url, .fit, .usageHint]
  | .icon => [.name]
  | .row | .column => [.children, .distribution, .alignment]
  | .list => [.children, .direction, .distribution, .alignment]
  | .card => [.child]
  | .button => [.child, .primary, .action]
  | .textField => [.label, .text, .textFieldType]
  | .divider => [.axis]
  | .slider => [.value, .minValue, .maxValue]
  | .checkBox => [.label, .value]
  | .multipleChoice => [.selections, .options, .maxAllowedSelections]
  | .dateTimeInput => [.value, .enableDate, .enableTime]
  | .tabs => [.tabItems]
  | .modal => [.entryPointChild, .contentChild]

end LiveSurface
