import LiveSurface.Component.Basic
import LiveSurface.Json.Display
import LiveSurface.Log.Logged
/-!
# Parsing component records

Records come from language models, so a property of the wrong shape becomes unusable instead of spoiling its
component, and a record is dropped only if it has no usable id. A property may be sent under either of its
two names; the first name wins, and the other one is then an extra property.
-/
namespace LiveSurface

/-! ## Shapes of properties -/

/-- The truth value that a value is. -/
def Json.flag? : Json → Option Bool
  | .bool b => some b
  | _ => none

/-- The integer that a value is. -/
def Json.integer? : Json → Option Int
  | .num (.int n) => some n
  | _ => none

/-- The number that a value is, if it can be used as a finite double. -/
def Json.bound? : Json → Option Number
  | .num n => if n.isUsable then some n else none
  | _ => none

/-- The text that a value is, unless it is empty. -/
def Json.nonEmptyText? : Json → Option String
  | .str s => if s = "" then none else some s
  | _ => none

theorem Json.eq_of_nonEmptyText? {v : Json} {s : String} (h : v.nonEmptyText? = some s) : v = .str s ∧ s ≠ "" := by
  cases v with
  | str s' =>
    simp only [nonEmptyText?] at h
    split at h
    · cases h
    · next hne =>
      cases h
      exact ⟨rfl, hne⟩
  | _ => cases h

/-- The fields that a value has as an object. -/
def Json.fields? : Json → Option Fields
  | .obj fields => some fields
  | _ => none

theorem Json.eq_of_fields? {v : Json} {fields : Fields} (h : v.fields? = some fields) : v = .obj fields := by
  cases v with
  | obj fields' =>
    cases h
    rfl
  | _ => cases h

namespace Fields

/-- The field with a name, or else with another name. -/
def either? (fields : Fields) (name other : String) : Option Json :=
  match fields.get? (name : Key) with
  | some v => some v
  | none => fields.get? (other : Key)

/-- The value of a property. -/
def property? (fields : Fields) (p : Property) : Option Json := fields.either? p.word p.otherWord

/-- The name under which a property was sent. -/
def usedName (fields : Fields) (p : Property) : String :=
  if fields.contains (p.word : Key) then p.word else p.otherWord

end Fields

/-- The binding with the tags of an object. -/
def Binding.ofFields (fields : Fields) : Binding where
  literalString := fields.either? "literalString" "literal_string"
  literalNumber := fields.either? "literalNumber" "literal_number"
  literalBoolean := fields.either? "literalBoolean" "literal_boolean"
  literalArray := fields.either? "literalArray" "literal_array"
  path := (fields.get? ("path" : Key)).map Json.text?

/-- A value in place, or a binding if it is an object. -/
def Bindable.ofJson : Json → Bindable
  | .obj fields => .bound (.ofFields fields)
  | v => .plain v

/-- The children that an object names by a list of ids, or else by a template. -/
def Children.ofJson? (v : Json) : Option Children := do
  let fields ← v.fields?
  match fields.get? ("explicitList" : Key) with
  | some (.arr items) => some (.explicit (items.filterMap Json.text?))
  | _ =>
    let template ← (← fields.get? ("template" : Key)).fields?
    let id ← (← template.get? ("componentId" : Key)).nonEmptyText?
    let binding ← (← template.get? ("dataBinding" : Key)).nonEmptyText?
    some (.template id binding)

/-- The objects of an array. -/
def Json.objects : Json → List Fields
  | .arr items => items.filterMap Json.fields?
  | _ => []

/-- The option with the fields of an object. -/
def Choice.ofFields (fields : Fields) : Choice where
  label := (fields.get? ("label" : Key)).map .ofJson
  value := fields.get? ("value" : Key)

/-- The tab with the fields of an object. -/
def TabItem.ofFields (fields : Fields) : TabItem where
  title := (fields.get? ("title" : Key)).map .ofJson
  child := (fields.get? ("child" : Key)).map Json.text?

/-- The body of a type whose properties have the given values. -/
def Body.ofProperties (value? : Property → Option Json) : ComponentType → Body :=
  let shows (p : Property) : Option Bindable := (value? p).map .ofJson
  let word (p : Property) : Option (Option String) := (value? p).map Json.text?
  let flag (p : Property) : Option (Option Bool) := (value? p).map Json.flag?
  let bound (p : Property) : Option (Option Number) := (value? p).map Json.bound?
  let children := (value? .children).map Children.ofJson?
  fun
  | .text => .text (shows .text) (word .usageHint)
  | .image => .image (shows .url) (word .fit) (word .usageHint)
  | .icon => .icon (shows .name)
  | .row => .row children (word .distribution) (word .alignment)
  | .column => .column children (word .distribution) (word .alignment)
  | .list => .list children (word .direction) (word .distribution) (word .alignment)
  | .card => .card (word .child)
  | .button => .button (word .child) (flag .primary) (value? .action)
  | .textField => .textField (shows .label) (shows .text) (word .textFieldType)
  | .divider => .divider (word .axis)
  | .slider => .slider (shows .value) (bound .minValue) (bound .maxValue)
  | .checkBox => .checkBox (shows .label) (shows .value)
  | .multipleChoice =>
    .multipleChoice (shows .selections) ((value? .options).map fun v => v.objects.map Choice.ofFields)
      ((value? .maxAllowedSelections).map Json.integer?)
  | .dateTimeInput => .dateTimeInput (shows .value) (flag .enableDate) (flag .enableTime)
  | .tabs => .tabs ((value? .tabItems).map fun v => v.objects.map TabItem.ofFields)
  | .modal => .modal (word .entryPointChild) (word .contentChild)

/-! ## Records -/

/-- Why a record cannot be parsed at all. -/
inductive RecordError
  /-- The type is displayed as a name and holds an integer that is too long. -/
  | longNumeral (numeral : LongNumeral)
  /-- A record outside the catalog has a field whose name is no text. -/
  | brokenName
deriving DecidableEq, Repr

/-- The fields of a record that belong to no property. -/
def Fields.without (fields : Fields) (names : List String) : Fields :=
  fields.filter fun e => !names.any fun n => e.1 = (n : Key)

/-- Whether the names of all fields are texts. -/
def Fields.namesIntact (fields : Fields) : Bool := fields.all fun e => e.1.intact

namespace Component

/-- The component of a type within the catalog. -/
def ofRecord (type : ComponentType) (id : String) (fields : Fields) : Component where
  id := id
  body := .ofProperties fields.property? type
  extras := fields.without ("id" :: "type" :: type.properties.map fields.usedName)

/-- The component of a type within the catalog that was sent nothing but its id. -/
def bare (type : ComponentType) (id : String) : Component where
  id := id
  body := .ofProperties (fun _ => none) type
  extras := []

/-- Parses a component record; a record without a usable id is skipped. -/
def parse (v : Json) : Logged RecordError (Option Component) :=
  match v with
  | .obj fields =>
    let fields : Fields := fields
    match (fields.get? ("id" : Key)).bind Json.nonEmptyText? with
    | none => do
      Logged.emit (.componentSkipped .missingId)
      pure none
    | some id =>
      let type := (fields.get? ("type" : Key)).getD .null
      match type.text?.bind ComponentType.ofWord? with
      | some t =>
        if fields.namesIntact then pure (some (ofRecord t id fields))
        else do
          Logged.emit (.componentDegraded id t.word)
          pure (some (bare t id))
      | none => do
        let name ← Logged.ofExcept (type.display.mapError .longNumeral)
        if fields.namesIntact then
          pure (some ⟨id, .unknown name, fields.without ["id", "type"]⟩)
        else Logged.fail .brokenName
  | _ => do
    Logged.emit (.componentSkipped .notAnObject)
    pure none

end Component

/-! ## What becomes of a record -/

/-- The id of a record, if it has a usable one. -/
def Json.recordId? : Json → Option String
  | .obj fields => (Entries.get? (κ := Key) fields "id").bind Json.nonEmptyText?
  | _ => none

theorem Json.exists_fields_of_recordId? {v : Json} {id : String} (h : v.recordId? = some id) :
    ∃ fields : Fields, v = .obj fields := by
  cases v with
  | obj fields => exact ⟨fields, rfl⟩
  | _ => cases h

/-- The type within the catalog that a record names. -/
def Fields.type? (fields : Fields) : Option ComponentType :=
  ((fields.get? ("type" : Key)).getD .null).text?.bind ComponentType.ofWord?

namespace Component

theorem result_parse_skipped {v : Json} (h : v.recordId? = none) : (parse v).result = .ok none := by
  cases v with
  | obj fields =>
    have hid : (Entries.get? (κ := Key) fields "id").bind Json.nonEmptyText? = none := h
    simp only [parse, hid]
    rfl
  | _ => rfl

section
variable {fields : Fields} {id : String} (h : (Json.obj fields).recordId? = some id)
include h

theorem result_parse_known {t : ComponentType} (ht : fields.type? = some t) :
    (parse (.obj fields)).result =
      .ok (some (if fields.namesIntact then ofRecord t id fields else bare t id)) := by
  have hid : (fields.get? ("id" : Key)).bind Json.nonEmptyText? = some id := h
  have htype : ((fields.get? ("type" : Key)).getD .null).text?.bind ComponentType.ofWord? = some t := ht
  simp only [parse, hid, htype]
  split <;> rfl

theorem result_parse_unknown (ht : fields.type? = none) :
    (parse (.obj fields)).result =
      (Logged.ofExcept (((fields.get? ("type" : Key)).getD .null).display.mapError RecordError.longNumeral) >>= fun name =>
        if fields.namesIntact then pure (some ⟨id, .unknown name, fields.without ["id", "type"]⟩)
        else Logged.fail .brokenName).result := by
  have hid : (fields.get? ("id" : Key)).bind Json.nonEmptyText? = some id := h
  have htype : ((fields.get? ("type" : Key)).getD .null).text?.bind ComponentType.ofWord? = none := ht
  simp only [parse, hid, htype]

end

end Component

end LiveSurface
