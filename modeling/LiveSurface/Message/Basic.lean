import LiveSurface.Component.Parse
/-!
# Messages

A batch is a list of elements; every element that is structurally valid and names a surface becomes a
message. An element is invalid if it is no object, has no field of a known kind, or has a payload that is no
object. An element without a usable surface id is dropped.
-/
namespace LiveSurface

/-- A parsed message. -/
inductive Message
  | createSurface (surface : String) (catalog : Option String)
  | updateComponents (surface : String) (components : List Component)
  /-- A change of the data model; `value` is `none` if none was sent. -/
  | updateDataModel (surface : String) (path op : Option String) (value : Option Json)
  | deleteSurface (surface : String)
deriving Repr

namespace Message

/-- The kind of a message. -/
def kind : Message → MessageKind
  | .createSurface .. => .createSurface
  | .updateComponents .. => .updateComponents
  | .updateDataModel .. => .updateDataModel
  | .deleteSurface _ => .deleteSurface

/-- The surface that a message is about. -/
def surface : Message → String
  | .createSurface s _ => s
  | .updateComponents s _ => s
  | .updateDataModel s _ _ _ => s
  | .deleteSurface s => s

end Message

/-- Why an element of a batch is structurally invalid. -/
inductive ElementFault
  | notAnObject (kind : Kind)
  | noKind
  | payloadNotAnObject (kind : MessageKind)
deriving DecidableEq, Repr

/-- The text of a fault of the element at an index. -/
def ElementFault.message (index : Int) : ElementFault → String
  | .notAnObject kind => "Message " ++ toString index ++ " must be an object, got " ++ kind.word
  | .noKind =>
    "Message " ++ toString index ++ " has no recognized kind (expected one of " ++
      String.intercalate ", " (MessageKind.all.map MessageKind.word) ++ ")"
  | .payloadNotAnObject kind =>
    "Message " ++ toString index ++ ": '" ++ kind.word ++ "' must be an object"

/-- Why an element cannot be parsed. -/
inductive ElementError
  | invalid (index : Int) (fault : ElementFault)
  | record (error : RecordError)
deriving DecidableEq, Repr

namespace Message

/-- The components of a list of records; records that cannot be used are left out. -/
def parseComponents (v : Option Json) : Logged RecordError (List Component) :=
  match v with
  | some (.arr items) => do
    let parsed ← items.mapM Component.parse
    pure (parsed.filterMap id)
  | _ => pure []

/-- The message of a kind with a payload. -/
def ofPayload (surface : String) (payload : Fields) : MessageKind → Logged RecordError Message
  | .createSurface =>
    pure (.createSurface surface ((payload.either? "catalogId" "catalog_id").bind Json.text?))
  | .updateComponents => do
    let components ← parseComponents (payload.get? ("components" : Key))
    pure (.updateComponents surface components)
  | .updateDataModel =>
    pure (.updateDataModel surface ((payload.get? ("path" : Key)).bind Json.text?)
      ((payload.get? ("op" : Key)).bind Json.text?) (payload.get? ("value" : Key)))
  | .deleteSurface => pure (.deleteSurface surface)

/-- The kinds whose fields an element has. -/
def kindsOf (fields : Fields) : List MessageKind :=
  MessageKind.all.filter fun k => fields.contains (k.word : Key)

/-- Parses the element at an index of a batch; the index is only told, so that a caller may count from any
number. -/
def parse (v : Json) (index : Int) : Logged ElementError (Option Message) :=
  match v with
  | .obj fields =>
    match kindsOf fields with
    | [] => Logged.fail (.invalid index .noKind)
    | kind :: others => do
      if others ≠ [] then Logged.emit (.multipleMessageKinds index kind others)
      match (Entries.get? (κ := Key) fields kind.word).bind Json.fields? with
      | none => Logged.fail (.invalid index (.payloadNotAnObject kind))
      | some payload =>
        match (payload.get? ("surfaceId" : Key)).bind Json.nonEmptyText? with
        | none => do
          Logged.emit (.messageDropped index kind)
          pure none
        | some surface => do
          let message ← (ofPayload surface payload kind).mapError .record
          pure (some message)
  | _ => Logged.fail (.invalid index (.notAnObject v.kind))

end Message

end LiveSurface
