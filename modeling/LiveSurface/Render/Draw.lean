import LiveSurface.Component.Binding
import LiveSurface.Render.Node
import LiveSurface.Settings.Basic
import LiveSurface.Surface.Store
import LiveSurface.Text.Lowercase
/-!
# Drawing surfaces

A surface is drawn from its root component downwards. References between components may dangle, lead in
circles or lead too deep; such a reference draws nothing. `Draw.body` holds the rule for each type of
component, given a way to draw the components it refers to, so that the recursion itself lives in one
place: `Draw.component` goes down one level of the limit per component.
-/
namespace LiveSurface

/-- What a rule draws with: the data model, the path of the enclosing template item, and the way to draw the
component with an id under a path. -/
structure Canvas where
  data : Json
  contextPath : String
  reference : Option String → String → Logged LongNumeral (Option Node)

namespace Canvas

/-- Draws a component in the same context: no node or one. -/
def child (canvas : Canvas) (id : Option String) : Logged LongNumeral (List Node) := do
  let node ← canvas.reference id canvas.contextPath
  pure node.toList

/-- The value that a property shows. -/
def value (canvas : Canvas) (v : Option Bindable) : Logged LongNumeral Json :=
  Logged.ofExcept (Bindable.resolve v canvas.data canvas.contextPath)

/-- The text that a property shows. -/
def text (canvas : Canvas) (v : Option Bindable) : Logged LongNumeral String :=
  Logged.ofExcept (Bindable.text v canvas.data canvas.contextPath)

/-- The text that a property shows, as an attribute. -/
def textAttr (canvas : Canvas) (name : String) (v : Option Bindable) :
    Logged LongNumeral (String × Json) := do
  let shown ← canvas.text v
  pure (name, .str shown)

end Canvas

/-- The names of the entries of a container, in order. -/
def Json.entryNames : Json → List String
  | .arr items => (List.range items.length).map toString
  | .obj fields => fields.map fun e => e.1.text
  | _ => []

/-- A name in mixed case with its words set apart by underscores: each of `A` to `Z` gets one in front, and
all is turned into lower case. -/
def snakeCase (name : String) : String :=
  Text.lowercase <| String.ofList <| name.toList.flatMap fun c =>
    if 65 ≤ c.toNat ∧ c.toNat ≤ 90 then ['_', c] else [c]

namespace Draw

/-- The nodes that references drew. -/
def drawn (nodes : List (Option Node)) : List Node := nodes.filterMap fun n => n

/-- Draws a component once for every entry of the container at the path of its template. -/
def template (canvas : Canvas) (id dataBinding : String) : Logged LongNumeral (List Node) := do
  let path := Path.resolve dataBinding canvas.contextPath
  let container ← Logged.ofExcept (canvas.data.getAt path)
  let nodes ← container.entryNames.mapM fun name => canvas.reference (some id) (Path.join path name)
  pure (drawn nodes)

/-- Draws the components inside a layout. -/
def children (canvas : Canvas) : Option Children → Logged LongNumeral (List Node)
  | none => pure []
  | some (.explicit ids) => do
    let nodes ← ids.mapM fun id => canvas.reference (some id) canvas.contextPath
    pure (drawn nodes)
  | some (.template id dataBinding) => template canvas id dataBinding

/-- An attribute whose value belongs to a vocabulary. -/
def wordAttr (name : String) (v : Vocabulary) (word : Option (Option String)) : String × Json :=
  (name, .str (v.pick word.join))

/-- Draws a row, a column or a list. -/
def layout (canvas : Canvas) (tag direction : String) (kids : Option (Option Children))
    (distribution alignment : Option (Option String)) : Logged LongNumeral Node := do
  let nodes ← children canvas kids.join
  pure <| .branch tag
    [("direction", .str direction), wordAttr "distribution" Catalog.distributions distribution,
     wordAttr "alignment" Catalog.alignments alignment] nodes

/-- The kind of input that a type of text field takes. -/
def inputKind (fieldType : String) : String :=
  if fieldType = "number" then "number" else if fieldType = "date" then "date" else "text"

/-- Draws an option of a multiple choice. -/
def choice (canvas : Canvas) (c : Choice) : Logged LongNumeral Json := do
  let label ← canvas.text c.label
  pure (.ofFields [("label", .str label), ("value", c.value.getD .null)])

/-- Draws a tab. -/
def tab (canvas : Canvas) (t : TabItem) : Logged LongNumeral Node := do
  let title ← canvas.textAttr "title" t.title
  let nodes ← canvas.child t.child.join
  pure (.branch "tab" [title] nodes)

/-- The items of an array, none of any other value. -/
def itemsOf : Json → List Json
  | .arr items => items
  | _ => []

/-- Draws the body of a component. -/
def body (canvas : Canvas) : Body → Logged LongNumeral Node
  | .text value hint => do
    let shown ← canvas.text value
    pure (.mk "text" [wordAttr "role" Catalog.textUsageHints hint] (some shown) [])
  | .image url fit hint => do
    let url ← canvas.textAttr "url" url
    pure <| .leaf "image"
      [url, wordAttr "fit" Catalog.imageFits fit, wordAttr "size" Catalog.imageUsageHints hint]
  | .icon name => do
    let shown ← canvas.text name
    pure <| .leaf "icon" [("name", .str (if shown = "" then Catalog.defaultIcon else snakeCase shown))]
  | .row kids distribution alignment => layout canvas "row" "horizontal" kids distribution alignment
  | .column kids distribution alignment => layout canvas "column" "vertical" kids distribution alignment
  | .list kids direction distribution alignment =>
    layout canvas "list" (Catalog.directions.pick direction.join) kids distribution alignment
  | .card kid => do
    let nodes ← canvas.child kid.join
    pure (.branch "card" [] nodes)
  | .button kid primary action => do
    let nodes ← canvas.child kid.join
    pure <| .branch "button"
      [("primary", .bool (primary.join.getD false)), ("action", action.getD .null),
       ("context_path", .str canvas.contextPath)] nodes
  | .textField label value type => do
    let label ← canvas.textAttr "label" label
    let shown ← canvas.textAttr "text" value
    let fieldType := Catalog.textFieldTypes.pick type.join
    pure <| .leaf "text_field"
      [label, shown, ("field_type", .str fieldType), ("multiline", .bool (fieldType = "longText")),
       ("masked", .bool (fieldType = "obscured")), ("input_kind", .str (inputKind fieldType))]
  | .divider axis => pure (.leaf "divider" [wordAttr "axis" Catalog.axes axis])
  | .slider value low high => do
    let low := low.join.getD (.int Catalog.sliderMin)
    let high := high.join.getD (.int Catalog.sliderMax)
    let shown ← Logged.ofExcept (Bindable.number? value canvas.data canvas.contextPath)
    pure <| .leaf "slider"
      [("min", .num low), ("max", .num high), ("value", .num (shown.getD (Number.midpoint low high)))]
  | .checkBox label value => do
    let label ← canvas.textAttr "label" label
    let checked ← Logged.ofExcept (Bindable.flag value canvas.data canvas.contextPath false)
    pure (.leaf "checkbox" [label, ("checked", .bool checked)])
  | .multipleChoice selections options most => do
    let selected ← canvas.value selections
    let choices ← (options.getD []).mapM (choice canvas)
    pure <| .leaf "multiple_choice"
      [("selections", .arr (itemsOf selected)), ("options", .arr choices),
       ("max_allowed", Json.ofOption Json.ofInt most.join)]
  | .dateTimeInput value date time => do
    let shown ← canvas.textAttr "value" value
    pure <| .leaf "datetime_input"
      [shown, ("enable_date", .bool (date.join.getD true)), ("enable_time", .bool (time.join.getD true))]
  | .tabs items => do
    let tabs ← (items.getD []).mapM (tab canvas)
    pure (.branch "tabs" [] tabs)
  | .modal entry content => do
    let entry ← canvas.child entry.join
    let content ← canvas.child content.join
    pure (.branch "modal" [] [.branch "modal_entry" [] entry, .branch "modal_content" [] content])
  | .unknown type => pure (.mk "unknown" [("type", .str type)] (some ("[Unknown: " ++ type ++ "]")) [])

/-- Draws the component with an id under a path, `remaining` levels below the limit. `ancestry` holds the
components around it with their paths; one that comes up again under the same path draws nothing. -/
def component (limit : Nat) (s : Surface) (remaining : Nat) (ancestry : List (String × String))
    (id : Option String) (path : String) : Logged LongNumeral (Option Node) :=
  match id.bind s.component? with
  | none => pure none
  | some c =>
    if (c.id, path) ∈ ancestry then do
      Logged.emit (.renderCycle s.id c.id path)
      pure none
    else
      match remaining with
      | 0 => do
        Logged.emit (.renderDepthExceeded s.id c.id limit)
        pure none
      | remaining + 1 => do
        let node ← body
          { data := s.dataModel
            contextPath := path
            reference := component limit s remaining ((c.id, path) :: ancestry) }
          c.body
        pure (some node)

end Draw

/-- Draws a component of a surface under a path, as if it stood inside `depth` others. -/
def Surface.drawPart (settings : Settings) (s : Surface) (id : Option String) (path : String)
    (depth : Int) : Logged LongNumeral (Option Node) :=
  Draw.component settings.maxRenderDepth s ((settings.maxRenderDepth : Int) - depth).toNat [] id path

namespace Store

/-- Draws a surface; nothing if it is not live or has no root. -/
def draw (settings : Settings) (store : Store) (id : String) : Logged LongNumeral (Option Node) :=
  match store.surface? id with
  | none => do
    Logged.emit (.renderUnknownSurface id)
    pure none
  | some s =>
    match s.root? with
    | none => do
      Logged.emit (.renderNoRoot id)
      pure none
    | some root => s.drawPart settings (some root.id) "" 0

/-- Draws all live surfaces in order of creation. -/
def drawAll (settings : Settings) (store : Store) :
    Logged LongNumeral (List (String × Option Node)) :=
  store.surfaces.mapM fun e => do
    let node ← store.draw settings e.2.id
    pure (e.2.id, node)

end Store

end LiveSurface
