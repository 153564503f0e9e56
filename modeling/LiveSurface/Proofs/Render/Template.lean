import LiveSurface.Proofs.Log.Comparison
import LiveSurface.Proofs.Path.Item
import LiveSurface.Render.Draw
import Mathlib.Data.List.Nodup
/-!
# Items of templates

A template draws its component once for every entry of its container, each time in the context that is the path of that
entry. Nothing but this path says which entry an item shows: what is bound inside the item is looked up through it, and
so is what is written back.

The items of an array are safe with that. A field is looked up by its name between slashes, so an item shows its own
field if the name is one segment; a name with slashes leads on into other entries, and the empty name leads back to the
container.

Results:
* `Draw.repeats_template`: a template draws its component once under each context.
* `Draw.template_items`: the items of an array are bound to its items.
* `Draw.template_fields`, `Draw.template_fields_elsewhere`: which items of an object are bound to its fields.
-/
namespace LiveSurface

namespace Draw

/-! ## One item for each entry -/

/-- The contexts of the items of a template, in order. -/
def itemContexts (path : String) (container : Json) : List String := container.entryNames.map (Path.join path)

theorem itemContexts_arr (path : String) (items : List Json) :
    itemContexts path (.arr items) = (List.range items.length).map fun i => Path.join path (toString i) := by
  unfold itemContexts
  rw [Json.entryNames, List.map_map]
  rfl

theorem itemContexts_obj (path : String) (fields : Fields) :
    itemContexts path (.obj fields) = fields.map fun e => Path.join path e.1.text := by
  unfold itemContexts
  rw [Json.entryNames, List.map_map]
  rfl

/-- A template draws its component once under each of the contexts, in order, and these are different. An item whose
component draws nothing leaves no node. -/
structure Repeats (canvas : Canvas) (id dataBinding : String) (contexts : List String) : Prop where
  distinct : contexts.Nodup
  outcome : ∀ kids, (template canvas id dataBinding).result = .ok kids ↔
    ∃ nodes, List.Forall₂ (fun context node => (canvas.reference (some id) context).result = .ok node) contexts nodes ∧
      kids = drawn nodes
  complete : ∀ kids,
    List.Forall₂ (fun context kid => (canvas.reference (some id) context).result = .ok (some kid)) contexts kids →
      (template canvas id dataBinding).result = .ok kids

theorem drawn_map_some (kids : List Node) : drawn (kids.map some) = kids := by
  unfold drawn
  rw [List.filterMap_map]
  exact List.filterMap_some

section
variable {canvas : Canvas} {dataBinding : String} {container : Json}

theorem template_ok_iff (id : String)
    (h : canvas.data.getAt (Path.resolve dataBinding canvas.contextPath) = .ok container) (kids : List Node) :
    (template canvas id dataBinding).result = .ok kids ↔
      ∃ nodes, List.Forall₂ (fun context node => (canvas.reference (some id) context).result = .ok node)
        (itemContexts (Path.resolve dataBinding canvas.contextPath) container) nodes ∧ kids = drawn nodes := by
  have hresult : (template canvas id dataBinding).result =
      (container.entryNames.mapM fun name =>
        canvas.reference (some id) (Path.join (Path.resolve dataBinding canvas.contextPath) name)).result.map drawn := by
    simp only [template, h, Logged.result_bind]
    rfl
  unfold itemContexts
  simp only [List.forall₂_map_left_iff, ← Logged.mapM_ok_iff, hresult]
  cases (container.entryNames.mapM fun name =>
      canvas.reference (some id) (Path.join (Path.resolve dataBinding canvas.contextPath) name)).result with
  | error e => simp [Except.map]
  | ok nodes => simp [Except.map, eq_comm]

/-- **A template draws its component once under each context.** -/
theorem repeats_template (id : String)
    (h : canvas.data.getAt (Path.resolve dataBinding canvas.contextPath) = .ok container)
    (hnames : container.entryNames.Nodup) :
    Repeats canvas id dataBinding (itemContexts (Path.resolve dataBinding canvas.contextPath) container) where
  distinct := List.Nodup.map (Path.join_injective _) hnames
  outcome := template_ok_iff id h
  complete kids hkids := by
    rw [template_ok_iff id h]
    refine ⟨kids.map some, ?_, (drawn_map_some kids).symm⟩
    rw [List.forall₂_map_right_iff]
    exact hkids

end

/-! ## Arrays -/

theorem nodup_entryNames_arr (items : List Json) : (Json.arr items).entryNames.Nodup :=
  List.Nodup.map Path.toString_injective List.nodup_range

/-- **The items of an array are bound to its items.** If the path of a template leads to an array, the component is
drawn once for each index in order, each time under another context. In the context of an index the data model shows
the item there, and a write at the context puts the value in place of this item and changes nothing else. Only indices
of more than `maxDigits` digits are not read, and no array that can be held has so many items. -/
theorem template_items (canvas : Canvas) (id dataBinding : String) {items : List Json}
    (hitems : canvas.data.getAt (Path.resolve dataBinding canvas.contextPath) = .ok (.arr items)) :
    let path := Path.resolve dataBinding canvas.contextPath
    let context := fun i : Nat => Path.join path (toString i)
    Repeats canvas id dataBinding ((List.range items.length).map context) ∧
      ∀ i entry, items[i]? = some entry → (toString i).length ≤ maxDigits →
        canvas.data.IsBoundTo (context i) entry ∧ ∀ v, ∃ new,
          canvas.data.setAt (context i) v = pure new ∧ new.getAt path = .ok (.arr (items.set i v)) ∧
            Json.Replaced (.arr items) (.arr (items.set i v)) (Path.segments path) canvas.data new := by
  intro path context
  constructor
  · show Repeats canvas id dataBinding ((List.range items.length).map fun i => Path.join path (toString i))
    rw [← itemContexts_arr]
    exact repeats_template id hitems (nodup_entryNames_arr items)
  · intro i entry hentry hlen
    obtain ⟨hi, -⟩ := List.getElem?_eq_some_iff.mp hentry
    constructor
    · apply Json.isBoundTo_join
      rw [Json.getAt_join hitems]
      exact Json.getAt_item hentry hlen
    · intro v
      obtain ⟨new, hnew, hreplaced⟩ := Json.exists_setAt_join hitems hi hlen v
      refine ⟨new, hnew, ?_, hreplaced⟩
      unfold Json.getAt
      rw [hreplaced.find?_right]
      rfl

/-- An item of a group, under which tags are listed. -/
def groupCanvas : Canvas where
  data := .ofFields [("groups", .arr [.ofFields [], .ofFields [("tags", .arr [.null, .bool true])]])]
  contextPath := "/groups/1"
  reference _ path := pure (some (.leaf "text" [("context_path", .str path)]))

/-- A template inside the item of another one, whose path ends in a slash. -/
theorem template_items_group :
    groupCanvas.data.getAt (Path.resolve "./tags/" groupCanvas.contextPath) = .ok (.arr [.null, .bool true]) ∧
      (toString 1).length ≤ maxDigits ∧
      (template groupCanvas "tag" "./tags/").result = .ok
        [.leaf "text" [("context_path", .str "/groups/1/tags/0")],
         .leaf "text" [("context_path", .str "/groups/1/tags/1")]] ∧
      groupCanvas.data.IsBoundTo "/groups/1/tags/1" (.bool true) := by
  have hsegments : Path.segments (Path.resolve "./tags/" groupCanvas.contextPath) = ["groups", "1", "tags"] := by decide
  have hitems : groupCanvas.data.getAt (Path.resolve "./tags/" groupCanvas.contextPath) =
      .ok (.arr [.null, .bool true]) := by
    rw [Json.getAt, hsegments]
    rfl
  have hlen : (toString 1).length ≤ maxDigits := by decide
  obtain ⟨hrepeats, hbound⟩ := template_items groupCanvas "tag" "./tags/" hitems
  refine ⟨hitems, hlen, ?_, ?_⟩
  · exact hrepeats.complete _ (.cons rfl (.cons rfl .nil))
  · exact (hbound 1 (.bool true) rfl hlen).1

/-! ## Objects -/

/-- **Which items of an object are bound to its fields.** If the path of a template leads to an object, whose fields
have different names, the component is drawn once for each field in order, each time under another context. The context
of a name reads what the name reads as a path in the object. Of a name that is not empty and has no slash in it, this is
the field of that name. -/
theorem template_fields (canvas : Canvas) (id dataBinding : String) {fields : Fields}
    (hfields : canvas.data.getAt (Path.resolve dataBinding canvas.contextPath) = .ok (.obj fields))
    (hnames : (fields.map fun e => e.1.text).Nodup) :
    let context := Path.join (Path.resolve dataBinding canvas.contextPath)
    Repeats canvas id dataBinding (fields.map fun e => context e.1.text) ∧
      (∀ name, canvas.data.getAt (context name) = (Json.obj fields).getAt name) ∧
      ∀ (name : String) (entry : Json), fields.get? (name : Key) = some entry → name ≠ "" → '/' ∉ name.toList →
        canvas.data.IsBoundTo (context name) entry := by
  intro context
  refine ⟨?_, Json.getAt_join hfields, ?_⟩
  · rw [← itemContexts_obj]
    exact repeats_template id hfields hnames
  · intro name entry hentry hne hslash
    apply Json.isBoundTo_join
    rw [Json.getAt_join hfields]
    exact Json.getAt_field hentry hne hslash

/-- Days under their names, one of which holds a slash. -/
def dayCanvas : Canvas where
  data := .ofFields [("days",
    .ofFields [("01", .bool true), ("24/12", .bool true), ("24", .ofFields [("12", .bool false)])])]
  contextPath := "/days"
  reference _ path := pure (some (.leaf "text" [("context_path", .str path)]))

theorem getAt_days : dayCanvas.data.getAt (Path.resolve "." dayCanvas.contextPath) = .ok (.obj
    [("01", .bool true), ("24/12", .bool true), ("24", .ofFields [("12", .bool false)])]) := by
  have hsegments : Path.segments (Path.resolve "." dayCanvas.contextPath) = ["days"] := by decide
  rw [Json.getAt, hsegments]
  rfl

/-- A name in digits stays a name. -/
theorem template_fields_days :
    (template dayCanvas "day" ".").result = .ok
        [.leaf "text" [("context_path", .str "/days/01")], .leaf "text" [("context_path", .str "/days/24/12")],
         .leaf "text" [("context_path", .str "/days/24")]] ∧
      dayCanvas.data.IsBoundTo "/days/01" (.bool true) := by
  obtain ⟨hrepeats, -, hbound⟩ := template_fields dayCanvas "day" "." getAt_days (by decide)
  refine ⟨?_, hbound "01" (.bool true) rfl (by decide) (by decide)⟩
  exact hrepeats.complete _ (.cons rfl (.cons rfl (.cons rfl .nil)))

/-- A name with a slash in it is not told apart from two names: the item of one field can show another one. -/
theorem template_fields_elsewhere :
    ¬ ∀ (canvas : Canvas) (id dataBinding : String) (fields : Fields),
      canvas.data.getAt (Path.resolve dataBinding canvas.contextPath) = .ok (.obj fields) →
      (fields.map fun e => e.1.text).Nodup →
      let context := Path.join (Path.resolve dataBinding canvas.contextPath)
      Repeats canvas id dataBinding (fields.map fun e => context e.1.text) ∧
        ∀ (name : String) (entry : Json), fields.get? (name : Key) = some entry →
          canvas.data.getAt (context name) = .ok entry := by
  intro hall
  obtain ⟨-, hreads⟩ := hall dayCanvas "day" "." _ getAt_days (by decide)
  have hown := hreads "24/12" (.bool true) rfl
  have hsegments : Path.segments (Path.join (Path.resolve "." dayCanvas.contextPath) "24/12") = ["days", "24", "12"] := by
    decide
  have hother : dayCanvas.data.getAt (Path.join (Path.resolve "." dayCanvas.contextPath) "24/12") =
      .ok (.bool false) := by
    rw [Json.getAt, hsegments]
    rfl
  rw [hother] at hown
  cases hown

end Draw

end LiveSurface
