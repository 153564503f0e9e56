import LiveSurface.Proofs.Path.Context
import LiveSurface.Proofs.Render.Graph
/-!
# Drawing inside a moved context

If all paths below a component are relative, then drawing it under a path `c` is drawing it at the root of what
the data model holds at `c`, with the contexts of the buttons moved under `c`. This is why the items of a
template do not depend on where their container stands.

The two drawings go side by side. Their contexts are `c ++ x` and `x` all along, where `x` is empty or begins with
a slash, and their ancestries hold the same ids with contexts that differ in the same way.

Results:
* `Draw.SameShape.relocate`: nodes of the same shape over moved references are moved nodes.
* `Draw.component_relocate`: drawing in contexts that differ by `c`.
* `Surface.onlyRelative_of_closed`: how to see that all paths below a component are relative.
* `Surface.drawPart_relocate`: drawing under `c` and at the root of the value at `c`.
-/
namespace LiveSurface

namespace Node

/-- A context of a button, moved under `c`. -/
def relocateAttr (c : String) (attr : String × Json) : String × Json :=
  if attr.1 = "context_path" then
    match attr.2 with
    | .str path => (attr.1, .str (c ++ path))
    | _ => attr
  else attr

mutual

/-- A tree with the contexts of its buttons moved under `c`. -/
def relocate (c : String) : Node → Node
  | mk tag attrs text children =>
    mk tag (if tag = "button" then attrs.map (relocateAttr c) else attrs) text (relocateAll c children)

/-- Trees with the contexts of their buttons moved under `c`. -/
def relocateAll (c : String) : List Node → List Node
  | [] => []
  | node :: rest => relocate c node :: relocateAll c rest

end

theorem relocateAll_eq_map (c : String) (nodes : List Node) : relocateAll c nodes = nodes.map (relocate c) := by
  induction nodes with
  | nil => rfl
  | cons node rest ih => rw [relocateAll, ih, List.map_cons]

theorem relocate_branch {tag : String} (h : tag ≠ "button") (c : String) (attrs : List (String × Json))
    (kids : List Node) : relocate c (branch tag attrs kids) = branch tag attrs (kids.map (relocate c)) := by
  rw [branch, relocate, if_neg h, relocateAll_eq_map, branch]

end Node

namespace Draw

variable {c : String}

/-- What a reference draws under `c` and at the root. -/
def Moved (c : String) (node node' : Option Node) : Prop := node = node'.map (Node.relocate c)

theorem SameKids.relocate {kids kids' : List Node} (h : SameKids (Moved c) kids kids') :
    kids = kids'.map (Node.relocate c) := by
  obtain ⟨nodes, nodes', hn, rfl, rfl⟩ := h
  induction hn with
  | nil => rfl
  | @cons node node' nodes nodes' hm _ ih =>
    obtain rfl : node = node'.map (Node.relocate c) := hm
    cases node' with
    | none => exact ih
    | some node' => exact congrArg (Node.relocate c node' :: ·) ih

/-- Nodes of the same shape over moved references are moved nodes. -/
theorem SameShape.relocate {x : String} {node node' : Node} (h : SameShape (Moved c) (c ++ x) x node node') :
    node = node'.relocate c := by
  cases h with
  | leaf attrs text htag => rw [Node.relocate, if_neg htag, Node.relocateAll]
  | branch attrs htag hk => rw [Node.relocate_branch htag, hk.relocate]
  | button primary action hk =>
    rw [Node.branch, Node.branch, Node.relocate, if_pos rfl, Node.relocateAll_eq_map, hk.relocate]
    simp [Node.relocateAttr]
  | tabs ht =>
    have htab : ∀ tab tab', SameTab (Moved c) tab tab' → tab = tab'.relocate c := by
      rintro _ _ ⟨title, kids, kids', hk, rfl, rfl⟩
      rw [Node.relocate_branch (by decide), hk.relocate]
    have htabs := List.forall₂_map_right_iff.mpr (ht.imp htab)
    rw [List.forall₂_eq_eq_eq] at htabs
    rw [Node.relocate_branch (by decide), htabs]
  | modal he hc =>
    rw [Node.relocate_branch (by decide), he.relocate, hc.relocate, List.map_cons, List.map_cons, List.map_nil,
      Node.relocate_branch (by decide), Node.relocate_branch (by decide)]

end Draw

/-- All paths that drawing looks up below an id are relative. -/
def Surface.OnlyRelative (s : Surface) (id : String) : Prop :=
  ∀ a c, s.Reaches id a → s.component? a = some c → ∀ path ∈ c.body.paths, Path.IsRelative path

theorem Surface.OnlyRelative.of_reference {s : Surface} {a b : String} {c : Component} (h : s.OnlyRelative a)
    (hc : s.component? a = some c) (hb : b ∈ c.body.references) : s.OnlyRelative b := by
  intro d cd hreach hcd
  have hstored : (s.component? b).isSome := by
    rcases hreach.cases_head with rfl | ⟨_, ⟨cb, hcb, -⟩, -⟩
    · rw [hcd]; rfl
    · rw [hcb]; rfl
  exact h d cd (.head ⟨c, hc, hb, hstored⟩ hreach) hcd

/-- Paths are relative below an id of a set that references do not leave, if they are relative in it. -/
theorem Surface.onlyRelative_of_closed {s : Surface} (ids : List String)
    (h : ∀ e ∈ s.components, e.1 ∈ ids → (∀ b ∈ e.2.body.references, b ∈ ids) ∧
      ∀ path ∈ e.2.body.paths, Path.IsRelative path) {id : String} (hid : id ∈ ids) : s.OnlyRelative id := by
  have hmem : ∀ {a}, s.Reaches id a → a ∈ ids := by
    intro a hreach
    induction hreach with
    | refl => exact hid
    | tail _ hr ih =>
      obtain ⟨c, hc, hb, -⟩ := hr
      exact (h _ (Entries.mem_of_get? hc) ih).1 _ hb
  intro a c hreach hc
  exact (h _ (Entries.mem_of_get? hc) (hmem hreach)).2

namespace Draw

/-- The ancestries hold the same ids, with contexts that differ by `c`. -/
theorem mem_moved {moved ancestry : List (String × String)} (hm : moved = ancestry.map fun e => (e.1, c ++ e.2))
    {id x : String} : (id, c ++ x) ∈ moved ↔ (id, x) ∈ ancestry := by
  simp [hm, String.append_right_inj]

/-- What draws nothing under `c` draws nothing at the root. -/
theorem moved_none {x y : Logged LongNumeral (Option Node)} (hx : x.result = .ok none)
    (hy : y.result = .ok none) : (Comparison.results LongNumeral).Holds (Moved c) x y := by
  change Comparison.Ends (Moved c) x.result y.result
  rw [hx, hy]
  exact .ok rfl

theorem component_relocate {s : Surface} {v : Json} (hne : c ≠ "") (hend : c.toList.getLast? ≠ some '/')
    (hv : s.dataModel.getAt c = .ok v) (limit remaining : Nat) {moved ancestry : List (String × String)}
    (hm : moved = ancestry.map fun e => (e.1, c ++ e.2)) {id : Option String} {x : String} (hx : Path.IsInner x)
    (hrel : ∀ a ∈ id, s.OnlyRelative a) :
    (Comparison.results LongNumeral).Holds (Moved c) (component limit s remaining moved id (c ++ x))
      (component limit { s with dataModel := v } remaining ancestry id x) := by
  induction remaining generalizing moved ancestry id x with
  | zero => exact moved_none (component_guarded fun _ _ => .inr rfl) (component_guarded fun _ _ => .inr rfl)
  | succ remaining ih =>
    -- Neither guard tells the two drawings apart, so that both stop here or both go on.
    by_cases hopen : ∃ comp, id.bind s.component? = some comp ∧ (comp.id, x) ∉ ancestry
    · obtain ⟨comp, hc, hmem⟩ := hopen
      obtain ⟨a, rfl, ha⟩ := Option.bind_eq_some_iff.mp hc
      have hrela := hrel a rfl
      have hpaths := hrela a comp .refl ha
      rw [component_open hc ((mem_moved hm).not.mpr hmem), component_open (s := { s with dataModel := v }) hc hmem]
      refine Comparison.bind _ (Comparison.imp _ (body_related ?_) fun _ _ hn => hn.relocate) ?_
      · constructor
        case value =>
          intro b hb
          refine Bindable.resolve_congr fun path hpath => Json.getAt_resolve hne hv (hpaths path ?_) hx
          exact List.mem_append_left _ (List.mem_filterMap.mpr ⟨b, hb, hpath⟩)
        case nothing =>
          exact moved_none (component_guarded fun _ h => (nomatch h)) (component_guarded fun _ h => (nomatch h))
        case direct =>
          intro b hb
          refine ih (by rw [hm]; rfl) hx ?_
          rintro _ ⟨⟩
          exact hrela.of_reference ha (List.mem_append_left _ hb)
        case container =>
          intro b path ht
          exact Json.getAt_resolve hne hv (hpaths path (by simp [Body.paths, ht])) hx
        case entry =>
          intro b path container ht _ name _
          have hp := hpaths path (by simp [Body.paths, ht])
          obtain ⟨hjoin, hinner⟩ := Path.join_resolve hne hend hp hx name
          simp only [hjoin]
          refine ih (by rw [hm]; rfl) hinner ?_
          rintro _ ⟨⟩
          exact hrela.of_reference ha (by simp [Body.references, ht])
      · rintro node node' rfl
        exact Comparison.pure _ rfl
    · have hguard : ∀ comp, id.bind s.component? = some comp → (comp.id, x) ∈ ancestry := fun comp hc =>
        Classical.byContradiction fun hmem => hopen ⟨comp, hc, hmem⟩
      refine moved_none (component_guarded fun comp hc => ?_) (component_guarded fun comp hc => ?_)
      · exact .inl ((mem_moved hm).mpr (hguard comp hc))
      · exact .inl (hguard comp hc)

end Draw

/-- **Template relocation.** If all paths below a component are relative, then drawing it under a path `c` that
does not end in a slash gives what drawing it at the root of the value at `c` gives, except that the buttons
tell contexts under `c`. -/
theorem Surface.drawPart_relocate (settings : Settings) {s : Surface} {c : String} {v : Json} (hne : c ≠ "")
    (hend : c.toList.getLast? ≠ some '/') (hv : s.dataModel.getAt c = .ok v) (id : Option String)
    (hrel : ∀ a ∈ id, s.OnlyRelative a) (depth : Int) :
    (s.drawPart settings id c depth).result =
      Option.map (Node.relocate c) <$> ({ s with dataModel := v }.drawPart settings id "" depth).result := by
  have hnil : ([] : List (String × String)) = [].map fun e : String × String => (e.1, c ++ e.2) := rfl
  have h := Draw.component_relocate hne hend hv settings.maxRenderDepth
    ((settings.maxRenderDepth : Int) - depth).toNat hnil (.inl rfl) hrel
  rw [String.append_empty] at h
  exact Comparison.Ends.eq_map h

/-! ## An item with a template of its own -/

/-- The first entry of `Surface.shelf`. -/
def shelfItem : Json := .ofFields [("name", .str "A"), ("tags", .arr [.str "x", .str "y"])]

/-- A column of items that each show a name, a button and their tags. -/
def Surface.shelf : Surface where
  id := "main"
  catalog := "plain"
  components :=
    [("root", ⟨"root", .column (some (some (.template "item" "/items"))) none none, []⟩),
     ("item", ⟨"item", .row (some (some (.explicit ["name", "press", "tags"]))) none none, []⟩),
     ("name", ⟨"name", .text (some (.bound { path := some (some "./name") })) none, []⟩),
     ("press", ⟨"press", .button (some (some "name")) none none, []⟩),
     ("tags", ⟨"tags", .row (some (some (.template "tag" "./tags"))) none none, []⟩),
     ("tag", ⟨"tag", .button (some (some "self")) none none, []⟩),
     ("self", ⟨"self", .text (some (.bound { path := some (some ".") })) none, []⟩)]
  dataModel := .ofFields [("items", .arr [shelfItem])]

/-- The paths are relative from the item downwards, but not in the root. -/
theorem Surface.shelf_onlyRelative : shelf.OnlyRelative "item" :=
  onlyRelative_of_closed ["item", "name", "press", "tags", "tag", "self"] (by decide) (by decide)

theorem Surface.drawPart_relocate_shelf :
    (shelf.drawPart {} (some "item") "/items/0" 1).result =
      Option.map (Node.relocate "/items/0") <$>
        ({ shelf with dataModel := shelfItem }.drawPart {} (some "item") "" 1).result :=
  drawPart_relocate {} (by decide) (by decide) rfl (some "item")
    (fun _ ha => Option.mem_some_iff.mp ha ▸ shelf_onlyRelative) 1

end LiveSurface
