import LiveSurface.Proofs.Render.Plain
/-!
# The limit only prunes

A lower limit on the levels of components cuts a drawing back and does nothing else to it. `Node.prune` takes from
a finished tree the nodes of all components that stand inside too many others; tabs and the two halves of a modal
are nodes, but no components, and do not count. Drawing under a lower limit gives the pruned tree of any higher one,
on every surface: circles stop at the same places under both, since the guard against them is asked first.

Two runs of the drawing go side by side, from the same component with the same ancestry. They differ in the levels
that remain. Where the lower one has none left, it draws nothing, and what the higher one draws there is a node of a
component and pruned. The lower run may even go through where the higher one fails on an index further down, so that
only the other direction is claimed.

Results:
* `Draw.body_not_wrapper`: what a rule draws stands for a component.
* `Draw.SameShape.prune`: nodes of the same shape over pruned references are pruned nodes.
* `Draw.component_prune`, `Draw.component_unlimited`: the two runs, and the same runs if no limit is met.
* `Store.draw_prune`: a surface under two limits.
-/
namespace LiveSurface

/-- The limit on the levels of components was met. -/
def Event.IsDepthExceeded (e : Event) : Prop :=
  ∃ surface component limit, e = .renderDepthExceeded surface component limit

namespace Node

/-- Whether a node groups children inside a component, and stands for no component of its own. -/
def isWrapper (n : Node) : Bool := n.tag = "tab" || n.tag = "modal_entry" || n.tag = "modal_content"

mutual

/-- What is left of a tree inside `above` components, if those inside `limit` or more are taken out. -/
def prune (limit above : Nat) : Node → Option Node
  | mk tag attrs text children =>
    if (mk tag attrs text children).isWrapper then some (mk tag attrs text (pruneAll limit above children))
    else if limit ≤ above then none
    else some (mk tag attrs text (pruneAll limit (above + 1) children))

/-- What is left of trees. -/
def pruneAll (limit above : Nat) : List Node → List Node
  | [] => []
  | n :: rest => (prune limit above n).toList ++ pruneAll limit above rest

end

variable {limit above : Nat}

theorem pruneAll_eq_filterMap (nodes : List Node) : pruneAll limit above nodes = nodes.filterMap (prune limit above) := by
  induction nodes with
  | nil => rfl
  | cons n rest ih =>
    rw [pruneAll, ih, List.filterMap_cons]
    cases prune limit above n <;> rfl

theorem prune_of_le {n : Node} (hn : n.isWrapper = false) (h : limit ≤ above) : prune limit above n = none := by
  cases n
  rw [prune, hn, if_neg Bool.false_ne_true, if_pos h]

theorem prune_component {tag : String} {attrs : List (String × Json)} {text : Option String} {children : List Node}
    (hn : (mk tag attrs text children).isWrapper = false) (h : above < limit) :
    prune limit above (mk tag attrs text children) =
      some (mk tag attrs text (children.filterMap (prune limit (above + 1)))) := by
  rw [prune, hn, if_neg Bool.false_ne_true, if_neg (Nat.not_le.mpr h), pruneAll_eq_filterMap]

theorem prune_wrapper {tag : String} {attrs : List (String × Json)} {children : List Node}
    (hn : (branch tag attrs children).isWrapper = true) :
    prune limit above (branch tag attrs children) =
      some (branch tag attrs (children.filterMap (prune limit above))) := by
  rw [branch] at hn
  rw [branch, prune, hn, if_pos rfl, pruneAll_eq_filterMap, branch]

end Node

namespace Draw

/-! ## What a rule draws -/

/-- What a rule draws stands for a component. -/
theorem body_not_wrapper {canvas : Canvas} {b : Body} {node : Node} (h : (body canvas b).result = .ok node) :
    node.isWrapper = false := by
  cases b with
  | divider | unknown =>
    cases h
    rfl
  | text | image | icon | row | column | list | card | button | slider | dateTimeInput | tabs =>
    obtain ⟨_, -, h⟩ := Logged.exists_ok_of_bind h
    cases h
    rfl
  | textField | checkBox | multipleChoice | modal =>
    obtain ⟨_, -, h⟩ := Logged.exists_ok_of_bind h
    obtain ⟨_, -, h⟩ := Logged.exists_ok_of_bind h
    cases h
    rfl

section
variable {limit limit' remaining remaining' above : Nat} {s : Surface} {ancestry : List (String × String)}
  {id : Option String} {path : String}

/-- A component that is drawn is drawn by its rule. -/
theorem component_not_wrapper {node : Node}
    (h : (component limit s remaining ancestry id path).result = .ok (some node)) : node.isWrapper = false := by
  by_cases hguard : ∀ c, id.bind s.component? = some c → (c.id, path) ∈ ancestry ∨ remaining = 0
  · rw [component_guarded hguard] at h
    cases h
  · simp only [not_forall, not_or] at hguard
    obtain ⟨c, hc, hmem, hr⟩ := hguard
    obtain ⟨remaining, rfl⟩ : ∃ n, remaining = n + 1 := ⟨remaining - 1, by omega⟩
    rw [component_open hc hmem] at h
    obtain ⟨drawn, hdrawn, h⟩ := Logged.exists_ok_of_bind h
    cases h
    exact body_not_wrapper hdrawn

/-! ## Pruned references -/

/-- What a reference draws under a lower limit and under a higher one. -/
def Pruned (limit above : Nat) (node node' : Option Node) : Prop := node = node'.bind (Node.prune limit above)

theorem SameKids.prune {kids kids' : List Node} (h : SameKids (Pruned limit above) kids kids') :
    kids = kids'.filterMap (Node.prune limit above) := by
  obtain ⟨nodes, nodes', hn, rfl, rfl⟩ := h
  induction hn with
  | nil => rfl
  | @cons node node' nodes nodes' hp _ ih =>
    obtain rfl : node = node'.bind (Node.prune limit above) := hp
    unfold drawn at ih ⊢
    rw [List.filterMap_cons, List.filterMap_cons, ih]
    cases node' with
    | none => rfl
    | some node' => rw [List.filterMap_cons]; rfl

theorem SameTab.prune {tab tab' : Node} (h : SameTab (Pruned limit above) tab tab') :
    some tab = tab'.prune limit above := by
  obtain ⟨title, kids, kids', hk, rfl, rfl⟩ := h
  rw [hk.prune, Node.prune_wrapper rfl]

/-- Nodes of the same shape over references that are pruned one level further down are pruned nodes. -/
theorem SameShape.prune {node node' : Node} (h : SameShape (Pruned limit (above + 1)) path path node node')
    (hn : node'.isWrapper = false) (hlt : above < limit) : some node = node'.prune limit above := by
  cases h with
  | leaf attrs text _ => exact (Node.prune_component hn hlt).symm
  | branch attrs _ hk =>
    rw [hk.prune]
    exact (Node.prune_component hn hlt).symm
  | button primary action hk =>
    rw [hk.prune]
    exact (Node.prune_component hn hlt).symm
  | @tabs tabs tabs' ht =>
    have htabs : tabs = tabs'.filterMap (Node.prune limit (above + 1)) := by
      clear hn
      induction ht with
      | nil => rfl
      | cons htab _ ih => rw [List.filterMap_cons, ← htab.prune, ← ih]
    rw [htabs]
    exact (Node.prune_component hn hlt).symm
  | @modal entry entry' content content' he hc =>
    have hhalves : [Node.branch "modal_entry" [] entry', Node.branch "modal_content" [] content'].filterMap
        (Node.prune limit (above + 1)) = [.branch "modal_entry" [] entry, .branch "modal_content" [] content] := by
      simp only [List.filterMap_cons, List.filterMap_nil]
      rw [Node.prune_wrapper rfl, Node.prune_wrapper rfl, ← he.prune, ← hc.prune]
    rw [← hhalves]
    exact (Node.prune_component hn hlt).symm

/-! ## Two limits -/

/-- **Under a lower limit a component is drawn as what is left of it under a higher one.** -/
theorem component_prune (ha : above + remaining = limit) (hr : remaining ≤ remaining') :
    (Comparison.follows LongNumeral).Holds (Pruned limit above) (component limit s remaining ancestry id path)
      (component limit' s remaining' ancestry id path) := by
  induction remaining generalizing remaining' above ancestry id path with
  | zero =>
    intro node' hn
    refine ⟨none, component_guarded fun _ _ => .inr rfl, ?_⟩
    cases node' with
    | none => rfl
    | some node' => exact (Node.prune_of_le (component_not_wrapper hn) (by omega)).symm
  | succ remaining ih =>
    obtain ⟨remaining', rfl⟩ : ∃ n, remaining' = n + 1 := ⟨remaining' - 1, by omega⟩
    by_cases hopen : ∃ c, id.bind s.component? = some c ∧ (c.id, path) ∉ ancestry
    · obtain ⟨c, hc, hmem⟩ := hopen
      rw [component_open hc hmem, component_open hc hmem]
      have hrel : Canvas.Related (.follows LongNumeral) (Pruned limit (above + 1)) c.body
          ⟨s.dataModel, path, component limit s remaining ((c.id, path) :: ancestry)⟩
          ⟨s.dataModel, path, component limit' s remaining' ((c.id, path) :: ancestry)⟩ := by
        have hkid : ∀ kid inner, (Comparison.follows LongNumeral).Holds (Pruned limit (above + 1))
            (component limit s remaining ((c.id, path) :: ancestry) kid inner)
            (component limit' s remaining' ((c.id, path) :: ancestry) kid inner) :=
          fun kid inner => ih (by omega) (by omega)
        exact ⟨fun _ _ => rfl, hkid none path, fun kid _ => hkid (some kid) path, fun _ _ _ => rfl,
          fun kid _ _ _ _ _ _ => hkid (some kid) _⟩
      refine Comparison.bind _ (Comparison.follows_and (body_related hrel) fun _ => body_not_wrapper) ?_
      rintro node node' ⟨hshape, hn⟩
      exact Comparison.pure _ (hshape.prune hn (by omega))
    · have hguard : ∀ c, id.bind s.component? = some c → (c.id, path) ∈ ancestry := fun c hc =>
        Classical.byContradiction fun hmem => hopen ⟨c, hc, hmem⟩
      intro node' hn
      refine ⟨none, component_guarded fun c hc => .inl (hguard c hc), ?_⟩
      rw [component_guarded fun c hc => .inl (hguard c hc)] at hn
      cases hn
      rfl

/-- Where the lower limit is not met, the two drawings are the same, reports included. -/
theorem component_unlimited (hr : remaining ≤ remaining') :
    (Comparison.unlessReported LongNumeral Event.IsDepthExceeded).Holds Eq
      (component limit s remaining ancestry id path) (component limit' s remaining' ancestry id path) := by
  induction remaining generalizing remaining' ancestry id path with
  | zero =>
    cases hc : id.bind s.component? with
    | none =>
      rw [component_missing hc, component_missing hc]
      exact Comparison.pure _ rfl
    | some c =>
      by_cases hmem : (c.id, path) ∈ ancestry
      · rw [component_cyclic hc hmem, component_cyclic hc hmem]
        exact Comparison.unlessReported_refl _ _
      · rw [component_exceeded hc hmem]
        intro hnot
        exact absurd ⟨s.id, c.id, limit, rfl⟩ (hnot _ (List.mem_singleton_self _))
  | succ remaining ih =>
    obtain ⟨remaining', rfl⟩ : ∃ n, remaining' = n + 1 := ⟨remaining' - 1, by omega⟩
    cases hc : id.bind s.component? with
    | none =>
      rw [component_missing hc, component_missing hc]
      exact Comparison.pure _ rfl
    | some c =>
      by_cases hmem : (c.id, path) ∈ ancestry
      · rw [component_cyclic hc hmem, component_cyclic hc hmem]
        exact Comparison.unlessReported_refl _ _
      · rw [component_open hc hmem, component_open hc hmem]
        refine Comparison.bind _ (body_congr _ ?_ ?_) ?_
        · intro inner
          exact ih (by omega)
        · intro kid _ inner
          exact ih (by omega)
        · rintro node _ rfl
          exact Comparison.pure _ rfl

end

end Draw

/-- **The limit only prunes.** Where a surface is drawn under a limit, it is drawn under any lower one as what is left
of the tree when the components inside as many others as the lower limit allows are taken out. If the lower limit is
not reported to be exceeded, the two drawings do not differ at all. -/
theorem Store.draw_prune (settings settings' : Settings) (h : settings.maxRenderDepth ≤ settings'.maxRenderDepth)
    (store : Store) (id : String) :
    (∀ tree, (store.draw settings' id).result = .ok tree →
        (store.draw settings id).result = .ok (tree.bind (Node.prune settings.maxRenderDepth 0))) ∧
      ((∀ surface component limit, .renderDepthExceeded surface component limit ∉ (store.draw settings id).events) →
        store.draw settings id = store.draw settings' id) := by
  rcases store.draw_cases id with ⟨event, -, hdraw⟩ | ⟨s, root, -, -, hdraw⟩
  · rw [hdraw, hdraw]
    refine ⟨fun tree htree => ?_, fun _ => rfl⟩
    cases htree
    rfl
  · rw [hdraw, hdraw]
    constructor
    · intro tree htree
      obtain ⟨pruned, hpruned, heq⟩ := Draw.component_prune (Nat.zero_add _) h tree htree
      rw [hpruned, heq]
    · intro hnot
      refine Comparison.eq_of_unlessReported (Draw.component_unlimited h) ?_
      rintro e he ⟨surface, component, limit, rfl⟩
      exact hnot surface component limit he

/-! ## A surface that reaches every limit -/

/-- A column with tabs and a modal around a list that holds its own entries by a template, and back to the column. -/
def Surface.nested : Surface where
  id := "main"
  catalog := "plain"
  components :=
    [("root", ⟨"root", .column (some (some (.explicit ["tabs", "modal"]))) none none, []⟩),
     ("tabs", ⟨"tabs", .tabs (some [⟨none, some (some "item")⟩, ⟨none, some (some "root")⟩]), []⟩),
     ("modal", ⟨"modal", .modal (some (some "text")) (some (some "item")), []⟩),
     ("item", ⟨"item", .row (some (some (.template "item" "./kids"))) none none, []⟩),
     ("text", ⟨"text", .text (some (.plain (.bool true))) none, []⟩)]
  dataModel := .ofFields [("kids", .arr [.null, .ofFields [("kids", .arr [.null])]])]

/-- Five levels are enough and nothing changes under twelve, although a circle is met. Under two levels the tabs and
the halves of the modal stay and are empty. -/
theorem Store.draw_prune_nested :
    let store : Store := ⟨[("main", .nested)]⟩
    (∃ tree, (store.draw { maxRenderDepth := 5 } "main").result = .ok (some tree) ∧
        (store.draw { maxRenderDepth := 2 } "main").result = .ok (tree.prune 2 0)) ∧
      (store.draw { maxRenderDepth := 2 } "main").events =
        [.renderDepthExceeded "main" "item" 2, .renderCycle "main" "root" "", .renderDepthExceeded "main" "text" 2,
          .renderDepthExceeded "main" "item" 2] ∧
      store.draw { maxRenderDepth := 5 } "main" = store.draw { maxRenderDepth := 12 } "main" := by
  intro store
  have hevents : (store.draw { maxRenderDepth := 5 } "main").events = [.renderCycle "main" "root" ""] := rfl
  have htwo := draw_prune { maxRenderDepth := 2 } { maxRenderDepth := 5 } (by decide) store "main"
  have hfive := draw_prune { maxRenderDepth := 5 } { maxRenderDepth := 12 } (by decide) store "main"
  refine ⟨⟨_, rfl, htwo.1 _ rfl⟩, rfl, hfive.2 ?_⟩
  intro surface component limit
  rw [hevents]
  simp

end LiveSurface
