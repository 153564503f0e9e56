import LiveSurface.Proofs.Log.Comparison
import LiveSurface.Render.Draw
/-!
# What the drawing rules ask for

A rule asks its canvas for three things: the values of its bindable properties, the components it names, and
the entries of the container of its template. Two canvases that answer these alike draw nodes of the same
shape, whatever "alike" means for the components. Everything that compares two drawings goes through
`Draw.body_related`.

Results:
* `Draw.body_related`: related canvases draw nodes of the same shape.
* `Draw.component_of_some`: the guards in their order, and the rule behind them.
* `Draw.component_guarded`, `Draw.component_open`: what a guard makes of a component, and what its rule does.
* `Store.draw_cases`: what a surface is drawn from.
-/
namespace LiveSurface

/-! ## What a body names -/

/-- The path that a property is bound to, unless a literal hides it. -/
def Binding.path? (b : Binding) : Option String := if b.literal?.isSome then none else b.path.join

/-- The path that a property is bound to. -/
def Bindable.path? : Option Bindable → Option String
  | some (.bound b) => b.path?
  | _ => none

/-- A property shows what its path reads, or something that no data model and no context changes. -/
theorem Bindable.resolve_congr {data data' : Json} {context context' : String} {v : Option Bindable}
    (h : ∀ path, path? v = some path →
      data.getAt (Path.resolve path context) = data'.getAt (Path.resolve path context')) :
    resolve v data context = resolve v data' context' := by
  rcases v with - | w | b
  · rfl
  · rfl
  · simp only [path?, Binding.path?] at h
    simp only [resolve, Binding.resolve]
    cases hl : b.literal? with
    | some w => rfl
    | none =>
      cases hp : b.path.join with
      | none => rfl
      | some path => exact h path (by simp [hl, hp])

namespace Body

/-- The children of a layout. -/
def layout? : Body → Option Children
  | .row kids _ _ | .column kids _ _ | .list kids _ _ _ => kids.join
  | _ => none

/-- The component and the path of a template. -/
def template? (b : Body) : Option (String × String) :=
  match b.layout? with
  | some (.template id dataBinding) => some (id, dataBinding)
  | _ => none

/-- The components that stand inside a body once, in the same context. -/
def direct : Body → List String
  | .row kids _ _ | .column kids _ _ | .list kids _ _ _ =>
    match kids.join with
    | some (.explicit ids) => ids
    | _ => []
  | .card kid => kid.join.toList
  | .button kid _ _ => kid.join.toList
  | .tabs items => (items.getD []).flatMap fun t => t.child.join.toList
  | .modal entry content => entry.join.toList ++ content.join.toList
  | _ => []

/-- The components that a body names. -/
def references (b : Body) : List String := b.direct ++ (b.template?.map Prod.fst).toList

/-- The properties of a body that show values. -/
def bindables : Body → List (Option Bindable)
  | .text value _ => [value]
  | .image url _ _ => [url]
  | .icon name => [name]
  | .textField label value _ => [label, value]
  | .slider value _ _ => [value]
  | .checkBox label value => [label, value]
  | .multipleChoice selections options _ => selections :: (options.getD []).map (·.label)
  | .dateTimeInput value _ _ => [value]
  | .tabs items => (items.getD []).map (·.title)
  | _ => []

/-- The paths that drawing a body looks up. -/
def paths (b : Body) : List String :=
  b.bindables.filterMap Bindable.path? ++ (b.template?.map Prod.snd).toList

end Body

namespace Draw

/-! ## Nodes of the same shape -/

variable (O : Option Node → Option Node → Prop)

/-- Lists of nodes that come from related references. -/
def SameKids (kids kids' : List Node) : Prop :=
  ∃ nodes nodes', List.Forall₂ O nodes nodes' ∧ kids = drawn nodes ∧ kids' = drawn nodes'

/-- Tabs with one title over related children. -/
def SameTab (tab tab' : Node) : Prop :=
  ∃ title kids kids', SameKids O kids kids' ∧ tab = .branch "tab" [title] kids ∧
    tab' = .branch "tab" [title] kids'

/-- Nodes that one rule draws on canvases whose references are related. They differ in what comes from the
references, and a button tells its context. -/
inductive SameShape (path path' : String) : Node → Node → Prop
  | leaf {tag : String} (attrs : List (String × Json)) (text : Option String) (h : tag ≠ "button") :
    SameShape path path' (.mk tag attrs text []) (.mk tag attrs text [])
  | branch {tag : String} (attrs : List (String × Json)) {kids kids' : List Node} (h : tag ≠ "button")
    (hk : SameKids O kids kids') : SameShape path path' (.branch tag attrs kids) (.branch tag attrs kids')
  | button (primary : Bool) (action : Json) {kids kids' : List Node} (hk : SameKids O kids kids') :
    SameShape path path'
      (.branch "button" [("primary", .bool primary), ("action", action), ("context_path", .str path)] kids)
      (.branch "button" [("primary", .bool primary), ("action", action), ("context_path", .str path')] kids')
  | tabs {tabs tabs' : List Node} (h : List.Forall₂ (SameTab O) tabs tabs') :
    SameShape path path' (.branch "tabs" [] tabs) (.branch "tabs" [] tabs')
  | modal {entry entry' content content' : List Node} (he : SameKids O entry entry')
    (hc : SameKids O content content') :
    SameShape path path'
      (.branch "modal" [] [.branch "modal_entry" [] entry, .branch "modal_content" [] content])
      (.branch "modal" [] [.branch "modal_entry" [] entry', .branch "modal_content" [] content'])

variable {O}

theorem sameKids_nil : SameKids O [] [] := ⟨[], [], .nil, rfl, rfl⟩

theorem drawn_singleton (node : Option Node) : drawn [node] = node.toList := by cases node <;> rfl

theorem sameKids_toList {node node' : Option Node} (h : O node node') : SameKids O node.toList node'.toList :=
  ⟨[node], [node'], .cons h .nil, (drawn_singleton node).symm, (drawn_singleton node').symm⟩

theorem sameKids_drawn {nodes nodes' : List (Option Node)} (h : List.Forall₂ O nodes nodes') :
    SameKids O (drawn nodes) (drawn nodes') := ⟨nodes, nodes', h, rfl, rfl⟩

end Draw

/-! ## Related canvases -/

/-- Canvases that answer alike what a body asks. -/
structure Canvas.Related (C : Comparison LongNumeral) (O : Option Node → Option Node → Prop) (b : Body)
    (canvas canvas' : Canvas) : Prop where
  value : ∀ v ∈ b.bindables,
    Bindable.resolve v canvas.data canvas.contextPath = Bindable.resolve v canvas'.data canvas'.contextPath
  nothing : C.Holds O (canvas.reference none canvas.contextPath) (canvas'.reference none canvas'.contextPath)
  direct : ∀ id ∈ b.direct,
    C.Holds O (canvas.reference (some id) canvas.contextPath) (canvas'.reference (some id) canvas'.contextPath)
  container : ∀ id path, b.template? = some (id, path) →
    canvas.data.getAt (Path.resolve path canvas.contextPath) =
      canvas'.data.getAt (Path.resolve path canvas'.contextPath)
  entry : ∀ id path container, b.template? = some (id, path) →
    canvas.data.getAt (Path.resolve path canvas.contextPath) = .ok container →
    ∀ name ∈ container.entryNames,
      C.Holds O (canvas.reference (some id) (Path.join (Path.resolve path canvas.contextPath) name))
        (canvas'.reference (some id) (Path.join (Path.resolve path canvas'.contextPath) name))

namespace Draw

section
variable {C : Comparison LongNumeral} {O : Option Node → Option Node → Prop} {canvas canvas' : Canvas}

theorem text_related {v : Option Bindable}
    (h : Bindable.resolve v canvas.data canvas.contextPath = Bindable.resolve v canvas'.data canvas'.contextPath) :
    C.Holds Eq (canvas.text v) (canvas'.text v) := by
  unfold Canvas.text Bindable.text
  rw [h]
  exact C.same _

theorem textAttr_related {name : String} {v : Option Bindable}
    (h : Bindable.resolve v canvas.data canvas.contextPath = Bindable.resolve v canvas'.data canvas'.contextPath) :
    C.Holds Eq (canvas.textAttr name v) (canvas'.textAttr name v) := by
  refine C.bind (text_related h) ?_
  intro shown _ heq
  subst heq
  exact C.pure rfl

theorem child_related {id : Option String}
    (hnone : C.Holds O (canvas.reference none canvas.contextPath) (canvas'.reference none canvas'.contextPath))
    (h : ∀ a ∈ id.toList, C.Holds O (canvas.reference (some a) canvas.contextPath)
      (canvas'.reference (some a) canvas'.contextPath)) :
    C.Holds (SameKids O) (canvas.child id) (canvas'.child id) := by
  have hid : C.Holds O (canvas.reference id canvas.contextPath) (canvas'.reference id canvas'.contextPath) := by
    cases id with
    | none => exact hnone
    | some a => exact h a (by simp)
  refine C.bind hid ?_
  intro node node' hn
  exact C.pure (sameKids_toList hn)

theorem children_related {b : Body} (h : canvas.Related C O b canvas')
    (hids : ∀ ids, b.layout? = some (.explicit ids) → b.direct = ids) :
    C.Holds (SameKids O) (children canvas b.layout?) (children canvas' b.layout?) := by
  rcases hk : b.layout? with - | ids | ⟨id, path⟩
  · exact C.pure sameKids_nil
  · have hdirect := h.direct
    rw [hids ids hk] at hdirect
    refine C.bind (C.mapM (List.forall₂_same.mpr hdirect)) ?_
    intro nodes nodes' hn
    exact C.pure (sameKids_drawn hn)
  · have ht : b.template? = some (id, path) := by rw [Body.template?, hk]
    simp only [children, template, ← h.container id path ht]
    refine C.bind (C.ofExcept _) ?_
    intro container _ hget
    obtain ⟨rfl, hget⟩ := hget
    refine C.bind (C.mapM (List.forall₂_same.mpr (h.entry id path container ht hget))) ?_
    intro nodes nodes' hn
    exact C.pure (sameKids_drawn hn)

theorem layout_related {b : Body} (h : canvas.Related C O b canvas')
    (hids : ∀ ids, b.layout? = some (.explicit ids) → b.direct = ids) {tag : String} (htag : tag ≠ "button")
    (direction : String) {kids : Option (Option Children)} (hk : kids.join = b.layout?)
    (distribution alignment : Option (Option String)) :
    C.Holds (SameShape O canvas.contextPath canvas'.contextPath)
      (layout canvas tag direction kids distribution alignment)
      (layout canvas' tag direction kids distribution alignment) := by
  unfold layout
  rw [hk]
  refine C.bind (children_related h hids) ?_
  intro kids kids' hkids
  exact C.pure (.branch _ htag hkids)

theorem choice_related {c : Choice} (h : Bindable.resolve c.label canvas.data canvas.contextPath =
      Bindable.resolve c.label canvas'.data canvas'.contextPath) :
    C.Holds Eq (choice canvas c) (choice canvas' c) := by
  refine C.bind (text_related h) ?_
  intro label _ heq
  subst heq
  exact C.pure rfl

theorem tab_related {t : TabItem}
    (hnone : C.Holds O (canvas.reference none canvas.contextPath) (canvas'.reference none canvas'.contextPath))
    (hkid : ∀ a ∈ t.child.join.toList, C.Holds O (canvas.reference (some a) canvas.contextPath)
      (canvas'.reference (some a) canvas'.contextPath))
    (htitle : Bindable.resolve t.title canvas.data canvas.contextPath =
      Bindable.resolve t.title canvas'.data canvas'.contextPath) :
    C.Holds (SameTab O) (tab canvas t) (tab canvas' t) := by
  refine C.bind (textAttr_related htitle) ?_
  intro title _ heq
  subst heq
  refine C.bind (child_related hnone hkid) ?_
  intro kids kids' hkids
  exact C.pure ⟨title, kids, kids', hkids, rfl, rfl⟩

/-- **Related canvases draw nodes of the same shape.** -/
theorem body_related {b : Body} (h : canvas.Related C O b canvas') :
    C.Holds (SameShape O canvas.contextPath canvas'.contextPath) (body canvas b) (body canvas' b) := by
  cases b with
  | text value hint =>
    refine C.bind (text_related (h.value value (by simp [Body.bindables]))) ?_
    intro shown _ heq
    subst heq
    exact C.pure (.leaf _ _ (by decide))
  | image url fit hint =>
    refine C.bind (textAttr_related (h.value url (by simp [Body.bindables]))) ?_
    intro shown _ heq
    subst heq
    exact C.pure (.leaf _ _ (by decide))
  | icon name =>
    refine C.bind (text_related (h.value name (by simp [Body.bindables]))) ?_
    intro shown _ heq
    subst heq
    exact C.pure (.leaf _ _ (by decide))
  | row kids distribution alignment =>
    refine layout_related h (fun ids hk => ?_) (by decide) _ rfl _ _
    simp only [Body.layout?] at hk
    simp only [Body.direct, hk]
  | column kids distribution alignment =>
    refine layout_related h (fun ids hk => ?_) (by decide) _ rfl _ _
    simp only [Body.layout?] at hk
    simp only [Body.direct, hk]
  | list kids direction distribution alignment =>
    refine layout_related h (fun ids hk => ?_) (by decide) _ rfl _ _
    simp only [Body.layout?] at hk
    simp only [Body.direct, hk]
  | card kid =>
    refine C.bind (child_related h.nothing h.direct) ?_
    intro kids kids' hkids
    exact C.pure (.branch _ (by decide) hkids)
  | button kid primary action =>
    refine C.bind (child_related h.nothing h.direct) ?_
    intro kids kids' hkids
    exact C.pure (.button _ _ hkids)
  | textField label value type =>
    refine C.bind (textAttr_related (h.value label (by simp [Body.bindables]))) ?_
    intro title _ heq
    subst heq
    refine C.bind (textAttr_related (h.value value (by simp [Body.bindables]))) ?_
    intro shown _ heq
    subst heq
    exact C.pure (.leaf _ _ (by decide))
  | divider axis => exact C.pure (.leaf _ _ (by decide))
  | slider value low high =>
    simp only [body, Bindable.number?, h.value value (by simp [Body.bindables])]
    refine C.bind (C.same _) ?_
    intro shown _ heq
    subst heq
    exact C.pure (.leaf _ _ (by decide))
  | checkBox label value =>
    refine C.bind (textAttr_related (h.value label (by simp [Body.bindables]))) ?_
    intro title _ heq
    subst heq
    simp only [Bindable.flag, h.value value (by simp [Body.bindables])]
    refine C.bind (C.same _) ?_
    intro checked _ heq
    subst heq
    exact C.pure (.leaf _ _ (by decide))
  | multipleChoice selections options most =>
    simp only [body, Canvas.value, h.value selections (by simp [Body.bindables])]
    refine C.bind (C.same _) ?_
    intro selected _ heq
    subst heq
    have hchoice : ∀ c ∈ options.getD [], C.Holds Eq (choice canvas c) (choice canvas' c) := fun c hc =>
      choice_related (h.value c.label (List.mem_cons_of_mem _ (List.mem_map_of_mem hc)))
    refine C.bind (C.mapM (List.forall₂_same.mpr hchoice)) ?_
    intro choices choices' hc
    rw [List.forall₂_eq_eq_eq] at hc
    subst hc
    exact C.pure (.leaf _ _ (by decide))
  | dateTimeInput value date time =>
    refine C.bind (textAttr_related (h.value value (by simp [Body.bindables]))) ?_
    intro shown _ heq
    subst heq
    exact C.pure (.leaf _ _ (by decide))
  | tabs items =>
    have htab : ∀ t ∈ items.getD [], C.Holds (SameTab O) (tab canvas t) (tab canvas' t) := fun t ht =>
      tab_related h.nothing (fun a ha => h.direct a (List.mem_flatMap.mpr ⟨t, ht, ha⟩))
        (h.value t.title (List.mem_map_of_mem ht))
    refine C.bind (C.mapM (List.forall₂_same.mpr htab)) ?_
    intro tabs tabs' ht
    exact C.pure (.tabs ht)
  | modal entry content =>
    refine C.bind (child_related h.nothing fun a ha => h.direct a (List.mem_append_left _ ha)) ?_
    intro kids kids' hentry
    refine C.bind (child_related h.nothing fun a ha => h.direct a (List.mem_append_right _ ha)) ?_
    intro more more' hcontent
    exact C.pure (.modal hentry hcontent)
  | unknown type => exact C.pure (.leaf _ _ (by decide))

end

/-! ## One component -/

section
variable {limit remaining : Nat} {s : Surface} {ancestry : List (String × String)} {id : Option String}
  {path : String}

theorem component_missing (h : id.bind s.component? = none) :
    component limit s remaining ancestry id path = pure none := by
  rw [component.eq_def, h]

/-- A component that exists passes the guards, first the one against circles, and is then drawn by its rule, one level
further down. -/
theorem component_of_some {c : Component} (hc : id.bind s.component? = some c) :
    component limit s remaining ancestry id path =
      if (c.id, path) ∈ ancestry then (do
        Logged.emit (.renderCycle s.id c.id path)
        pure none)
      else if remaining = 0 then (do
        Logged.emit (.renderDepthExceeded s.id c.id limit)
        pure none)
      else (do
        let node ← body ⟨s.dataModel, path, component limit s (remaining - 1) ((c.id, path) :: ancestry)⟩ c.body
        pure (some node)) := by
  rw [component.eq_def]
  cases remaining with
  | zero => simp only [hc, if_true]
  | succ remaining => simp only [hc, Nat.add_one_ne_zero, if_false, Nat.add_sub_cancel]

/-- The guard against circles is asked first, so that it reports the same at any level. -/
theorem component_cyclic {c : Component} (hc : id.bind s.component? = some c) (hmem : (c.id, path) ∈ ancestry) :
    component limit s remaining ancestry id path = (do
      Logged.emit (.renderCycle s.id c.id path)
      pure none) := by
  rw [component_of_some hc, if_pos hmem]

theorem component_exceeded {c : Component} (hc : id.bind s.component? = some c) (hmem : (c.id, path) ∉ ancestry) :
    component limit s 0 ancestry id path = (do
      Logged.emit (.renderDepthExceeded s.id c.id limit)
      pure none) := by
  rw [component_of_some hc, if_neg hmem, if_pos rfl]

/-- A component that comes up again under the same path, or at the limit, draws nothing. -/
theorem component_guarded (h : ∀ c, id.bind s.component? = some c → (c.id, path) ∈ ancestry ∨ remaining = 0) :
    (component limit s remaining ancestry id path).result = .ok none := by
  cases hc : id.bind s.component? with
  | none => rw [component_missing hc]; rfl
  | some c =>
    by_cases hmem : (c.id, path) ∈ ancestry
    · rw [component_cyclic hc hmem]; rfl
    · obtain rfl : remaining = 0 := (h c hc).resolve_left hmem
      rw [component_exceeded hc hmem]; rfl

/-- Any other is drawn by its rule, one level further down. -/
theorem component_open {c : Component} (hc : id.bind s.component? = some c) (hmem : (c.id, path) ∉ ancestry) :
    component limit s (remaining + 1) ancestry id path = (do
      let node ← body ⟨s.dataModel, path, component limit s remaining ((c.id, path) :: ancestry)⟩ c.body
      pure (some node)) := by
  rw [component_of_some hc, if_neg hmem, if_neg (Nat.succ_ne_zero remaining), Nat.add_sub_cancel]

end

end Draw

/-! ## Whole surfaces -/

theorem Store.draw_of_root {store : Store} {id : String} {s : Surface} {root : Component}
    (hs : store.surface? id = some s) (hroot : s.root? = some root) (settings : Settings) :
    store.draw settings id =
      Draw.component settings.maxRenderDepth s settings.maxRenderDepth [] (some root.id) "" := by
  simp only [draw, hs, hroot, Surface.drawPart, Int.sub_zero, Int.toNat_natCast]

/-- Under any settings, a surface is not drawn for one and the same reason, or drawn from its root. -/
theorem Store.draw_cases (store : Store) (id : String) :
    (∃ event, (event = .renderUnknownSurface id ∨ event = .renderNoRoot id) ∧
        ∀ settings, store.draw settings id = (do
          Logged.emit event
          pure none)) ∨
      ∃ s root, store.surface? id = some s ∧ s.root? = some root ∧ ∀ settings, store.draw settings id =
        Draw.component settings.maxRenderDepth s settings.maxRenderDepth [] (some root.id) "" := by
  cases hs : store.surface? id with
  | none =>
    refine .inl ⟨_, .inl rfl, fun settings => ?_⟩
    simp only [draw, hs]
  | some s =>
    cases hroot : s.root? with
    | none =>
      refine .inl ⟨_, .inr rfl, fun settings => ?_⟩
      simp only [draw, hs, hroot]
    | some root => exact .inr ⟨s, root, rfl, hroot, draw_of_root hs hroot⟩

end LiveSurface
