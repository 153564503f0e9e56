import LiveSurface.Proofs.Render.Limit
/-!
# The schema of drawn trees

Hosts show drawn trees and rely on their form. `Node.shape?` has the form for each tag: which attributes a node has and
what they hold, whether it has a text, and what may stand inside it. Tabs stand only in a row of tabs, and the two
halves of a modal only in a modal. Everything that is drawn conforms, whatever the components refer to and the data
model holds: values of any kind are turned into what an attribute takes, and references that cannot be followed draw
nothing.

A component draws at most two levels of nodes around what stands inside it, so a tree has at most two levels for each
level of components.

Results:
* `Draw.body_within`: what a rule draws conforms if the references do, and adds two levels at most.
* `Draw.component_within`: so it is with components, level by level.
* `Store.draw_conforms`: a drawn tree conforms, and how many levels it has at most.
-/
namespace LiveSurface

/-! ## Shapes -/

/-- What an attribute holds. -/
inductive Content
  | text
  | word (v : Vocabulary)
  | exactly (w : String)
  | flag
  | number
  /-- An integer, or null if there is none. -/
  | count
  | items
  | any

/-- The values that an attribute may hold. -/
def Content.Admits : Content → Json → Prop
  | .text, v => ∃ s, v = .str s
  | .word vocabulary, v => ∃ w ∈ vocabulary.words, v = .str w
  | .exactly w, v => v = .str w
  | .flag, v => ∃ b, v = .bool b
  | .number, v => ∃ n, v = .num n
  | .count, v => v = .null ∨ ∃ n, v = .num (.int n)
  | .items, v => ∃ items, v = .arr items
  | .any, _ => True

/-- What stands inside a node. -/
inductive Inside
  | nothing
  /-- One component at most. -/
  | single
  | components
  | tabs
  /-- The entry of a modal, and then its content. -/
  | halves

/-- The nodes that may stand inside a node. -/
def Inside.Allows : Inside → List Node → Prop
  | .nothing, kids => kids = []
  | .single, kids => kids.length ≤ 1 ∧ ∀ n ∈ kids, n.isWrapper = false
  | .components, kids => ∀ n ∈ kids, n.isWrapper = false
  | .tabs, kids => ∀ n ∈ kids, n.tag = "tab"
  | .halves, kids => kids.map Node.tag = ["modal_entry", "modal_content"]

/-- The form of the nodes with a tag: their attributes in order, whether they have a text, and what stands inside. -/
structure Shape where
  attrs : List (String × Content)
  hasText : Bool
  inside : Inside
  /-- The values that the last attributes may have together; any values if none are listed. -/
  endings : List (List (String × Json))

/-- A node has the form. -/
structure Shape.Fits (shape : Shape) (n : Node) : Prop where
  attrs : List.Forall₂ (fun attr rule => attr.1 = rule.1 ∧ rule.2.Admits attr.2) n.attrs shape.attrs
  text : n.text.isSome = shape.hasText
  inside : shape.inside.Allows n.children
  ending : shape.endings = [] ∨ ∃ ending ∈ shape.endings, ending <:+ n.attrs

namespace Node

/-- What a text field of a type says besides: whether it has many lines, whether it hides what is typed, and the kind of
input. -/
def fieldEnding (type : String) (multiline masked : Bool) (kind : String) : List (String × Json) :=
  [("field_type", .str type), ("multiline", .bool multiline), ("masked", .bool masked), ("input_kind", .str kind)]

def fieldEndings : List (List (String × Json)) :=
  [fieldEnding "date" false false "date", fieldEnding "longText" true false "text",
    fieldEnding "number" false false "number", fieldEnding "shortText" false false "text",
    fieldEnding "obscured" false true "text"]

/-- The form of the nodes with a tag. -/
def shape? : String → Option Shape
  | "text" => some ⟨[("role", .word Catalog.textUsageHints)], true, .nothing, []⟩
  | "image" =>
    some ⟨[("url", .text), ("fit", .word Catalog.imageFits), ("size", .word Catalog.imageUsageHints)], false,
      .nothing, []⟩
  | "icon" => some ⟨[("name", .text)], false, .nothing, []⟩
  | "row" =>
    some ⟨[("direction", .exactly "horizontal"), ("distribution", .word Catalog.distributions),
      ("alignment", .word Catalog.alignments)], false, .components, []⟩
  | "column" =>
    some ⟨[("direction", .exactly "vertical"), ("distribution", .word Catalog.distributions),
      ("alignment", .word Catalog.alignments)], false, .components, []⟩
  | "list" =>
    some ⟨[("direction", .word Catalog.directions), ("distribution", .word Catalog.distributions),
      ("alignment", .word Catalog.alignments)], false, .components, []⟩
  | "card" => some ⟨[], false, .single, []⟩
  | "button" => some ⟨[("primary", .flag), ("action", .any), ("context_path", .text)], false, .single, []⟩
  | "text_field" =>
    some ⟨[("label", .text), ("text", .text), ("field_type", .word Catalog.textFieldTypes), ("multiline", .flag),
      ("masked", .flag), ("input_kind", .text)], false, .nothing, fieldEndings⟩
  | "divider" => some ⟨[("axis", .word Catalog.axes)], false, .nothing, []⟩
  | "slider" => some ⟨[("min", .number), ("max", .number), ("value", .number)], false, .nothing, []⟩
  | "checkbox" => some ⟨[("label", .text), ("checked", .flag)], false, .nothing, []⟩
  | "multiple_choice" =>
    some ⟨[("selections", .items), ("options", .items), ("max_allowed", .count)], false, .nothing, []⟩
  | "datetime_input" => some ⟨[("value", .text), ("enable_date", .flag), ("enable_time", .flag)], false, .nothing, []⟩
  | "tabs" => some ⟨[], false, .tabs, []⟩
  | "tab" => some ⟨[("title", .text)], false, .single, []⟩
  | "modal" => some ⟨[], false, .halves, []⟩
  | "modal_entry" => some ⟨[], false, .single, []⟩
  | "modal_content" => some ⟨[], false, .single, []⟩
  | "unknown" => some ⟨[("type", .text)], true, .nothing, []⟩
  | _ => none

/-- The node has a known tag, and the form that belongs to it. -/
def Conforms (n : Node) : Prop := ∃ shape, shape? n.tag = some shape ∧ shape.Fits n

mutual

/-- All nodes of a tree. -/
def nodes : Node → List Node
  | mk tag attrs text children => mk tag attrs text children :: nodesAll children

/-- All nodes of trees. -/
def nodesAll : List Node → List Node
  | [] => []
  | n :: rest => nodes n ++ nodesAll rest

end

mutual

/-- How many nodes of a tree stand one inside the other. -/
def levels : Node → Nat
  | mk _ _ _ children => levelsAll children + 1

/-- The most levels of any of the trees. -/
def levelsAll : List Node → Nat
  | [] => 0
  | n :: rest => max (levels n) (levelsAll rest)

end

theorem mem_nodesAll {m : Node} {kids : List Node} : m ∈ nodesAll kids ↔ ∃ n ∈ kids, m ∈ n.nodes := by
  induction kids with
  | nil => simp [nodesAll]
  | cons n rest ih => simp [nodesAll, ih]

theorem levelsAll_le {bound : Nat} {kids : List Node} (h : ∀ n ∈ kids, n.levels ≤ bound) : levelsAll kids ≤ bound := by
  induction kids with
  | nil => exact Nat.zero_le _
  | cons n rest ih =>
    obtain ⟨hn, hrest⟩ := List.forall_mem_cons.mp h
    exact Nat.max_le.mpr ⟨hn, ih hrest⟩

/-! ## Trees -/

/-- All nodes of a tree conform, and it has so many levels at most. -/
structure Within (bound : Nat) (n : Node) : Prop where
  conforms : ∀ m ∈ n.nodes, m.Conforms
  levels : n.levels ≤ bound

variable {bound bound' : Nat} {n : Node}

/-- A node that conforms adds a level to what stands inside it. -/
theorem Conforms.within (h : n.Conforms) (hk : ∀ k ∈ n.children, k.Within bound) (hlt : bound < bound') :
    n.Within bound' := by
  obtain ⟨tag, attrs, text, kids⟩ := n
  constructor
  · rw [nodes]
    refine List.forall_mem_cons.mpr ⟨h, fun m hm => ?_⟩
    obtain ⟨k, hmem, hm⟩ := mem_nodesAll.mp hm
    exact (hk k hmem).conforms m hm
  · have hkids : levelsAll kids ≤ bound := levelsAll_le fun k hmem => (hk k hmem).levels
    rw [levels]
    omega

theorem Conforms.within_leaf (h : n.Conforms) (hk : n.children = []) (hpos : 0 < bound) : n.Within bound :=
  h.within (fun k hmem => by rw [hk] at hmem; cases hmem) hpos

end Node

/-! ## References -/

/-- What the references draw are components, in trees of so many levels at most. -/
def Canvas.Draws (canvas : Canvas) (bound : Nat) : Prop :=
  ∀ id path n, (canvas.reference id path).result = .ok (some n) → n.isWrapper = false ∧ n.Within bound

namespace Draw

section
variable {canvas : Canvas} {bound : Nat} {node : Node} {kids : List Node}

theorem mem_drawn {nodes : List (Option Node)} {n : Node} : n ∈ drawn nodes ↔ some n ∈ nodes := by simp [drawn]

theorem child_allowed (hc : canvas.Draws bound) {id : Option String} (h : (canvas.child id).result = .ok kids) :
    Inside.single.Allows kids ∧ ∀ n ∈ kids, n.Within bound := by
  obtain ⟨node, hnode, h⟩ := Logged.exists_ok_of_bind h
  cases h
  cases node with
  | none => exact ⟨⟨Nat.zero_le 1, fun _ hn => nomatch hn⟩, fun _ hn => nomatch hn⟩
  | some n =>
    obtain ⟨hwrapper, hwithin⟩ := hc id _ n hnode
    exact ⟨⟨Nat.le_refl 1, by simpa using hwrapper⟩, by simpa using hwithin⟩

theorem children_allowed (hc : canvas.Draws bound) {inside : Option Children}
    (h : (children canvas inside).result = .ok kids) :
    Inside.components.Allows kids ∧ ∀ n ∈ kids, n.Within bound := by
  have hkids : ∀ n ∈ kids, n.isWrapper = false ∧ n.Within bound := by
    cases inside with
    | none =>
      cases h
      exact fun _ hn => nomatch hn
    | some inside =>
      cases inside with
      | explicit ids =>
        obtain ⟨nodes, hnodes, h⟩ := Logged.exists_ok_of_bind h
        cases h
        intro n hn
        obtain ⟨id, -, hid⟩ := Logged.exists_of_mem_mapM hnodes _ (mem_drawn.mp hn)
        exact hc _ _ n hid
      | template id dataBinding =>
        obtain ⟨container, -, h⟩ := Logged.exists_ok_of_bind h
        obtain ⟨nodes, hnodes, h⟩ := Logged.exists_ok_of_bind h
        cases h
        intro n hn
        obtain ⟨name, -, hname⟩ := Logged.exists_of_mem_mapM hnodes _ (mem_drawn.mp hn)
        exact hc _ _ n hname
  exact ⟨fun n hn => (hkids n hn).1, fun n hn => (hkids n hn).2⟩

theorem exists_text_of_textAttr {name : String} {value : Option Bindable} {attr : String × Json}
    (h : (canvas.textAttr name value).result = .ok attr) : ∃ s, attr = (name, .str s) := by
  obtain ⟨shown, -, h⟩ := Logged.exists_ok_of_bind h
  cases h
  exact ⟨shown, rfl⟩

theorem tab_allowed (hc : canvas.Draws bound) {t : TabItem} (h : (tab canvas t).result = .ok node) :
    node.tag = "tab" ∧ node.Within (bound + 1) := by
  obtain ⟨title, htitle, h⟩ := Logged.exists_ok_of_bind h
  obtain ⟨kids, hkids, h⟩ := Logged.exists_ok_of_bind h
  obtain ⟨shown, rfl⟩ := exists_text_of_textAttr htitle
  cases h
  obtain ⟨hallowed, hwithin⟩ := child_allowed hc hkids
  refine ⟨rfl, Node.Conforms.within ⟨_, rfl, ?_, rfl, hallowed, .inl rfl⟩ hwithin (Nat.lt_succ_self _)⟩
  exact .cons ⟨rfl, _, rfl⟩ .nil

/-! ## Rules -/

theorem wordAttr_admits {v : Vocabulary} (hv : v.default ∈ v.words) (name : String) (word : Option (Option String)) :
    (wordAttr name v word).1 = name ∧ (Content.word v).Admits (wordAttr name v word).2 :=
  ⟨rfl, _, Vocabulary.pick_mem hv word.join, rfl⟩

/-- What a text field says besides its type follows from the type. -/
theorem fieldEnding_mem (type : Option String) :
    let type := Catalog.textFieldTypes.pick type
    Node.fieldEnding type (type = "longText") (type = "obscured") (inputKind type) ∈ Node.fieldEndings := by
  intro type
  have htype : type ∈ Catalog.textFieldTypes.words := Vocabulary.pick_mem (by decide) _
  simp only [Catalog.textFieldTypes, List.mem_cons, List.not_mem_nil, or_false] at htype
  rcases htype with h | h | h | h | h <;> simp [h, Node.fieldEndings, inputKind]

theorem layout_within (hc : canvas.Draws bound) {tag direction : String} {kids : Option (Option Children)}
    {distribution alignment : Option (Option String)} (content : Content)
    (hshape : Node.shape? tag = some ⟨[("direction", content), ("distribution", .word Catalog.distributions),
      ("alignment", .word Catalog.alignments)], false, .components, []⟩)
    (hdirection : content.Admits (.str direction))
    (h : (layout canvas tag direction kids distribution alignment).result = .ok node) : node.Within (bound + 2) := by
  obtain ⟨nodes, hnodes, h⟩ := Logged.exists_ok_of_bind h
  cases h
  obtain ⟨hallowed, hwithin⟩ := children_allowed hc hnodes
  have hconforms : (Node.branch tag [("direction", .str direction),
      wordAttr "distribution" Catalog.distributions distribution, wordAttr "alignment" Catalog.alignments alignment]
      nodes).Conforms := by
    refine ⟨_, hshape, ?_, rfl, hallowed, .inl rfl⟩
    exact .cons ⟨rfl, hdirection⟩ <| .cons (wordAttr_admits (by decide) _ _) <|
      .cons (wordAttr_admits (by decide) _ _) .nil
  exact hconforms.within hwithin (by omega)

/-- **What a rule draws conforms**, and has two levels more at most than what the references draw. -/
theorem body_within (hc : canvas.Draws bound) {b : Body} (h : (body canvas b).result = .ok node) :
    node.Within (bound + 2) := by
  cases b with
  | text value hint =>
    obtain ⟨shown, -, h⟩ := Logged.exists_ok_of_bind h
    cases h
    refine Node.Conforms.within_leaf ⟨_, rfl, ?_, rfl, rfl, .inl rfl⟩ rfl (Nat.succ_pos _)
    exact .cons (wordAttr_admits (by decide) _ _) .nil
  | image url fit hint =>
    obtain ⟨url, hurl, h⟩ := Logged.exists_ok_of_bind h
    obtain ⟨shown, rfl⟩ := exists_text_of_textAttr hurl
    cases h
    refine Node.Conforms.within_leaf ⟨_, rfl, ?_, rfl, rfl, .inl rfl⟩ rfl (Nat.succ_pos _)
    exact .cons ⟨rfl, _, rfl⟩ <| .cons (wordAttr_admits (by decide) _ _) <|
      .cons (wordAttr_admits (by decide) _ _) .nil
  | icon name =>
    obtain ⟨shown, -, h⟩ := Logged.exists_ok_of_bind h
    cases h
    refine Node.Conforms.within_leaf ⟨_, rfl, ?_, rfl, rfl, .inl rfl⟩ rfl (Nat.succ_pos _)
    exact .cons ⟨rfl, _, rfl⟩ .nil
  | row kids distribution alignment => exact layout_within hc (.exactly "horizontal") rfl rfl h
  | column kids distribution alignment => exact layout_within hc (.exactly "vertical") rfl rfl h
  | list kids direction distribution alignment =>
    have hdefault : Catalog.directions.default ∈ Catalog.directions.words := by decide
    have hdirection := Vocabulary.pick_mem hdefault direction.join
    exact layout_within hc (.word Catalog.directions) rfl ⟨_, hdirection, rfl⟩ h
  | card kid =>
    obtain ⟨nodes, hnodes, h⟩ := Logged.exists_ok_of_bind h
    cases h
    obtain ⟨hallowed, hwithin⟩ := child_allowed hc hnodes
    exact Node.Conforms.within ⟨_, rfl, .nil, rfl, hallowed, .inl rfl⟩ hwithin (by omega)
  | button kid primary action =>
    obtain ⟨nodes, hnodes, h⟩ := Logged.exists_ok_of_bind h
    cases h
    obtain ⟨hallowed, hwithin⟩ := child_allowed hc hnodes
    refine Node.Conforms.within ⟨_, rfl, ?_, rfl, hallowed, .inl rfl⟩ hwithin (by omega)
    exact .cons ⟨rfl, _, rfl⟩ (.cons ⟨rfl, trivial⟩ (.cons ⟨rfl, _, rfl⟩ .nil))
  | textField label value type =>
    obtain ⟨label, hlabel, h⟩ := Logged.exists_ok_of_bind h
    obtain ⟨shown, hshown, h⟩ := Logged.exists_ok_of_bind h
    obtain ⟨labelText, rfl⟩ := exists_text_of_textAttr hlabel
    obtain ⟨shownText, rfl⟩ := exists_text_of_textAttr hshown
    cases h
    have hending := fieldEnding_mem type.join
    refine Node.Conforms.within_leaf ⟨_, rfl, ?_, rfl, rfl, .inr ⟨_, hending, ?_⟩⟩ rfl (Nat.succ_pos _)
    · exact .cons ⟨rfl, _, rfl⟩ (.cons ⟨rfl, _, rfl⟩ (.cons ⟨rfl, _, Vocabulary.pick_mem (by decide) _, rfl⟩
        (.cons ⟨rfl, _, rfl⟩ (.cons ⟨rfl, _, rfl⟩ (.cons ⟨rfl, _, rfl⟩ .nil)))))
    · exact List.suffix_append [_, _] _
  | divider axis =>
    cases h
    refine Node.Conforms.within_leaf ⟨_, rfl, ?_, rfl, rfl, .inl rfl⟩ rfl (Nat.succ_pos _)
    exact .cons (wordAttr_admits (by decide) _ _) .nil
  | slider value low high =>
    obtain ⟨shown, -, h⟩ := Logged.exists_ok_of_bind h
    cases h
    refine Node.Conforms.within_leaf ⟨_, rfl, ?_, rfl, rfl, .inl rfl⟩ rfl (Nat.succ_pos _)
    exact .cons ⟨rfl, _, rfl⟩ (.cons ⟨rfl, _, rfl⟩ (.cons ⟨rfl, _, rfl⟩ .nil))
  | checkBox label value =>
    obtain ⟨label, hlabel, h⟩ := Logged.exists_ok_of_bind h
    obtain ⟨checked, -, h⟩ := Logged.exists_ok_of_bind h
    obtain ⟨labelText, rfl⟩ := exists_text_of_textAttr hlabel
    cases h
    refine Node.Conforms.within_leaf ⟨_, rfl, ?_, rfl, rfl, .inl rfl⟩ rfl (Nat.succ_pos _)
    exact .cons ⟨rfl, _, rfl⟩ (.cons ⟨rfl, _, rfl⟩ .nil)
  | multipleChoice selections options most =>
    obtain ⟨selected, -, h⟩ := Logged.exists_ok_of_bind h
    obtain ⟨choices, -, h⟩ := Logged.exists_ok_of_bind h
    cases h
    refine Node.Conforms.within_leaf ⟨_, rfl, ?_, rfl, rfl, .inl rfl⟩ rfl (Nat.succ_pos _)
    have hmost : Content.count.Admits (Json.ofOption Json.ofInt most.join) := by
      cases most.join with
      | none => exact .inl rfl
      | some n => exact .inr ⟨n, rfl⟩
    exact .cons ⟨rfl, _, rfl⟩ (.cons ⟨rfl, _, rfl⟩ (.cons ⟨rfl, hmost⟩ .nil))
  | dateTimeInput value date time =>
    obtain ⟨shown, hshown, h⟩ := Logged.exists_ok_of_bind h
    obtain ⟨shownText, rfl⟩ := exists_text_of_textAttr hshown
    cases h
    refine Node.Conforms.within_leaf ⟨_, rfl, ?_, rfl, rfl, .inl rfl⟩ rfl (Nat.succ_pos _)
    exact .cons ⟨rfl, _, rfl⟩ (.cons ⟨rfl, _, rfl⟩ (.cons ⟨rfl, _, rfl⟩ .nil))
  | tabs items =>
    obtain ⟨tabs, htabs, h⟩ := Logged.exists_ok_of_bind h
    cases h
    have hkids : ∀ n ∈ tabs, n.tag = "tab" ∧ n.Within (bound + 1) := by
      intro n hn
      obtain ⟨t, -, ht⟩ := Logged.exists_of_mem_mapM htabs n hn
      exact tab_allowed hc ht
    exact Node.Conforms.within ⟨_, rfl, .nil, rfl, fun n hn => (hkids n hn).1, .inl rfl⟩ (fun n hn => (hkids n hn).2)
      (Nat.lt_succ_self _)
  | modal entry content =>
    obtain ⟨entry, hentry, h⟩ := Logged.exists_ok_of_bind h
    obtain ⟨content, hcontent, h⟩ := Logged.exists_ok_of_bind h
    cases h
    obtain ⟨hallowed, hwithin⟩ := child_allowed hc hentry
    obtain ⟨hallowed', hwithin'⟩ := child_allowed hc hcontent
    refine Node.Conforms.within ⟨_, rfl, .nil, rfl, rfl, .inl rfl⟩ ?_ (Nat.lt_succ_self (bound + 1))
    refine List.forall_mem_cons.mpr ⟨?_, List.forall_mem_singleton.mpr ?_⟩
    · exact Node.Conforms.within ⟨_, rfl, .nil, rfl, hallowed, .inl rfl⟩ hwithin (Nat.lt_succ_self _)
    · exact Node.Conforms.within ⟨_, rfl, .nil, rfl, hallowed', .inl rfl⟩ hwithin' (Nat.lt_succ_self _)
  | unknown type =>
    cases h
    refine Node.Conforms.within_leaf ⟨_, rfl, ?_, rfl, rfl, .inl rfl⟩ rfl (Nat.succ_pos _)
    exact .cons ⟨rfl, _, rfl⟩ .nil

end

/-! ## Components -/

section
variable {limit remaining : Nat} {s : Surface} {ancestry : List (String × String)} {id : Option String} {path : String}

/-- Each level of components adds two levels of nodes at most. -/
theorem component_within_levels {n : Node}
    (h : (component limit s remaining ancestry id path).result = .ok (some n)) : n.Within (2 * remaining) := by
  induction remaining generalizing ancestry id path n with
  | zero =>
    rw [component_guarded fun _ _ => .inr rfl] at h
    cases h
  | succ remaining ih =>
    by_cases hguard : ∀ c, id.bind s.component? = some c → (c.id, path) ∈ ancestry
    · rw [component_guarded fun c hc => .inl (hguard c hc)] at h
      cases h
    · simp only [not_forall] at hguard
      obtain ⟨c, hc, hmem⟩ := hguard
      rw [component_open hc hmem] at h
      obtain ⟨drawn, hdrawn, h⟩ := Logged.exists_ok_of_bind h
      cases h
      exact body_within (fun kid inner m hm => ⟨component_not_wrapper hm, ih hm⟩) hdrawn

end

end Draw

/-- **Drawn trees conform.** Whatever is drawn for a surface of any store is a component, every node in it has the form
of its tag, and it has at most two levels for each level of components that the settings allow. -/
theorem Store.draw_conforms {settings : Settings} {store : Store} {id : String} {tree : Node}
    (h : (store.draw settings id).result = .ok (some tree)) :
    tree.isWrapper = false ∧ (∀ n ∈ tree.nodes, n.Conforms) ∧ tree.levels ≤ 2 * settings.maxRenderDepth := by
  rcases store.draw_cases id with ⟨event, -, hdraw⟩ | ⟨s, root, -, -, hdraw⟩
  · rw [hdraw] at h
    cases h
  · rw [hdraw] at h
    have hwithin := Draw.component_within_levels h
    exact ⟨Draw.component_not_wrapper h, hwithin.conforms, hwithin.levels⟩

/-- Tabs inside a tab, with a text field of an unknown type in one of them. -/
def Surface.tabbed : Surface where
  id := "main"
  catalog := "plain"
  components :=
    [("root", ⟨"root", .tabs (some [⟨some (.plain (.bool true)), some (some "inner")⟩]), []⟩),
     ("inner", ⟨"inner", .tabs (some [⟨none, some none⟩, ⟨none, some (some "field")⟩]), []⟩),
     ("field", ⟨"field", .textField none (some (.plain (.bool true))) (some (some "password")), []⟩)]
  dataModel := .null

/-- Two levels of tabs are four levels of nodes. -/
theorem Store.draw_conforms_tabbed :
    let store : Store := ⟨[("main", .tabbed)]⟩
    ∃ tree, (store.draw { maxRenderDepth := 2 } "main").result = .ok (some tree) ∧ tree.levels = 2 * 2 ∧
      tree.isWrapper = false ∧ ∀ n ∈ tree.nodes, n.Conforms := by
  intro store
  have hdraw : (store.draw { maxRenderDepth := 2 } "main").result = .ok (some (.branch "tabs" []
      [.branch "tab" [("title", .str "true")] [.branch "tabs" []
        [.branch "tab" [("title", .str "")] [], .branch "tab" [("title", .str "")] []]]])) := rfl
  obtain ⟨hwrapper, hconforms, -⟩ := draw_conforms hdraw
  exact ⟨_, hdraw, rfl, hwrapper, hconforms⟩

end LiveSurface
