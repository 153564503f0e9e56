import LiveSurface.Proofs.Component.WellFormed
import LiveSurface.Proofs.Json.Finite
/-!
# Properties that are written and parsed again

A property may be sent in many shapes, and only some of them can be used. A component keeps what it could make of the
shape, and writes it in one shape only, the canonical one. Parsing the canonical shape gives back what the component
kept, so that it makes no difference whether a property is parsed as it was sent or as it is written.

The one property for which this fails is the reference to children: it is written in a shape that is no shape of the
reference. A reference that could not be used is written as null, and that is no reference either.

Results:
* `get?_sentFields`: looking up what was sent.
* `Bindable.ofJson_toJson`, `Choice.ofFields_tags`, `TabItem.ofFields_tags`: each kind of value is read back as it was.
* `Property.allFinite_canonical`: the canonical shape of finite numbers holds finite numbers.
* `Property.canonical`, `Body.sent_ofProperties`: a body writes the canonical shapes of its properties.
* `Body.ofProperties_canonical`: a body does not change if its properties are parsed as they were written.
-/
namespace LiveSurface

/-! ## Sent fields -/

section
variable {fields : List (String × Option Json)} {name : String} {v? : Option Json}

theorem mem_sentFields_iff {e : Key × Json} :
    e ∈ sentFields fields ↔ ∃ name, (name, some e.2) ∈ fields ∧ e.1 = (name : Key) := by
  unfold sentFields
  rw [List.mem_filterMap]
  constructor
  · intro ⟨⟨name, v?⟩, hmem, h⟩
    obtain ⟨v, hv, he⟩ := Option.map_eq_some_iff.mp h
    subst he
    cases (show v? = some v from hv)
    exact ⟨name, hmem, rfl⟩
  · intro ⟨name, hmem, hname⟩
    refine ⟨(name, some e.2), hmem, ?_⟩
    rw [← hname]
    rfl

/-- A name that was not sent is not found. -/
theorem get?_sentFields_eq_none (h : ∀ v, (name, some v) ∉ fields) : (sentFields fields).get? (name : Key) = none := by
  cases hget : (sentFields fields).get? (name : Key) with
  | none => rfl
  | some v =>
    obtain ⟨other, hmem, hname⟩ := mem_sentFields_iff.mp (Entries.mem_of_get? hget)
    obtain rfl : name = other := congrArg Key.text hname
    exact absurd hmem (h v)

/-- **What is found under a name is what was sent under it**, as long as the names differ. -/
theorem get?_sentFields (hnodup : (fields.map Prod.fst).Nodup) (hmem : (name, v?) ∈ fields) :
    (sentFields fields).get? (name : Key) = v? := by
  induction fields with
  | nil => cases hmem
  | cons e rest ih =>
    obtain ⟨other, w?⟩ := e
    obtain ⟨hfresh, hrest⟩ := List.nodup_cons.mp hnodup
    rcases List.mem_cons.mp hmem with heq | hin
    · cases heq
      cases v? with
      | some v => simp [sentFields, Entries.get?_cons]
      | none =>
        refine get?_sentFields_eq_none fun v hv => ?_
        rcases List.mem_cons.mp hv with hv | hv
        · cases hv
        · exact hfresh (List.mem_map.mpr ⟨_, hv, rfl⟩)
    · have hfound := ih hrest hin
      cases w? with
      | none => exact hfound
      | some w =>
        have hne : other ≠ name := fun heq => hfresh (List.mem_map.mpr ⟨_, hin, heq.symm⟩)
        simpa [sentFields, Entries.get?_cons, hne] using hfound

/-- Neither does it matter that another name is looked for, if nothing was sent under it. -/
theorem either?_sentFields {other : String} (hnodup : (fields.map Prod.fst).Nodup) (hmem : (name, v?) ∈ fields)
    (hother : ∀ v, (other, some v) ∉ fields) : (sentFields fields).either? name other = v? := by
  unfold Fields.either?
  rw [get?_sentFields hnodup hmem]
  cases v? with
  | some v => rfl
  | none => exact get?_sentFields_eq_none hother

end

/-! ## Kinds of properties -/

theorem Json.text?_ofText (s : Option String) : (ofText s).text? = s := by cases s <;> rfl

theorem Json.map_text?_ofText (s? : Option (Option String)) : (s?.map ofText).map text? = s? := by
  cases s? with
  | none => rfl
  | some s => exact congrArg some (text?_ofText s)

theorem Json.flag?_ofFlag (b : Option Bool) : (ofFlag b).flag? = b := by cases b <;> rfl

theorem Json.integer?_ofInt (n : Option Int) : (ofOption ofInt n).integer? = n := by cases n <;> rfl

theorem Json.bound?_ofNumber (v : Json) : (ofNumber v.bound?).bound? = v.bound? := by
  cases hbound : v.bound? with
  | none => rfl
  | some n =>
    have husable : n.isUsable = true := isUsable_of_bound? hbound
    simp [ofNumber, ofOption, bound?, husable]

/-- The tags of a binding, in the order in which they are written. -/
def Binding.tags (b : Binding) : List (String × Option Json) :=
  [("literalString", b.literalString), ("literalNumber", b.literalNumber), ("literalBoolean", b.literalBoolean),
   ("literalArray", b.literalArray), ("path", b.path.map Json.ofText)]

/-- **A binding is written with the tags that were sent**, and read back with them. -/
theorem Binding.ofFields_tags (b : Binding) : ofFields (sentFields b.tags) = b := by
  have hnodup : (b.tags.map Prod.fst).Nodup := by
    show ["literalString", "literalNumber", "literalBoolean", "literalArray", "path"].Nodup
    decide
  have htext : (sentFields b.tags).either? "literalString" "literal_string" = b.literalString :=
    either?_sentFields hnodup (by simp [tags]) (by simp [tags])
  have hnumber : (sentFields b.tags).either? "literalNumber" "literal_number" = b.literalNumber :=
    either?_sentFields hnodup (by simp [tags]) (by simp [tags])
  have hboolean : (sentFields b.tags).either? "literalBoolean" "literal_boolean" = b.literalBoolean :=
    either?_sentFields hnodup (by simp [tags]) (by simp [tags])
  have harray : (sentFields b.tags).either? "literalArray" "literal_array" = b.literalArray :=
    either?_sentFields hnodup (by simp [tags]) (by simp [tags])
  have hpath : (sentFields b.tags).get? ("path" : Key) = b.path.map Json.ofText :=
    get?_sentFields hnodup (by simp [tags])
  rw [ofFields, htext, hnumber, hboolean, harray, hpath, Json.map_text?_ofText]

theorem Bindable.ofJson_toJson (v : Json) : ofJson (ofJson v).toJson = ofJson v := by
  cases v with
  | obj fields => exact congrArg Bindable.bound (Binding.ofFields_tags (.ofFields fields))
  | _ => rfl

theorem Bindable.map_ofJson_toJson (v? : Option Json) :
    ((v?.map ofJson).map toJson).map ofJson = v?.map ofJson := by
  cases v? with
  | none => rfl
  | some v => exact congrArg some (ofJson_toJson v)

/-- The objects of an array of objects. -/
theorem Json.objects_arr {α : Type} (f : α → Fields) (xs : List α) :
    (Json.arr (xs.map fun x => .obj (f x))).objects = xs.map f := by
  simp [objects, fields?, List.filterMap_map, Function.comp_def]

/-- The fields of an option. -/
def Choice.tags (c : Choice) : List (String × Option Json) :=
  [("label", c.label.map Bindable.toJson), ("value", c.value)]

theorem Choice.ofFields_tags (fields : Fields) : ofFields (sentFields (ofFields fields).tags) = ofFields fields := by
  have hnodup : ((ofFields fields).tags.map Prod.fst).Nodup := by
    show ["label", "value"].Nodup
    decide
  have hlabel : (sentFields (ofFields fields).tags).get? ("label" : Key) = _ := get?_sentFields hnodup (.head _)
  have hvalue : (sentFields (ofFields fields).tags).get? ("value" : Key) = _ := get?_sentFields hnodup (.tail _ (.head _))
  rw [ofFields, hlabel, hvalue, ofFields, Bindable.map_ofJson_toJson]

theorem Choice.map_ofFields_toJson (v : Json) :
    (Json.arr ((v.objects.map ofFields).map toJson)).objects.map ofFields = v.objects.map ofFields := by
  have hobjects : (Json.arr ((v.objects.map ofFields).map toJson)).objects =
      (v.objects.map ofFields).map fun c => sentFields c.tags := Json.objects_arr _ _
  rw [hobjects, List.map_map, List.map_map]
  exact List.map_congr_left fun fields _ => ofFields_tags fields

/-- The fields of a tab. -/
def TabItem.tags (t : TabItem) : List (String × Option Json) :=
  [("title", t.title.map Bindable.toJson), ("child", t.child.map Json.ofText)]

theorem TabItem.ofFields_tags (fields : Fields) : ofFields (sentFields (ofFields fields).tags) = ofFields fields := by
  have hnodup : ((ofFields fields).tags.map Prod.fst).Nodup := by
    show ["title", "child"].Nodup
    decide
  have htitle : (sentFields (ofFields fields).tags).get? ("title" : Key) = _ := get?_sentFields hnodup (.head _)
  have hchild : (sentFields (ofFields fields).tags).get? ("child" : Key) = _ := get?_sentFields hnodup (.tail _ (.head _))
  rw [ofFields, htitle, hchild, ofFields, Bindable.map_ofJson_toJson, Json.map_text?_ofText]

theorem TabItem.map_ofFields_toJson (v : Json) :
    (Json.arr ((v.objects.map ofFields).map toJson)).objects.map ofFields = v.objects.map ofFields := by
  have hobjects : (Json.arr ((v.objects.map ofFields).map toJson)).objects =
      (v.objects.map ofFields).map fun t => sentFields t.tags := Json.objects_arr _ _
  rw [hobjects, List.map_map, List.map_map]
  exact List.map_congr_left fun fields _ => ofFields_tags fields

/-! ## Bodies -/

/-- The shape in which a property is written that was sent as a value. -/
def Property.canonical (p : Property) (v : Json) : Json :=
  match p with
  | .text | .url | .name | .label | .value | .selections => (Bindable.ofJson v).toJson
  | .usageHint | .fit | .distribution | .alignment | .direction | .child | .textFieldType | .axis | .entryPointChild
  | .contentChild => .ofText v.text?
  | .primary | .enableDate | .enableTime => .ofFlag v.flag?
  | .minValue | .maxValue => .ofNumber v.bound?
  | .maxAllowedSelections => .ofOption .ofInt v.integer?
  | .options => .arr ((v.objects.map Choice.ofFields).map Choice.toJson)
  | .tabItems => .arr ((v.objects.map TabItem.ofFields).map TabItem.toJson)
  | .children => .ofOption Children.toJson (Children.ofJson? v)
  | .action => v

theorem Property.map_canonical_action (v? : Option Json) : v?.map (canonical .action) = v? := by cases v? <;> rfl

/-- A reference to children is written in a shape that is no reference. -/
theorem Children.ofJson?_toJson (kids : Children) : ofJson? kids.toJson = none := by cases kids <;> rfl

/-- Neither is null, as which everything else is written that was sent for it. -/
theorem Children.ofJson?_canonical (v : Json) : ofJson? (Property.canonical .children v) = none := by
  unfold Property.canonical
  cases ofJson? v with
  | none => rfl
  | some kids => exact kids.ofJson?_toJson

theorem Children.map_ofJson?_canonical {v? : Option Json} (h : (v?.map ofJson?).join = none) :
    (v?.map (Property.canonical .children)).map ofJson? = v?.map ofJson? := by
  cases v? with
  | none => rfl
  | some v =>
    have hnone : ofJson? v = none := h
    rw [Option.map_some, Option.map_some, Option.map_some, ofJson?_canonical, hnone]

namespace Body

/-- **A body writes the properties that were sent, in their canonical shapes.** -/
theorem sent_ofProperties (value? : Property → Option Json) (t : ComponentType) :
    (ofProperties value? t).sent = t.properties.map fun p => (p, (value? p).map p.canonical) := by
  cases t with
  | button =>
    have haction : (value? .action).map (Property.canonical .action) = value? .action := Property.map_canonical_action _
    simp only [ofProperties, sent, ComponentType.properties, List.map_cons, List.map_nil, Option.map_map, haction]
    rfl
  | _ =>
    simp only [ofProperties, sent, ComponentType.properties, List.map_cons, List.map_nil, Option.map_map]
    rfl

/-- **A body does not change if its properties are parsed in their canonical shapes.** -/
theorem ofProperties_canonical {value? : Property → Option Json} {t : ComponentType}
    (hkids : (ofProperties value? t).layout? = none) :
    ofProperties (fun p => (value? p).map p.canonical) t = ofProperties value? t := by
  cases t with
  | row | column | list =>
    have hchildren := Children.map_ofJson?_canonical hkids
    simp only [ofProperties, hchildren]
    simp only [Option.map_map, Function.comp_def, Property.canonical, Json.text?_ofText]
  | button =>
    have haction : (value? .action).map (Property.canonical .action) = value? .action := Property.map_canonical_action _
    simp only [ofProperties, haction]
    simp only [Option.map_map, Function.comp_def, Property.canonical, Json.text?_ofText, Json.flag?_ofFlag]
  | _ =>
    simp only [ofProperties, Option.map_map, Function.comp_def, Property.canonical, Json.text?_ofText, Json.flag?_ofFlag,
      Json.integer?_ofInt, Json.bound?_ofNumber, Bindable.ofJson_toJson, Choice.map_ofFields_toJson,
      TabItem.map_ofFields_toJson]

end Body

/-! ## Finite numbers -/

section
variable {fields : Fields} {v : Json}

theorem Json.allFinite_of_get? {name : Key} (h : (Json.obj fields).allFinite = true) (hget : fields.get? name = some v) :
    v.allFinite = true :=
  allFinite_obj_iff.mp h _ (Entries.mem_of_get? hget)

theorem Json.allFinite_of_either? {name other : String} (h : (Json.obj fields).allFinite = true)
    (hget : fields.either? name other = some v) : v.allFinite = true := by
  unfold Fields.either? at hget
  split at hget
  · next hname =>
    cases hget
    exact allFinite_of_get? h hname
  · exact allFinite_of_get? h hget

theorem Json.allFinite_of_mem_objects (h : v.allFinite = true) (hmem : fields ∈ v.objects) :
    (Json.obj fields).allFinite = true := by
  cases v with
  | arr items =>
    obtain ⟨item, hitem, hfields⟩ := List.mem_filterMap.mp hmem
    have hfinite := allFinite_arr_iff.mp h item hitem
    cases item with
    | obj fields' =>
      cases hfields
      exact hfinite
    | _ => cases hfields
  | _ => cases hmem

theorem Json.allFinite_sentFields (sent : List (String × Option Json))
    (h : ∀ name v, (name, some v) ∈ sent → v.allFinite = true) : (Json.obj (sentFields sent)).allFinite = true := by
  refine allFinite_obj_iff.mpr fun e he => ?_
  obtain ⟨name, hmem, -⟩ := mem_sentFields_iff.mp he
  exact h name e.2 hmem

theorem Json.allFinite_ofText (s : Option String) : (ofText s).allFinite = true := by cases s <;> rfl

theorem Bindable.allFinite_toJson (h : v.allFinite = true) : (ofJson v).toJson.allFinite = true := by
  cases v with
  | obj fields =>
    refine Json.allFinite_sentFields (Binding.ofFields fields).tags fun name w hmem => ?_
    simp only [Binding.tags, Binding.ofFields, List.mem_cons, Prod.mk.injEq, List.not_mem_nil, or_false] at hmem
    rcases hmem with ⟨-, hw⟩ | ⟨-, hw⟩ | ⟨-, hw⟩ | ⟨-, hw⟩ | ⟨-, hw⟩
    · exact Json.allFinite_of_either? h hw.symm
    · exact Json.allFinite_of_either? h hw.symm
    · exact Json.allFinite_of_either? h hw.symm
    · exact Json.allFinite_of_either? h hw.symm
    · obtain ⟨s, -, rfl⟩ := Option.map_eq_some_iff.mp hw.symm
      exact Json.allFinite_ofText s
  | _ => exact h

theorem Choice.allFinite_toJson (h : (Json.obj fields).allFinite = true) :
    (Choice.ofFields fields).toJson.allFinite = true := by
  refine Json.allFinite_sentFields (ofFields fields).tags fun name w hmem => ?_
  simp only [tags, ofFields, List.mem_cons, Prod.mk.injEq, List.not_mem_nil, or_false] at hmem
  rcases hmem with ⟨-, hw⟩ | ⟨-, hw⟩
  · rw [Option.map_map] at hw
    obtain ⟨label, hlabel, rfl⟩ := Option.map_eq_some_iff.mp hw.symm
    exact Bindable.allFinite_toJson (Json.allFinite_of_get? h hlabel)
  · exact Json.allFinite_of_get? h hw.symm

theorem TabItem.allFinite_toJson (h : (Json.obj fields).allFinite = true) :
    (TabItem.ofFields fields).toJson.allFinite = true := by
  refine Json.allFinite_sentFields (ofFields fields).tags fun name w hmem => ?_
  simp only [tags, ofFields, List.mem_cons, Prod.mk.injEq, List.not_mem_nil, or_false] at hmem
  rcases hmem with ⟨-, hw⟩ | ⟨-, hw⟩
  · rw [Option.map_map] at hw
    obtain ⟨title, htitle, rfl⟩ := Option.map_eq_some_iff.mp hw.symm
    exact Bindable.allFinite_toJson (Json.allFinite_of_get? h htitle)
  · obtain ⟨s, -, rfl⟩ := Option.map_eq_some_iff.mp hw.symm
    exact Json.allFinite_ofText s

theorem Children.allFinite_toJson (kids : Children) : kids.toJson.allFinite = true := by
  cases kids with
  | explicit ids =>
    refine Json.allFinite_obj_iff.mpr fun e he => ?_
    rw [List.mem_singleton.mp he]
    refine Json.allFinite_arr_iff.mpr fun v hv => ?_
    obtain ⟨id, -, rfl⟩ := List.mem_map.mp hv
    rfl
  | template id binding => rfl

theorem Property.allFinite_canonical (p : Property) (h : v.allFinite = true) : (p.canonical v).allFinite = true := by
  cases p with
  | text | url | name | label | value | selections => exact Bindable.allFinite_toJson h
  | usageHint | fit | distribution | alignment | direction | child | textFieldType | axis | entryPointChild
  | contentChild => exact Json.allFinite_ofText v.text?
  | primary | enableDate | enableTime =>
    simp only [canonical]
    cases v.flag? <;> rfl
  | minValue | maxValue =>
    simp only [canonical]
    cases hbound : v.bound? with
    | none => rfl
    | some n =>
      have husable := Json.isUsable_of_bound? hbound
      cases n with
      | int n => rfl
      | double x => exact husable
  | maxAllowedSelections =>
    simp only [canonical]
    cases v.integer? <;> rfl
  | children =>
    simp only [canonical]
    cases Children.ofJson? v with
    | none => rfl
    | some kids => exact kids.allFinite_toJson
  | options =>
    refine Json.allFinite_arr_iff.mpr fun w hw => ?_
    simp only [List.map_map, List.mem_map, Function.comp_apply] at hw
    obtain ⟨fields, hfields, rfl⟩ := hw
    exact Choice.allFinite_toJson (Json.allFinite_of_mem_objects h hfields)
  | tabItems =>
    refine Json.allFinite_arr_iff.mpr fun w hw => ?_
    simp only [List.map_map, List.mem_map, Function.comp_apply] at hw
    obtain ⟨fields, hfields, rfl⟩ := hw
    exact TabItem.allFinite_toJson (Json.allFinite_of_mem_objects h hfields)
  | action => exact h

end

end LiveSurface
