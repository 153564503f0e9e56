import LiveSurface.Proofs.Log.Comparison
import LiveSurface.Proofs.Message.Escape
import Mathlib.Order.Bounds.Basic
/-!
# Which batches are accepted, and as what

What a decoded list stands for can be said without running the parser, by looking up names: the payload of an element is
the object under the first of the known kinds, a message is made of a payload that names a surface, and a component is
made of a record that has an id. Elements and records without such a name are left out.

A list is accepted if it keeps within the limits and every element has a payload. Otherwise nothing of it is accepted,
however much of it was in order: the first element without a payload is blamed.

Results:
* `Component.describes_of_parse`, `Message.becomes_of_parse`: the parser on a record and on an element.
* `Batch.parseElements_ends`: elements are parsed to the end, or up to the first one without a payload.
* `Batch.parse_decoded`: exactly which lists are accepted, as what, and which element is blamed otherwise.
-/
namespace LiveSurface

/-! ## Names at any depth -/

namespace Json

mutual

/-- Whether the names in all objects of a value are texts. -/
def keysIntact : Json → Bool
  | .arr items => itemKeysIntact items
  | .obj fields => fieldKeysIntact fields
  | .null | .bool _ | .num _ | .str _ => true

/-- Whether the names in all objects of the items are texts. -/
def itemKeysIntact : List Json → Bool
  | [] => true
  | v :: rest => keysIntact v && itemKeysIntact rest

/-- Whether the fields' names and the names in all objects of their values are texts. -/
def fieldKeysIntact : List (Key × Json) → Bool
  | [] => true
  | (key, v) :: rest => key.intact && keysIntact v && fieldKeysIntact rest

end

theorem itemKeysIntact_iff {items : List Json} :
    itemKeysIntact items = true ↔ ∀ v ∈ items, v.keysIntact = true := by
  induction items with
  | nil => simp [itemKeysIntact]
  | cons v rest ih => simp [itemKeysIntact, ih]

theorem fieldKeysIntact_iff {fields : List (Key × Json)} :
    fieldKeysIntact fields = true ↔ ∀ e ∈ fields, e.1.intact = true ∧ e.2.keysIntact = true := by
  induction fields with
  | nil => simp [fieldKeysIntact]
  | cons e rest ih => simp [fieldKeysIntact, ih, and_assoc]

theorem namesIntact_of_keysIntact {fields : Fields} (h : (Json.obj fields).keysIntact = true) :
    fields.namesIntact = true :=
  List.all_eq_true.mpr fun e he => (fieldKeysIntact_iff.1 h e he).1

theorem keysIntact_of_get? {fields : Fields} {key : Key} {v : Json} (h : (Json.obj fields).keysIntact = true)
    (hv : fields.get? key = some v) : v.keysIntact = true :=
  (fieldKeysIntact_iff.1 h _ (Entries.mem_of_get? hv)).2

theorem not_bringsBroken_of_keysIntact {v : Json} (h : v.keysIntact = true) : ¬v.BringsBroken := by
  rintro ⟨records, ⟨fields, _, payload, _, rfl, -, hpayload, -, hrecords⟩, r, hr, sent, _, rfl, -, -, hnames⟩
  have harr := keysIntact_of_get? (keysIntact_of_get? h hpayload) hrecords
  rw [namesIntact_of_keysIntact (itemKeysIntact_iff.1 harr _ hr)] at hnames
  cases hnames

end Json

/-! ## Lists with gaps -/

section
variable {α β : Type} {p : α → Bool} {R : α → β → Prop}

/-- What holds something exactly for those items that have a property, with one more item in front. -/
theorem forall₂_filter_cons {a : α} {b? : Option β} {as : List α} {bs : List β}
    (ha : Option.Rel R (Option.guard p a) b?) (h : List.Forall₂ R (as.filter p) bs) :
    List.Forall₂ R ((a :: as).filter p) (b?.toList ++ bs) := by
  cases hp : p a with
  | true =>
    rw [Option.guard, if_pos hp] at ha
    rw [List.filter_cons_of_pos hp]
    cases ha with
    | some hab => exact .cons hab h
  | false =>
    rw [Option.guard, if_neg (by simp [hp])] at ha
    rw [List.filter_cons_of_neg (by simp [hp])]
    cases ha
    exact h

theorem forall₂_filter {as : List α} {bs : List (Option β)}
    (h : List.Forall₂ (fun a b? => Option.Rel R (Option.guard p a) b?) as bs) :
    List.Forall₂ R (as.filter p) (bs.filterMap id) := by
  induction h with
  | nil => exact .nil
  | @cons a b? _ bs ha _ ih =>
    have hbs : (b? :: bs).filterMap id = b?.toList ++ bs.filterMap id := by cases b? <;> rfl
    rw [hbs]
    exact forall₂_filter_cons ha ih

end

/-! ## Records -/

/-- The component that a record with an id describes: of the type that it names, if the catalog has that type, and else
under the name that its type is displayed as. -/
inductive Json.Describes : Json → Component → Prop
  | known {fields : Fields} {id : String} {t : ComponentType} (hid : (Json.obj fields).recordId? = some id)
    (ht : fields.get? ("type" : Key) = some (.str t.word)) : Describes (.obj fields) (.ofRecord t id fields)
  | unknown {fields : Fields} {id name : String} (hid : (Json.obj fields).recordId? = some id)
    (ht : ∀ t : ComponentType, fields.get? ("type" : Key) ≠ some (.str t.word))
    (hname : ((fields.get? ("type" : Key)).getD .null).display = .ok name) :
    Describes (.obj fields) ⟨id, .unknown name, fields.without ["id", "type"]⟩

theorem Fields.type?_eq_some_iff {fields : Fields} {t : ComponentType} :
    fields.type? = some t ↔ fields.get? ("type" : Key) = some (.str t.word) := by
  unfold type?
  constructor
  · intro h
    obtain ⟨word, hword, ht⟩ := Option.bind_eq_some_iff.mp h
    cases hv : fields.get? ("type" : Key) with
    | none =>
      rw [hv] at hword
      cases hword
    | some v =>
      rw [hv] at hword
      obtain rfl : v = .str word := Json.eq_of_text? hword
      rw [ComponentType.word_of_ofWord? ht]
  · intro h
    rw [h]
    exact ComponentType.ofWord?_word t

/-- The parser on a record whose names are texts: it skips the record if it has no id. -/
theorem Component.describes_of_parse {r : Json} {c? : Option Component} (hnames : r.keysIntact = true)
    (h : (parse r).result = .ok c?) :
    Option.Rel Json.Describes (Option.guard (fun r => r.recordId?.isSome) r) c? := by
  rw [Option.guard]
  cases hid : r.recordId? with
  | none =>
    rw [result_parse_skipped hid] at h
    cases h
    exact .none
  | some id =>
    obtain ⟨fields, rfl⟩ := Json.exists_fields_of_recordId? hid
    have hintact : fields.namesIntact = true := Json.namesIntact_of_keysIntact hnames
    cases ht : fields.type? with
    | some t =>
      rw [result_parse_known hid ht, if_pos hintact] at h
      cases h
      exact .some (.known hid (Fields.type?_eq_some_iff.mp ht))
    | none =>
      rw [result_parse_unknown hid ht] at h
      obtain ⟨name, hname, h⟩ := Logged.exists_ok_of_bind h
      rw [if_pos hintact] at h
      cases h
      refine .some (.unknown hid (fun t htype => ?_) (Logged.ok_of_ofExcept_mapError hname))
      cases ht.symm.trans (Fields.type?_eq_some_iff.mpr htype)

/-! ## Elements -/

/-- The records that a payload brings. -/
def Fields.records (payload : Fields) : List Json :=
  match payload.get? ("components" : Key) with
  | some (.arr items) => items
  | _ => []

/-- The surface that an element names. -/
def Json.target? (v : Json) : Option String := v.payload?.bind fun p => p.2.surface?

/-- The message of a kind to a surface, with what the payload says. -/
inductive Message.Says (surface : String) (payload : Fields) : MessageKind → Message → Prop
  | createSurface : Says surface payload .createSurface
    (.createSurface surface ((payload.either? "catalogId" "catalog_id").bind Json.text?))
  | updateComponents {components : List Component}
    (h : List.Forall₂ Json.Describes (payload.records.filter fun r => r.recordId?.isSome) components) :
    Says surface payload .updateComponents (.updateComponents surface components)
  | updateDataModel : Says surface payload .updateDataModel
    (.updateDataModel surface ((payload.get? ("path" : Key)).bind Json.text?)
      ((payload.get? ("op" : Key)).bind Json.text?) (payload.get? ("value" : Key)))
  | deleteSurface : Says surface payload .deleteSurface (.deleteSurface surface)

/-- The message that an element becomes. -/
def Json.Becomes (v : Json) (m : Message) : Prop :=
  ∃ kind payload surface, v.payload? = some (kind, payload) ∧ payload.surface? = some surface ∧
    m.Says surface payload kind

theorem Json.keysIntact_of_payload? {v : Json} {kind : MessageKind} {payload : Fields} (hnames : v.keysIntact = true)
    (h : v.payload? = some (kind, payload)) : (Json.obj payload).keysIntact = true := by
  obtain ⟨fields, _, rfl, -, hget⟩ := payload?_eq_some_iff.mp h
  exact keysIntact_of_get? hnames hget

namespace Message

theorem describes_of_parseComponents {payload : Fields} {components : List Component}
    (hnames : (Json.obj payload).keysIntact = true)
    (h : (parseComponents (payload.get? ("components" : Key))).result = .ok components) :
    List.Forall₂ Json.Describes (payload.records.filter fun r => r.recordId?.isSome) components := by
  unfold parseComponents at h
  split at h
  · next items hitems =>
    obtain ⟨parsed, hparsed, h⟩ := Logged.exists_ok_of_bind h
    cases h
    have hrecords : payload.records = items := by rw [Fields.records, hitems]
    have hitem := Json.itemKeysIntact_iff.1 (Json.keysIntact_of_get? hnames hitems)
    rw [hrecords]
    have hboth := (List.forall₂_and_left items parsed).mpr ⟨hitem, Logged.mapM_ok_iff.mp hparsed⟩
    exact forall₂_filter (hboth.imp fun _ _ h => Component.describes_of_parse h.1 h.2)
  · next hother =>
    cases h
    have hrecords : payload.records = [] := by
      unfold Fields.records
      split
      · next items hitems => exact absurd hitems (hother items)
      · rfl
    rw [hrecords]
    exact .nil

theorem says_of_ofPayload {surface : String} {payload : Fields} {kind : MessageKind} {m : Message}
    (hnames : (Json.obj payload).keysIntact = true) (h : (ofPayload surface payload kind).result = .ok m) :
    m.Says surface payload kind := by
  cases kind with
  | createSurface =>
    cases h
    exact .createSurface
  | updateComponents =>
    obtain ⟨components, hcomponents, h⟩ := Logged.exists_ok_of_bind h
    cases h
    exact .updateComponents (describes_of_parseComponents hnames hcomponents)
  | updateDataModel =>
    cases h
    exact .updateDataModel
  | deleteSurface =>
    cases h
    exact .deleteSurface

/-- The parser on an element whose names are texts: it drops the element if its payload names no surface. -/
theorem becomes_of_parse {v : Json} {index : Int} {m? : Option Message} (hnames : v.keysIntact = true)
    (hvalid : v.payload?.isSome = true) (h : (parse v index).result = .ok m?) :
    Option.Rel Json.Becomes (Option.guard (fun v => v.target?.isSome) v) m? := by
  obtain ⟨⟨kind, payload⟩, hpayload⟩ := Option.isSome_iff_exists.mp hvalid
  have htarget : v.target? = payload.surface? := by rw [Json.target?, hpayload, Option.bind_some]
  rw [Option.guard, htarget]
  cases hsurface : payload.surface? with
  | none =>
    rw [parse_of_surface?_none hpayload hsurface] at h
    cases h
    exact .none
  | some surface =>
    rw [parse_of_surface? hpayload hsurface] at h
    obtain ⟨m, hm, h⟩ := Logged.exists_ok_of_bind h
    cases h
    have hsays := says_of_ofPayload (Json.keysIntact_of_payload? hnames hpayload) (Logged.ok_of_mapError hm)
    exact .some ⟨kind, payload, surface, hpayload, hsurface, hsays⟩

end Message

/-! ## Batches -/

namespace Batch

/-- The indices of the elements that have no payload. -/
def invalid (elements : List Json) : Set ℕ := {i | ∃ v, elements[i]? = some v ∧ v.payload? = none}

section
variable {elements : List Json} {index : Int}

theorem not_mem_invalid (hvalid : ∀ v ∈ elements, v.payload?.isSome = true) (n : ℕ) : n ∉ invalid elements := by
  rintro ⟨v, hv, hnone⟩
  have hsome := hvalid v (List.mem_of_getElem? hv)
  rw [hnone] at hsome
  cases hsome

theorem isLeast_invalid_zero {v : Json} (hv : v.payload? = none) : IsLeast (invalid (v :: elements)) 0 :=
  ⟨⟨v, rfl, hv⟩, fun _ _ => Nat.zero_le _⟩

theorem isLeast_invalid_cons {v : Json} {n : ℕ} (hv : v.payload?.isSome = true) (h : IsLeast (invalid elements) n) :
    IsLeast (invalid (v :: elements)) (n + 1) := by
  refine ⟨h.1, fun i hi => ?_⟩
  cases i with
  | zero =>
    obtain ⟨w, hw, hnone⟩ := hi
    obtain rfl : v = w := Option.some.inj hw
    rw [hnone] at hv
    cases hv
  | succ i => exact Nat.succ_le_succ (h.2 hi)

/-- How a list of elements ends: parsed to the end, with the messages that the elements become, or broken off at the
first element that has no payload. -/
inductive Ends (index : Int) (elements : List Json) : Prop
  | accepted (messages : List Message) (hr : (parseElements index elements).result = .ok messages)
    (hvalid : ∀ v ∈ elements, v.payload?.isSome = true)
    (h : List.Forall₂ Json.Becomes (elements.filter fun v => v.target?.isSome) messages)
  | rejected (n : ℕ) (fault : ElementFault) (h : IsLeast (invalid elements) n)
    (hr : (parseElements index elements).result = .error (.unprocessable (.element (index + n) fault)))

theorem Ends.cons_invalid {v : Json} {fault : ElementFault} (hv : v.payload? = none)
    (hr : (Message.parse v index).result = .error (.invalid index fault)) : Ends index (v :: elements) := by
  have hindex : index + ((0 : ℕ) : Int) = index := by omega
  refine .rejected 0 fault (isLeast_invalid_zero hv) ?_
  rw [hindex, parseElements, Logged.result_bind, Logged.mapError, hr]
  rfl

theorem Ends.cons_valid {v : Json} {m? : Option Message} (hnames : v.keysIntact = true)
    (hv : v.payload?.isSome = true) (hr : (Message.parse v index).result = .ok m?) (h : Ends (index + 1) elements) :
    Ends index (v :: elements) := by
  have hstep : (parseElements index (v :: elements)).result =
      (parseElements (index + 1) elements).result.map (m?.toList ++ ·) := by
    rw [parseElements, Logged.result_bind, Logged.mapError, hr]
    exact Logged.result_bind _ _
  cases h with
  | accepted messages hmessages hvalid h =>
    refine .accepted (m?.toList ++ messages) ?_ (List.forall_mem_cons.mpr ⟨hv, hvalid⟩) ?_
    · rw [hstep, hmessages]
      rfl
    · exact forall₂_filter_cons (Message.becomes_of_parse hnames hv hr) h
  | rejected n fault h hfault =>
    have hindex : index + 1 + (n : Int) = index + ((n + 1 : ℕ) : Int) := by omega
    refine .rejected (n + 1) fault (isLeast_invalid_cons hv h) ?_
    rw [hstep, hfault, hindex]
    rfl

theorem parseElements_ends (hnames : ∀ v ∈ elements, v.keysIntact = true)
    (hw : ∀ v ∈ elements, v.isWritable = true) (index : Int) : Ends index elements := by
  induction elements generalizing index with
  | nil => exact .accepted [] rfl (fun _ hv => nomatch hv) .nil
  | cons v rest ih =>
    obtain ⟨hv, hrest⟩ := List.forall_mem_cons.mp hnames
    obtain ⟨hwv, hwrest⟩ := List.forall_mem_cons.mp hw
    cases Message.parsed_of_isWritable hwv index with
    | invalid hinvalid fault hr =>
      have hnone : v.payload? = none := Option.not_isSome_iff_eq_none.mp fun h => hinvalid (Json.isElement_iff.mpr h)
      exact .cons_invalid hnone hr
    | broken hbroken => exact absurd hbroken (Json.not_bringsBroken_of_keysIntact hv)
    | parsed helement _ m? hr => exact .cons_valid hv (Json.isElement_iff.mp helement) hr (ih hrest hwrest (index + 1))

namespace Ends

theorem ok_iff (h : Ends index elements) :
    (∃ messages, (parseElements index elements).result = .ok messages) ↔ ∀ v ∈ elements, v.payload?.isSome = true := by
  cases h with
  | accepted messages hr hvalid => exact iff_of_true ⟨messages, hr⟩ hvalid
  | rejected n fault hn hr =>
    refine iff_of_false (fun ⟨messages, h⟩ => ?_) fun hvalid => ?_
    · rw [hr] at h
      cases h
    · exact not_mem_invalid hvalid n hn.1

theorem becomes_of_ok (h : Ends index elements) {messages : List Message}
    (hok : (parseElements index elements).result = .ok messages) :
    List.Forall₂ Json.Becomes (elements.filter fun v => v.target?.isSome) messages := by
  cases h with
  | accepted messages' hr _ h =>
    rw [hr] at hok
    cases hok
    exact h
  | rejected n fault hn hr =>
    rw [hr] at hok
    cases hok

theorem element_iff (h : Ends index elements) {i : Int} :
    (∃ fault, (parseElements index elements).result = .error (.unprocessable (.element i fault))) ↔
      ∃ n : ℕ, i = index + n ∧ IsLeast (invalid elements) n := by
  cases h with
  | accepted messages hr hvalid =>
    refine iff_of_false (fun ⟨fault, h⟩ => ?_) fun ⟨n, _, hn⟩ => ?_
    · rw [hr] at h
      cases h
    · exact not_mem_invalid hvalid n hn.1
  | rejected n fault hn hr =>
    constructor
    · rintro ⟨fault', h⟩
      rw [hr] at h
      cases h
      exact ⟨n, rfl, hn⟩
    · rintro ⟨m, rfl, hm⟩
      obtain rfl : n = m := hn.unique hm
      exact ⟨fault, hr⟩

end Ends

end

section
variable {settings : Settings} {elements : List Json}

/-- Apart from the refusals for its limits, a list ends as its elements do. -/
theorem result_parse_decoded_iff {r : Except BatchError (List Message)}
    (hr : ∀ fault, fault.index? = none → r ≠ .error (.unprocessable fault)) :
    (parse settings (.decoded (.arr elements))).result = r ↔
      IsWithin settings elements ∧ (parseElements 0 elements).result = r := by
  have hparse : (parse settings (.decoded (.arr elements))).result = (parseValue settings (.arr elements)).result :=
    Logged.result_bind _ _
  rw [hparse]
  by_cases hwithin : IsWithin settings elements
  · rw [parseValue_of_isWithin hwithin, and_iff_right hwithin]
  · obtain ⟨fault, hfault, hresult⟩ := parseValue_of_not_isWithin hwithin
    refine iff_of_false (fun h => ?_) fun h => hwithin h.1
    refine hr fault ?_ (h.symm.trans hresult)
    rcases List.mem_pair.mp hfault with rfl | rfl
    · rfl
    · rfl

theorem parse_decoded_ok_iff {messages : List Message} :
    (parse settings (.decoded (.arr elements))).result = .ok messages ↔
      IsWithin settings elements ∧ (parseElements 0 elements).result = .ok messages :=
  result_parse_decoded_iff fun _ _ => nofun

theorem parse_decoded_element_iff {index : Int} {fault : ElementFault} :
    (parse settings (.decoded (.arr elements))).result = .error (.unprocessable (.element index fault)) ↔
      IsWithin settings elements ∧
        (parseElements 0 elements).result = .error (.unprocessable (.element index fault)) := by
  refine result_parse_decoded_iff ?_
  rintro fault' hnone ⟨⟩
  cases hnone

theorem validate_of_element {raw : RawBatch} {index : Int} {fault : ElementFault}
    (h : (parse settings raw).result = .error (.unprocessable (.element index fault))) :
    (validate settings raw).result = .ok (.error ⟨fault.message index, some ("[" ++ toString index ++ "]")⟩) := by
  simp only [validate, h]
  rfl

/-- **The contract of the parser** for decoded lists in which all names are texts and all integers can be written. A
list is accepted exactly if it keeps within the limits and every element has a payload. It is accepted as one message
for each element that names a surface, in order. If an element is to blame, it is the first one without a payload, and
the report names the same one. The order of an element's fields does not matter to its payload. -/
theorem parse_decoded (settings : Settings) {elements : List Json} (hnames : (Json.arr elements).keysIntact = true)
    (hw : (Json.arr elements).isWritable = true) :
    ((∃ messages, (parse settings (.decoded (.arr elements))).result = .ok messages) ↔
        IsWithin settings elements ∧ ∀ v ∈ elements, v.payload?.isSome = true) ∧
      (∀ messages, (parse settings (.decoded (.arr elements))).result = .ok messages →
        List.Forall₂ Json.Becomes (elements.filter fun v => v.target?.isSome) messages) ∧
      (∀ index, (∃ fault, (parse settings (.decoded (.arr elements))).result =
          .error (.unprocessable (.element index fault))) ↔
        IsWithin settings elements ∧ ∃ n : ℕ, index = n ∧ IsLeast (invalid elements) n) ∧
      (∀ index fault, (parse settings (.decoded (.arr elements))).result =
          .error (.unprocessable (.element index fault)) →
        (validate settings (.decoded (.arr elements))).result =
          .ok (.error ⟨fault.message index, some ("[" ++ toString index ++ "]")⟩)) ∧
      ∀ fields fields' : Fields, fields.Perm fields' → fields.keys.Nodup →
        (Json.obj fields).payload? = (Json.obj fields').payload? := by
  have hends := parseElements_ends (Json.itemKeysIntact_iff.1 hnames) (Json.allItemInts_iff.mp hw) 0
  refine ⟨?_, ?_, ?_, fun _ _ h => validate_of_element h, fun _ _ h hm => Json.payload?_perm h hm⟩
  · simp only [parse_decoded_ok_iff, exists_and_left, hends.ok_iff]
  · intro messages h
    exact hends.becomes_of_ok (parse_decoded_ok_iff.mp h).2
  · intro index
    simp only [parse_decoded_element_iff, exists_and_left, hends.element_iff, Int.zero_add]

/-! ## A batch with gaps -/

/-- A surface is created, although its element begins with a field of another kind; two of the records have ids; and the
last element names no surface. -/
def assorted : List Json :=
  [.ofFields [("deleteSurface", .null), ("createSurface", .ofFields [("surfaceId", .str "main")])],
    .ofFields [("updateComponents", .ofFields [("surfaceId", .str "main"), ("components", .arr
      [.ofFields [("id", .str "root"), ("type", .str "Text")], .null, .ofFields [("type", .str "Text")],
        .ofFields [("id", .str "gauge"), ("type", .str "Gauge")]])])],
    .ofFields [("updateDataModel", .ofFields [("surfaceId", .str "")])]]

/-- The same with two elements more that have no payloads. -/
def spoiled : List Json := assorted ++ [.ofFields [("updateDataModel", .null)], .null]

/-- What is in order is accepted, without the element that names no surface. With two invalid elements behind it, the
first of these is blamed. -/
theorem parse_decoded_spoiled :
    ((Json.arr assorted).keysIntact = true ∧ (Json.arr assorted).isWritable = true ∧
      ∃ messages, (parse {} (.decoded (.arr assorted))).result = .ok messages ∧
        List.Forall₂ Json.Becomes (assorted.take 2) messages) ∧
    (Json.arr spoiled).keysIntact = true ∧ (Json.arr spoiled).isWritable = true ∧
      ∃ fault, (parse {} (.decoded (.arr spoiled))).result = .error (.unprocessable (.element 3 fault)) := by
  have hnames : (Json.arr assorted).keysIntact = true := by decide
  have hw : (Json.arr assorted).isWritable = true := by decide
  have hnames' : (Json.arr spoiled).keysIntact = true := by decide
  have hw' : (Json.arr spoiled).isWritable = true := by decide
  refine ⟨⟨hnames, hw, ?_⟩, hnames', hw', ?_⟩
  · obtain ⟨haccepted, hbecomes, -⟩ := parse_decoded {} hnames hw
    obtain ⟨messages, hok⟩ := haccepted.mpr ⟨⟨by decide, by decide⟩, by decide⟩
    exact ⟨messages, hok, hbecomes messages hok⟩
  · refine ((parse_decoded {} hnames' hw').2.2.1 3).mpr ⟨⟨by decide, by decide⟩, 3, rfl, ⟨_, rfl, rfl⟩, ?_⟩
    rintro (_ | _ | _ | i) ⟨v, hv, hnone⟩
    iterate 3
      cases hv
      cases hnone
    exact Nat.le_add_left 3 i

end

end Batch

end LiveSurface
