import LiveSurface.Proofs.Component.Canonical
import LiveSurface.Proofs.Json.Nesting
/-!
# Components that are written and parsed again

A component is written as a record of its id, its type, the properties that were sent, and what is extra. The record is
parsed as the same component again: each property is found under its first name, in its canonical shape, and what was
extra is still extra, although another name of a property may be among it.

Two things are left out. A layout that refers to children does not come back with them, because they are written in a
shape that is no reference. And a component of which a value nests too deep cannot be written at all.

Results:
* `Fields.without_append`, `Fields.without_eq_nil`, `Fields.without_eq_self`: the fields outside some names.
* `Component.property?_fields`: the properties in a record.
* `Component.ne_usedName_of_mem_extras`: extra properties stay extra.
* `Component.ofRecord_fields`: nothing changes if a component is made of its own record.
* `Component.MadeOf.parse_toJson`: what was made of a record is written so that it is parsed again.
* `Component.parse_record`: a component that can be written is parsed again as it was.
-/
namespace LiveSurface

/-! ## Names -/

theorem Property.word_ne (p : Property) : p.word ≠ "id" ∧ p.word ≠ "type" := by cases p <;> decide

theorem Property.otherWord_ne (p : Property) : p.otherWord ≠ "id" ∧ p.otherWord ≠ "type" := by cases p <;> decide

theorem ComponentType.nodup_words (t : ComponentType) : (t.properties.map Property.word).Nodup := by
  cases t <;> decide

/-- No property is accepted under the first name of another one. -/
theorem ComponentType.eq_of_otherWord_eq {t : ComponentType} {p q : Property} (hp : p ∈ t.properties)
    (hq : q ∈ t.properties) (h : p.otherWord = q.word) : p = q := by
  have hall : ∀ p ∈ t.properties, ∀ q ∈ t.properties, p.otherWord = q.word → p = q := by cases t <;> decide
  exact hall p hp q hq h

/-! ## Fields -/

namespace Fields

variable {fields : Fields} {p : Property}

theorem mem_without_iff {names : List String} {e : Key × Json} :
    e ∈ fields.without names ↔ e ∈ fields ∧ ∀ n ∈ names, e.1 ≠ (n : Key) := by
  simp [without]

theorem without_append (fields more : Fields) (names : List String) :
    without (fields ++ more) names = fields.without names ++ more.without names := List.filter_append ..

theorem without_eq_nil {names : List String} (h : ∀ e ∈ fields, ∃ n ∈ names, e.1 = (n : Key)) :
    fields.without names = [] := by
  refine List.eq_nil_iff_forall_not_mem.mpr fun e he => ?_
  obtain ⟨hmem, hne⟩ := mem_without_iff.1 he
  obtain ⟨n, hn, heq⟩ := h e hmem
  exact hne n hn heq

theorem without_eq_self {names : List String} (h : ∀ e ∈ fields, ∀ n ∈ names, e.1 ≠ (n : Key)) :
    fields.without names = fields := by
  refine List.filter_eq_self.mpr fun e he => ?_
  simpa using h e he

theorem get?_without_eq_none {k : Key} (h : fields.get? k = none) (names : List String) :
    (fields.without names).get? k = none := by
  cases hget : (fields.without names).get? k with
  | none => rfl
  | some v =>
    obtain ⟨hmem, -⟩ := mem_without_iff.1 (Entries.mem_of_get? hget)
    have hkey : k ∈ fields.keys := List.mem_map_of_mem hmem
    rw [Entries.mem_keys_iff, h] at hkey
    cases hkey

theorem property?_eq_none_iff :
    fields.property? p = none ↔ fields.get? (p.word : Key) = none ∧ fields.get? (p.otherWord : Key) = none := by
  unfold property? either?
  cases fields.get? (p.word : Key) with
  | none => simp
  | some v => simp

theorem usedName_of_get? {v : Json} (h : fields.get? (p.word : Key) = some v) : fields.usedName p = p.word := by
  simp [usedName, Entries.contains, h]

theorem usedName_of_get?_eq_none (h : fields.get? (p.word : Key) = none) : fields.usedName p = p.otherWord := by
  simp [usedName, Entries.contains, h]

end Fields

theorem Body.ofProperties_congr {value? value'? : Property → Option Json} {t : ComponentType}
    (h : ∀ p ∈ t.properties, value? p = value'? p) : ofProperties value? t = ofProperties value'? t := by
  cases t <;> simp_all [ofProperties, ComponentType.properties]

namespace Component

/-- The properties of a component as they are written. -/
def written (c : Component) : Fields := sentFields (c.body.sent.map fun e => (e.1.word, e.2))

/-- The id and the type of a component as they are written. -/
def head (c : Component) : Fields := headFields c.id c.typeWord

/-- The fields of the record that a component is written as. -/
def fields (c : Component) : Fields := c.head ++ (c.written ++ c.extras)

theorem mem_fields {c : Component} {e : Key × Json} (h : e ∈ c.fields) :
    e ∈ c.head ∨ e ∈ c.written ∨ e ∈ c.extras :=
  (List.mem_append.mp h).imp_right List.mem_append.mp

/-- The head holds two texts under two names. -/
theorem mem_head {c : Component} {e : Key × Json} (h : e ∈ c.head) :
    (e.1 = ("id" : String) ∧ e.2 = .str c.id) ∨ (e.1 = ("type" : String) ∧ e.2 = .str c.typeWord) := by
  rcases List.mem_cons.mp h with rfl | h
  · exact .inl ⟨rfl, rfl⟩
  · rw [List.mem_singleton.mp h]
    exact .inr ⟨rfl, rfl⟩

theorem get?_fields (c : Component) {name : String} (hid : name ≠ "id") (htype : name ≠ "type") :
    c.fields.get? (name : Key) = (c.written.get? (name : Key)).or (c.extras.get? (name : Key)) := by
  have hhead : c.head.get? (name : Key) = none := by
    simp [head, headFields, Entries.get?_cons, Ne.symm hid, Ne.symm htype]
  rw [fields, Entries.get?_append, Entries.get?_append, hhead, Option.none_or]

/-- If the names cover all that is written and miss the extra properties, only the extra properties are left over. -/
theorem without_fields {c : Component} {names : List String} (hid : "id" ∈ names) (htype : "type" ∈ names)
    (hwritten : ∀ e ∈ c.written, ∃ n ∈ names, e.1 = (n : Key)) (hextras : ∀ e ∈ c.extras, ∀ n ∈ names, e.1 ≠ (n : Key)) :
    c.fields.without names = c.extras := by
  have hhead : c.head.without names = [] := by
    refine Fields.without_eq_nil fun e he => ?_
    rcases mem_head he with ⟨hname, -⟩ | ⟨hname, -⟩
    · exact ⟨"id", hid, hname⟩
    · exact ⟨"type", htype, hname⟩
  rw [fields, Fields.without_append, Fields.without_append, hhead, Fields.without_eq_nil hwritten,
    Fields.without_eq_self hextras]
  rfl

/-- All names in a record are texts if those of the extra properties are. -/
theorem namesIntact_fields {c : Component} (h : c.extras.namesIntact = true) : c.fields.namesIntact = true := by
  refine List.all_eq_true.mpr fun e he => ?_
  rcases mem_fields he with he | he | he
  · rcases mem_head he with ⟨hname, -⟩ | ⟨hname, -⟩ <;> rw [hname]
  · obtain ⟨name, -, hname⟩ := mem_sentFields_iff.mp he
    rw [hname]
  · exact List.all_eq_true.mp h e he

/-- A record is written as it is if all numbers in it are finite. -/
theorem toJson_eq {c : Component} (hwritten : ∀ e ∈ c.written, e.2.allFinite = true)
    (hextras : ∀ e ∈ c.extras, e.2.allFinite = true) : c.toJson = .obj c.fields := by
  have hfinite : (Json.obj c.fields).allFinite = true := by
    refine Json.allFinite_obj_iff.mpr fun e he => ?_
    rcases mem_fields he with he | he | he
    · rcases mem_head he with ⟨-, hv⟩ | ⟨-, hv⟩ <;> rw [hv] <;> rfl
    · exact hwritten e he
    · exact hextras e he
  exact Json.finite_eq_self _ hfinite

/-! ## Types within the catalog -/

section
variable {t : ComponentType} {id : String} {sent : Fields} {p : Property}

/-- The names of the properties, and what is written under them. -/
theorem sent_ofRecord (t : ComponentType) (id : String) (sent : Fields) :
    (ofRecord t id sent).body.sent.map (fun e => (e.1.word, e.2)) =
      t.properties.map fun p => (p.word, (sent.property? p).map p.canonical) := by
  rw [ofRecord, Body.sent_ofProperties, List.map_map]
  rfl

/-- A property is written under its first name, in its canonical shape. -/
theorem mem_written_iff {e : Key × Json} : e ∈ (ofRecord t id sent).written ↔
    ∃ p ∈ t.properties, ∃ v, sent.property? p = some v ∧ e = ((p.word : Key), p.canonical v) := by
  rw [written, mem_sentFields_iff, sent_ofRecord]
  constructor
  · intro ⟨name, hmem, hname⟩
    obtain ⟨p, hp, heq⟩ := List.mem_map.mp hmem
    obtain ⟨rfl, hvalue⟩ := Prod.mk.inj heq
    obtain ⟨v, hv, hcanonical⟩ := Option.map_eq_some_iff.mp hvalue
    exact ⟨p, hp, v, hv, Prod.ext hname hcanonical.symm⟩
  · intro ⟨p, hp, v, hv, he⟩
    subst he
    exact ⟨p.word, List.mem_map.mpr ⟨p, hp, by rw [hv]; rfl⟩, rfl⟩

/-- A property is found under its first name, in its canonical shape. -/
theorem get?_word_fields (id : String) (sent : Fields) (hp : p ∈ t.properties) :
    (ofRecord t id sent).fields.get? (p.word : Key) = (sent.property? p).map p.canonical := by
  have hnodup : ((t.properties.map fun p => (p.word, (sent.property? p).map p.canonical)).map Prod.fst).Nodup := by
    rw [List.map_map]
    exact t.nodup_words
  have hfound : (ofRecord t id sent).written.get? (p.word : Key) = (sent.property? p).map p.canonical := by
    rw [written, sent_ofRecord]
    exact get?_sentFields hnodup (List.mem_map_of_mem hp)
  rw [get?_fields _ p.word_ne.1 p.word_ne.2, hfound]
  cases hsent : sent.property? p with
  | some v => rfl
  | none => exact Fields.get?_without_eq_none (Fields.property?_eq_none_iff.1 hsent).1 _

/-- What was not sent is not found, under its other name neither. -/
theorem get?_otherWord_fields (id : String) (hp : p ∈ t.properties) (hnone : sent.property? p = none) :
    (ofRecord t id sent).fields.get? (p.otherWord : Key) = none := by
  have hunsent : (ofRecord t id sent).written.get? (p.otherWord : Key) = none := by
    cases hget : (ofRecord t id sent).written.get? (p.otherWord : Key) with
    | none => rfl
    | some w =>
      obtain ⟨q, hq, v, hv, heq⟩ := mem_written_iff.1 (Entries.mem_of_get? hget)
      obtain rfl := ComponentType.eq_of_otherWord_eq hp hq (congrArg Key.text (Prod.mk.inj heq).1)
      rw [hnone] at hv
      cases hv
  rw [get?_fields _ p.otherWord_ne.1 p.otherWord_ne.2, hunsent]
  exact Fields.get?_without_eq_none (Fields.property?_eq_none_iff.1 hnone).2 _

/-- **A property is found again in its canonical shape**, if it was sent. -/
theorem property?_fields (hp : p ∈ t.properties) :
    (ofRecord t id sent).fields.property? p = (sent.property? p).map p.canonical := by
  cases hsent : sent.property? p with
  | some v =>
    have hword := get?_word_fields id sent hp
    rw [hsent] at hword
    unfold Fields.property? Fields.either?
    rw [hword]
    rfl
  | none =>
    have hword := get?_word_fields id sent hp
    rw [hsent] at hword
    exact Fields.property?_eq_none_iff.2 ⟨hword, get?_otherWord_fields id hp hsent⟩

/-- **Extra properties stay extra.** A property that was sent is written under its first name, and no extra property has
that name; one that was not sent is looked for under its other name, as before. -/
theorem ne_usedName_of_mem_extras (hp : p ∈ t.properties) {e : Key × Json} (he : e ∈ (ofRecord t id sent).extras) :
    e.1 ≠ ((ofRecord t id sent).fields.usedName p : Key) := by
  obtain ⟨hmem, hne⟩ := Fields.mem_without_iff.1 he
  have hused : e.1 ≠ (sent.usedName p : Key) := hne _ (.tail _ (.tail _ (List.mem_map_of_mem hp)))
  have hkey : e.1 ∈ sent.keys := List.mem_map_of_mem hmem
  have hwritten := get?_word_fields id sent hp
  cases hsent : sent.property? p with
  | some v =>
    rw [hsent] at hwritten
    rw [Fields.usedName_of_get? hwritten]
    cases hword : sent.get? (p.word : Key) with
    | some w => rwa [Fields.usedName_of_get? hword] at hused
    | none =>
      intro heq
      rw [heq, Entries.mem_keys_iff, hword] at hkey
      cases hkey
  | none =>
    rw [hsent] at hwritten
    rw [Fields.usedName_of_get?_eq_none (Fields.property?_eq_none_iff.1 hsent).1] at hused
    rw [Fields.usedName_of_get?_eq_none hwritten]
    exact hused

/-- **Nothing changes if a component is made of its own record.** -/
theorem ofRecord_fields (hkids : (ofRecord t id sent).body.layout? = none) :
    ofRecord t id (ofRecord t id sent).fields = ofRecord t id sent := by
  have hbody : Body.ofProperties (ofRecord t id sent).fields.property? t = Body.ofProperties sent.property? t :=
    (Body.ofProperties_congr fun p hp => property?_fields hp).trans (Body.ofProperties_canonical hkids)
  have hextras : (ofRecord t id sent).fields.without
      ("id" :: "type" :: t.properties.map (ofRecord t id sent).fields.usedName) = (ofRecord t id sent).extras := by
    refine without_fields (.head _) (.tail _ (.head _)) (fun e he => ?_) (fun e he => ?_)
    · obtain ⟨p, hp, v, hv, rfl⟩ := mem_written_iff.1 he
      have hword : (ofRecord t id sent).fields.get? (p.word : Key) = some (p.canonical v) := by
        rw [get?_word_fields _ _ hp, hv]
        rfl
      have hused : (ofRecord t id sent).fields.usedName p = p.word := Fields.usedName_of_get? hword
      exact ⟨p.word, hused ▸ .tail _ (.tail _ (List.mem_map_of_mem hp)), rfl⟩
    · obtain ⟨-, hne⟩ := Fields.mem_without_iff.1 he
      simp only [List.forall_mem_cons, List.forall_mem_map]
      exact ⟨hne _ (.head _), hne _ (.tail _ (.head _)), fun p hp => ne_usedName_of_mem_extras hp he⟩
  unfold ofRecord at hbody hextras ⊢
  rw [hbody, hextras]

end

/-! ## Records -/

section
variable {fields : Fields} {id : String}

/-- A record of a type within the catalog is parsed by its properties. -/
theorem parse_of_type {t : ComponentType} (hid : fields.get? ("id" : Key) = some (.str id)) (hne : id ≠ "")
    (htype : fields.get? ("type" : Key) = some (.str t.word)) (hnames : fields.namesIntact = true) :
    parse (.obj fields) = pure (some (ofRecord t id fields)) := by
  simp [parse, hid, htype, Json.nonEmptyText?, hne, Json.text?, ComponentType.ofWord?_word, hnames]

/-- A record of another type keeps all that it was sent. -/
theorem parse_of_name {name : String} (hid : fields.get? ("id" : Key) = some (.str id)) (hne : id ≠ "")
    (htype : fields.get? ("type" : Key) = some (.str name)) (hname : ComponentType.ofWord? name = none)
    (hnames : fields.namesIntact = true) :
    parse (.obj fields) = pure (some ⟨id, .unknown name, fields.without ["id", "type"]⟩) := by
  simp [parse, hid, htype, Json.nonEmptyText?, hne, Json.text?, hname, Json.display, hnames]
  rfl

end

section
variable {sent : Fields} {id : String} {names : List String}

theorem allFinite_of_mem_without (h : (Json.obj sent).allFinite = true) :
    ∀ e ∈ sent.without names, e.2.allFinite = true := by
  intro e he
  exact Json.allFinite_obj_iff.mp h e (Fields.mem_without_iff.1 he).1

theorem namesIntact_without (h : sent.namesIntact = true) : (sent.without names).namesIntact = true := by
  refine List.all_eq_true.mpr fun e he => ?_
  exact List.all_eq_true.mp h e (Fields.mem_without_iff.1 he).1

theorem get?_id_fields (c : Component) : c.fields.get? ("id" : Key) = some (.str c.id) := rfl

theorem get?_type_fields (c : Component) : c.fields.get? ("type" : Key) = some (.str c.typeWord) := rfl

theorem parse_toJson_ofRecord {t : ComponentType} (hne : id ≠ "") (hnames : sent.namesIntact = true)
    (hfinite : (Json.obj sent).allFinite = true) (hkids : (ofRecord t id sent).body.layout? = none) :
    parse (ofRecord t id sent).toJson = pure (some (ofRecord t id sent)) := by
  have hwritten : ∀ e ∈ (ofRecord t id sent).written, e.2.allFinite = true := by
    intro e he
    obtain ⟨p, -, v, hv, rfl⟩ := mem_written_iff.1 he
    exact p.allFinite_canonical (Json.allFinite_of_either? hfinite hv)
  have hword : (ofRecord t id sent).typeWord = t.word := Body.typeWord_ofProperties sent.property? t
  have htype := get?_type_fields (ofRecord t id sent)
  rw [hword] at htype
  rw [toJson_eq hwritten (allFinite_of_mem_without hfinite),
    parse_of_type (get?_id_fields _) hne htype (namesIntact_fields (namesIntact_without hnames))]
  exact congrArg (fun c => pure (some c)) (ofRecord_fields hkids)

/-- Of a type outside the catalog nothing is written but what is extra. -/
theorem parse_toJson_unknown {name : String} (hname : ComponentType.ofWord? name = none) (hne : id ≠ "")
    (hnames : sent.namesIntact = true) (hfinite : (Json.obj sent).allFinite = true) :
    parse (Component.mk id (.unknown name) (sent.without ["id", "type"])).toJson =
      pure (some ⟨id, .unknown name, sent.without ["id", "type"]⟩) := by
  generalize hc : Component.mk id (.unknown name) (sent.without ["id", "type"]) = c
  have hid : c.fields.get? ("id" : Key) = some (.str id) := hc ▸ rfl
  have htype : c.fields.get? ("type" : Key) = some (.str name) := hc ▸ rfl
  have hwritten : c.written = [] := hc ▸ rfl
  have hextras : c.extras = sent.without ["id", "type"] := hc ▸ rfl
  have hleft : c.fields.without ["id", "type"] = c.extras := by
    refine without_fields (.head _) (.tail _ (.head _)) (fun e he => ?_) (fun e he => ?_)
    · rw [hwritten] at he
      cases he
    · rw [hextras] at he
      exact (Fields.mem_without_iff.1 he).2
  have hjson : c.toJson = .obj c.fields := by
    refine toJson_eq (fun e he => ?_) (hextras ▸ allFinite_of_mem_without hfinite)
    rw [hwritten] at he
    cases he
  have hintact : c.fields.namesIntact = true := namesIntact_fields (hextras ▸ namesIntact_without hnames)
  rw [hjson, parse_of_name hid hne htype hname hintact, hleft, hextras, hc]

end

/-- **A component that was made of a record is written so that it is parsed again.** -/
theorem MadeOf.parse_toJson {c : Component} {sent : Fields} (h : c.MadeOf sent) (hne : c.id ≠ "")
    (hnames : sent.namesIntact = true) (hfinite : (Json.obj sent).allFinite = true) (hkids : c.body.layout? = none) :
    Component.parse c.toJson = pure (some c) := by
  cases h with
  | type t h =>
    rw [h] at hkids ⊢
    exact parse_toJson_ofRecord hne hnames hfinite hkids
  | name name hname h =>
    rw [h]
    exact parse_toJson_unknown hname hne hnames hfinite

/-- **A component that is written can be parsed again, and comes out the same**: with the same type, the same
properties sent, and the same extra properties in the same order. It cannot be written only if one of its values nests
too deep. A layout that refers to children is the exception: it is written in a shape that is no reference. -/
theorem parse_record {v : Json} {c : Component} (hfinite : v.allFinite = true)
    (h : (parse v).result = .ok (some c)) (hkids : c.body.layout? = none) :
    (c.record = .error {} ∧ ∃ w ∈ c.body.values ++ c.extras.map Prod.snd, w.exceedsDepth recordDepth 1 = true) ∨
      ∃ r, c.record = .ok r ∧ parse r = pure (some c) := by
  obtain ⟨hne, sent, hmade, hnames, hsent⟩ := exists_madeOf_of_parse h
  have hsentFinite : (Json.obj sent).allFinite = true := by
    rcases hsent with rfl | ⟨type, rfl⟩
    · exact hfinite
    · rfl
  have hparse := hmade.parse_toJson hne hnames hsentFinite hkids
  unfold record
  cases hwritable : c.isWritable with
  | true => exact .inr ⟨c.toJson, rfl, hparse⟩
  | false =>
    obtain ⟨w, hw, hdeep⟩ := List.all_eq_false.mp hwritable
    exact .inl ⟨rfl, w, hw, by simpa using hdeep⟩

/-- A multiple choice with one property sent under both names, one whose shape cannot be used, a binding of two tags,
and entries among its options that are none. -/
def choiceRecord : Json :=
  .ofFields [("max_allowed_selections", .ofNat 2), ("type", .str "MultipleChoice"), ("extra", .arr [.ofFields []]),
    ("selections", .ofFields [("literal_array", .null), ("path", .ofNat 7), ("note", .bool true)]),
    ("maxAllowedSelections", .str "two"), ("id", .str "plan"),
    ("options", .arr [.ofFields [("value", .arr [.ofNat 1]), ("label", .str "A"), ("hint", .null)], .ofNat 3,
      .ofFields [("label", .ofFields [("path", .str "/b")])]])]

/-- The component that the record is parsed as. -/
def choice : Component where
  id := "plan"
  body := .multipleChoice (some (.bound { literalArray := some .null, path := some none }))
    (some [⟨some (.plain (.str "A")), some (.arr [.ofNat 1])⟩, ⟨some (.bound { path := some (some "/b") }), none⟩])
    (some none)
  extras := [("max_allowed_selections", .ofNat 2), ("extra", .arr [.ofFields []])]

theorem parse_record_choice :
    choiceRecord.allFinite = true ∧ (parse choiceRecord).result = .ok (some choice) ∧ choice.body.layout? = none ∧
      ∃ r, choice.record = .ok r ∧ parse r = pure (some choice) := by
  have hfinite : choiceRecord.allFinite = true := rfl
  have hparse : (parse choiceRecord).result = .ok (some choice) := rfl
  have hkids : choice.body.layout? = none := rfl
  refine ⟨hfinite, hparse, hkids, ?_⟩
  rcases parse_record hfinite hparse hkids with ⟨hrecord, -⟩ | hround
  · cases (show choice.record = .ok choice.toJson from rfl).symm.trans hrecord
  · exact hround

/-! ## A component that cannot be written -/

/-- So many arrays, one inside the other. -/
def nestedArrays : Nat → Json
  | 0 => .null
  | n + 1 => .arr [nestedArrays n]

theorem nesting_nestedArrays (n : Nat) : (nestedArrays n).nesting = n := by
  induction n with
  | zero => rfl
  | succ n ih => simp [nestedArrays, Json.nesting, Json.itemsNesting, ih]

theorem allFinite_nestedArrays (n : Nat) : (nestedArrays n).allFinite = true := by
  induction n with
  | zero => rfl
  | succ n ih => simp [nestedArrays, Json.allFinite, Json.allItemsFinite, ih]

/-- A button with an action. -/
def button (action : Json) : Component := ⟨"send", .button none none (some action), []⟩

/-- **Counterexample**: a button with an action of 300 arrays one inside the other is parsed, but cannot be written. -/
theorem record_not_total : ¬∀ (v : Json) (c : Component), v.allFinite = true → (parse v).result = .ok (some c) →
    c.body.layout? = none → ∃ r, c.record = .ok r ∧ (parse r).result = .ok (some c) := by
  intro htotal
  have hparse : ∀ action, (parse (.ofFields
      [("id", .str "send"), ("type", .str "Button"), ("action", action)])).result = .ok (some (button action)) :=
    fun _ => rfl
  have hfinite : (Json.ofFields [("id", .str "send"), ("type", .str "Button"),
      ("action", nestedArrays 300)]).allFinite = true := by
    simp [Json.ofFields, Json.allFinite, Json.allFieldsFinite, allFinite_nestedArrays]
  obtain ⟨r, hrecord, -⟩ := htotal _ _ hfinite (hparse (nestedArrays 300)) rfl
  have hwritable := ((record_eq_ok_iff _ r).mp hrecord).1
  have hshallow : (nestedArrays 300).exceedsDepth recordDepth 1 = false := by
    simpa using List.all_eq_true.mp hwritable _ (.head _)
  have hle := Json.nesting_le_of_not_exceedsDepth _ hshallow
  rw [nesting_nestedArrays] at hle
  exact absurd hle (by decide)

end Component

end LiveSurface
