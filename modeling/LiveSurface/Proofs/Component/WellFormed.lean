import LiveSurface.Component.Parse
import LiveSurface.Proofs.Render.Rules
/-!
# Well-formed components

Whatever record a component is parsed from, it has an id, its body is the one for its type, and the properties that
drawing relies on have a form that drawing can use: templates name a component and a container, the bounds of a slider
can be computed with, and an object in the place of a value is a binding. Drawing asks for none of this again.

That the body is the one for the type has to be shown of types outside the catalog: their name may be the display of a
value that is no text. The names in the catalog begin with a capital letter, and of all displays only those of truth
values do.

Results:
* `Json.ofWord?_of_display`: no value but a text is displayed as the name of a type in the catalog.
* `Body.wellFormed_ofProperties`: a body is well-formed whatever its properties were sent as.
* `Component.exists_madeOf_of_parse`: what a parsed component was made of.
* `Component.wellFormed_of_parse`: parsed components are well-formed.
-/
namespace LiveSurface

/-! ## Displays -/

/-- No capital letter is among the characters. -/
def NoCapitals (cs : List Char) : Prop := ∀ c ∈ cs, c.isUpper = false

instance (cs : List Char) : Decidable (NoCapitals cs) := List.decidableBAll (Char.isUpper · = false) cs

namespace NoCapitals

variable {cs ds : List Char}

theorem append (h : NoCapitals cs) (h' : NoCapitals ds) : NoCapitals (cs ++ ds) :=
  List.forall_mem_append.mpr ⟨h, h'⟩

theorem cons {c : Char} (hc : c.isUpper = false) (h : NoCapitals cs) : NoCapitals (c :: cs) :=
  List.forall_mem_cons.mpr ⟨hc, h⟩

theorem subset (h : NoCapitals cs) (hsub : ds ⊆ cs) : NoCapitals ds := fun c hc => h c (hsub hc)

end NoCapitals

namespace Double

theorem noCapitals_digitChars (n : Nat) : NoCapitals (digitChars n) := by
  intro c hc
  obtain ⟨m, hm, rfl⟩ := exists_digit_of_mem_digitChars hc
  have hdigit : ∀ m < 10, (Nat.digitChar m).isUpper = false := by decide
  exact hdigit m hm

theorem noCapitals_zeros (n : Nat) : NoCapitals (zeros n) := by
  intro c hc
  rw [List.eq_of_mem_replicate hc]
  rfl

theorem noCapitals_withPoint {digits : List Char} (h : NoCapitals digits) (whole : Int) :
    NoCapitals (withPoint digits whole) := by
  unfold withPoint
  split
  · exact .cons rfl (.cons rfl ((noCapitals_zeros _).append h))
  split
  · exact (h.subset (List.take_subset _ _)).append (.cons rfl (h.subset (List.drop_subset _ _)))
  · exact (h.append (noCapitals_zeros _)).append (.cons rfl (.cons rfl fun _ hc => nomatch hc))

theorem noCapitals_exponentChars (layout : NumberLayout) (exponent : Int) :
    NoCapitals (exponentChars layout exponent) := by
  have hsign : NoCapitals (if exponent < 0 then ['-'] else if layout.plus then ['+'] else []) := by
    split
    · exact .cons rfl fun _ hc => nomatch hc
    split
    · exact .cons rfl fun _ hc => nomatch hc
    · exact fun _ hc => nomatch hc
  exact (hsign.append (noCapitals_zeros _)).append (noCapitals_digitChars _)

theorem noCapitals_decimal (layout : NumberLayout) (d : Decimal) : NoCapitals (d.write layout) := by
  simp only [Decimal.write]
  generalize (if d.digits = 0 then (0 : Int) else d.power + (digitChars d.digits).length - 1) = exponent
  have hdigits := noCapitals_digitChars d.digits
  generalize digitChars d.digits = digits at hdigits
  split
  · exact noCapitals_withPoint hdigits _
  · have hrest : NoCapitals ('e' :: exponentChars layout exponent) := .cons rfl (noCapitals_exponentChars layout _)
    refine NoCapitals.append ?_ hrest
    match digits, hdigits with
    | [], h => exact h
    | [c], h => exact h
    | c :: c' :: rest, h =>
      obtain ⟨hc, h⟩ := List.forall_mem_cons.mp h
      exact .cons hc (.cons rfl h)

theorem noCapitals_displayed (x : Double) : NoCapitals (x.write Json.displayNumbers).toList := by
  cases x with
  | nan => decide
  | infinite negative => cases negative <;> decide
  | finite negative m e =>
    have htext := noCapitals_decimal Json.displayNumbers (shortest m e)
    rw [write, String.toList_ofList]
    split
    · exact .cons rfl htext
    · exact htext

end Double

namespace Json

theorem noCapitals_intChars (n : Int) : NoCapitals (intChars n) := by
  unfold intChars
  split
  · exact .cons rfl (Double.noCapitals_digitChars _)
  · exact Double.noCapitals_digitChars _

/-- The name of a type begins with a capital letter. -/
theorem exists_capital_word (t : ComponentType) : ∃ c ∈ t.word.toList.head?, c.isUpper = true := by
  cases t <;> exact ⟨_, rfl, rfl⟩

theorem ofWord?_eq_none {name : String} (h : ∀ c ∈ name.toList.head?, c.isUpper = false) :
    ComponentType.ofWord? name = none := by
  cases ht : ComponentType.ofWord? name with
  | none => rfl
  | some t =>
    obtain ⟨c, hc, hcapital⟩ := exists_capital_word t
    rw [ComponentType.word_of_ofWord? ht] at hc
    rw [h c hc] at hcapital
    cases hcapital

theorem ofWord?_of_noCapitals {cs : List Char} (h : NoCapitals cs) :
    ComponentType.ofWord? (String.ofList cs) = none := by
  refine ofWord?_eq_none fun c hc => h c ?_
  rw [String.toList_ofList] at hc
  exact List.mem_of_head? hc

/-- The display of a value that is no text names no type in the catalog. -/
theorem ofWord?_of_display {v : Json} {name : String} (hv : v.text?.bind ComponentType.ofWord? = none)
    (h : v.display = .ok name) : ComponentType.ofWord? name = none := by
  cases v with
  | str s =>
    cases h
    exact hv
  | null =>
    cases h
    rfl
  | bool b => cases b <;> (cases h; rfl)
  | num n =>
    simp only [display] at h
    split at h
    · cases h
      cases n with
      | int n => exact ofWord?_of_noCapitals (noCapitals_intChars n)
      | double x => exact ofWord?_of_noCapitals (Double.noCapitals_displayed x)
    · cases h
  | arr items =>
    have hhead : (displayChars (.arr items)).head? = some '[' := by cases items <;> rfl
    simp only [display] at h
    split at h
    · cases h
      refine ofWord?_eq_none fun c hc => ?_
      rw [String.toList_ofList, hhead] at hc
      cases hc
      rfl
    · cases h
  | obj fields =>
    have hhead : (displayChars (.obj fields)).head? = some '\x7b' := by cases fields <;> rfl
    simp only [display] at h
    split at h
    · cases h
      refine ofWord?_eq_none fun c hc => ?_
      rw [String.toList_ofList, hhead] at hc
      cases hc
      rfl
    · cases h

end Json

/-! ## Properties -/

/-- A template names its component and its container. -/
theorem Children.names_of_ofJson? {v : Json} {id path : String} (h : ofJson? v = some (.template id path)) :
    id ≠ "" ∧ path ≠ "" := by
  obtain ⟨fields, -, h⟩ := Option.bind_eq_some_iff.mp h
  split at h
  · cases h
  · obtain ⟨entry, -, h⟩ := Option.bind_eq_some_iff.mp h
    obtain ⟨template, -, h⟩ := Option.bind_eq_some_iff.mp h
    obtain ⟨sentId, -, h⟩ := Option.bind_eq_some_iff.mp h
    obtain ⟨id', hid, h⟩ := Option.bind_eq_some_iff.mp h
    obtain ⟨sentPath, -, h⟩ := Option.bind_eq_some_iff.mp h
    obtain ⟨path', hpath, h⟩ := Option.bind_eq_some_iff.mp h
    cases h
    exact ⟨(Json.eq_of_nonEmptyText? hid).2, (Json.eq_of_nonEmptyText? hpath).2⟩

/-- An object in the place of a value is a binding. -/
theorem Bindable.map_ofJson_ne (v? : Option Json) (fields : List (Key × Json)) :
    v?.map ofJson ≠ some (.plain (.obj fields)) := by
  cases v? with
  | none => nofun
  | some v => cases v <;> nofun

theorem Json.isUsable_of_bound? {v : Json} {n : Number} (h : v.bound? = some n) : n.isUsable = true := by
  cases v with
  | num m =>
    simp only [bound?] at h
    split at h
    · next husable =>
      cases h
      exact husable
    · cases h
  | _ => cases h

/-! ## Bodies -/

namespace Body

/-- The bounds that a slider has. -/
def bounds : Body → List Number
  | .slider _ low high => low.join.toList ++ high.join.toList
  | _ => []

/-- The body is the one for its type, and has no property that drawing could not use. -/
structure WellFormed (b : Body) : Prop where
  type : b.type? = ComponentType.ofWord? b.typeWord
  template : ∀ id path, b.template? = some (id, path) → id ≠ "" ∧ path ≠ ""
  bounds : ∀ n ∈ b.bounds, n.isUsable = true
  bindables : ∀ fields, some (.plain (.obj fields)) ∉ b.bindables

theorem wellFormed_unknown {name : String} (h : ComponentType.ofWord? name = none) : (unknown name).WellFormed where
  type := h.symm
  template _ _ h := by cases h
  bounds _ h := by cases h
  bindables _ h := by cases h

theorem type?_ofProperties (value? : Property → Option Json) (t : ComponentType) :
    (ofProperties value? t).type? = some t := by cases t <;> rfl

theorem typeWord_ofProperties (value? : Property → Option Json) (t : ComponentType) :
    (ofProperties value? t).typeWord = t.word := by cases t <;> rfl

theorem exists_of_layout?_ofProperties {value? : Property → Option Json} {t : ComponentType} {kids : Children}
    (h : (ofProperties value? t).layout? = some kids) : ∃ v, Children.ofJson? v = some kids := by
  have hjoin : ((value? .children).map Children.ofJson?).join = some kids := by
    cases t <;> first | exact h | cases h
  obtain ⟨v, -, hv⟩ := Option.map_eq_some_iff.mp (Option.join_eq_some_iff.mp hjoin)
  exact ⟨v, hv⟩

theorem isUsable_of_mem_bounds {value? : Property → Option Json} {t : ComponentType} {n : Number}
    (h : n ∈ (ofProperties value? t).bounds) : n.isUsable = true := by
  have hbound : ∀ v? : Option Json, n ∈ (v?.map Json.bound?).join.toList → n.isUsable = true := by
    intro v? hn
    obtain ⟨v, -, hv⟩ := Option.map_eq_some_iff.mp (Option.join_eq_some_iff.mp (Option.mem_toList.mp hn))
    exact Json.isUsable_of_bound? hv
  cases t with
  | slider => exact (List.mem_append.mp h).elim (hbound _) (hbound _)
  | _ => cases h

/-- The entries of a list property are what was made of objects. -/
theorem exists_fields_of_mem {α : Type} {f : Fields → α} {v? : Option Json} {a : α}
    (h : a ∈ (v?.map fun v => v.objects.map f).getD []) : ∃ fields, f fields = a := by
  cases v? with
  | none => cases h
  | some v =>
    obtain ⟨fields, -, hf⟩ := List.mem_map.mp h
    exact ⟨fields, hf⟩

theorem not_mem_bindables (value? : Property → Option Json) (t : ComponentType) (fields : List (Key × Json)) :
    some (.plain (.obj fields)) ∉ (ofProperties value? t).bindables := by
  have hne : ∀ v? : Option Json, some (Bindable.plain (.obj fields)) ≠ v?.map .ofJson :=
    fun v? => (Bindable.map_ofJson_ne v? fields).symm
  intro h
  cases t with
  | multipleChoice =>
    rcases List.mem_cons.mp h with h | h
    · exact hne _ h
    · obtain ⟨choice, hchoice, hlabel⟩ := List.mem_map.mp h
      obtain ⟨sent, rfl⟩ := exists_fields_of_mem hchoice
      exact hne _ hlabel.symm
  | tabs =>
    obtain ⟨item, hitem, htitle⟩ := List.mem_map.mp h
    obtain ⟨sent, rfl⟩ := exists_fields_of_mem hitem
    exact hne _ htitle.symm
  | _ => simp [bindables, ofProperties, hne] at h

/-- **A body is well-formed whatever its properties were sent as.** -/
theorem wellFormed_ofProperties (value? : Property → Option Json) (t : ComponentType) :
    (ofProperties value? t).WellFormed where
  type := by rw [type?_ofProperties, typeWord_ofProperties, ComponentType.ofWord?_word]
  template id path h := by
    cases hl : (ofProperties value? t).layout? with
    | none => simp [template?, hl] at h
    | some kids =>
      cases kids with
      | explicit ids => simp [template?, hl] at h
      | template id' path' =>
        obtain ⟨v, hv⟩ := exists_of_layout?_ofProperties hl
        simp only [template?, hl, Option.some.injEq, Prod.mk.injEq] at h
        obtain ⟨rfl, rfl⟩ := h
        exact Children.names_of_ofJson? hv
  bounds n h := isUsable_of_mem_bounds h
  bindables fields := not_mem_bindables value? t fields

end Body

/-! ## Components -/

namespace Component

/-- The component was made of a record: of its properties, or under a name outside the catalog. -/
inductive MadeOf (c : Component) (sent : Fields) : Prop
  | type (t : ComponentType) (h : c = ofRecord t c.id sent)
  | name (name : String) (hname : ComponentType.ofWord? name = none)
    (h : c = ⟨c.id, .unknown name, sent.without ["id", "type"]⟩)

/-- The fields of a record with nothing but an id and a type. -/
def headFields (id type : String) : Fields := [("id", .str id), ("type", .str type)]

/-- A component without properties is made of a record that has none. -/
theorem bare_eq_ofRecord (t : ComponentType) (id : String) : bare t id = ofRecord t id (headFields id t.word) := by
  cases t <;> rfl

/-- **What a parsed component was made of**: of the record as it was sent, or of its id and type only. -/
theorem exists_madeOf_of_parse {v : Json} {c : Component} (h : (parse v).result = .ok (some c)) :
    c.id ≠ "" ∧ ∃ sent : Fields, c.MadeOf sent ∧ sent.namesIntact = true ∧
      (v = .obj sent ∨ ∃ type, sent = headFields c.id type) := by
  cases hid : v.recordId? with
  | none =>
    rw [result_parse_skipped hid] at h
    cases h
  | some id =>
    obtain ⟨fields, rfl⟩ := Json.exists_fields_of_recordId? hid
    obtain ⟨w, -, hw⟩ := Option.bind_eq_some_iff.mp hid
    have hne : id ≠ "" := (Json.eq_of_nonEmptyText? hw).2
    cases ht : fields.type? with
    | some t =>
      rw [result_parse_known hid ht] at h
      by_cases hnames : fields.namesIntact = true
      · rw [if_pos hnames] at h
        cases h
        exact ⟨hne, fields, .type t rfl, hnames, .inl rfl⟩
      · rw [if_neg hnames] at h
        cases h
        exact ⟨hne, _, .type t (bare_eq_ofRecord t id), rfl, .inr ⟨t.word, rfl⟩⟩
    | none =>
      rw [result_parse_unknown hid ht] at h
      obtain ⟨name, hdisplay, h⟩ := Logged.exists_ok_of_bind h
      have hname := Json.ofWord?_of_display ht (Logged.ok_of_ofExcept_mapError hdisplay)
      by_cases hnames : fields.namesIntact = true
      · rw [if_pos hnames] at h
        cases h
        exact ⟨hne, fields, .name name hname rfl, hnames, .inl rfl⟩
      · rw [if_neg hnames] at h
        cases h

/-- The component has an id, and a well-formed body. -/
structure WellFormed (c : Component) : Prop where
  id : c.id ≠ ""
  body : c.body.WellFormed

/-- **Parsed components are well-formed**, whatever the record holds. -/
theorem wellFormed_of_parse {v : Json} {c : Component} (h : (parse v).result = .ok (some c)) : c.WellFormed := by
  obtain ⟨hne, sent, hmade, -, -⟩ := exists_madeOf_of_parse h
  refine ⟨hne, ?_⟩
  cases hmade with
  | type t h =>
    rw [h]
    exact Body.wellFormed_ofProperties sent.property? t
  | name name hname h =>
    rw [h]
    exact Body.wellFormed_unknown hname

end Component

end LiveSurface
