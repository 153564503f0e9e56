import LiveSurface.Proofs.Json.Breakoff
import LiveSurface.Proofs.Json.Writable
import LiveSurface.Proofs.Message.Element
import LiveSurface.Proofs.Surface.Truncation
import Mathlib.Data.String.Basic
/-!
# What escapes the parser of batches

A batch that arrives as text is to be parsed or to be called unprocessable. Three kinds of texts are neither, since an
error gets through: texts that open too many containers for the strict reader, texts whose cut holds an overlong
integer, and batches with a record of an unknown type that has a field whose name is no text.

Before the last of these comes up, the batch must have been read, must be within the limits, and all elements in front
must be structurally valid. A record that is read from a text cannot break off in any other way: the type of an unknown
component is displayed as its name, and whatever was read can be displayed.

Results:
* `Component.parse_fails_iff`, `Message.parsed_of_isWritable`: the ways in which a record and an element can go wrong.
* `Batch.parseElements_escapes_iff`, `Batch.decode_escapes_iff`: what escapes from elements, and from a text.
* `Batch.parse_escapes_iff`: exactly which batches are neither parsed nor called unprocessable.
* `Batch.parse_not_closed`: one that is neither.
-/
namespace LiveSurface

/-- The error does not call the batch unprocessable. -/
def BatchError.Escapes (e : BatchError) : Prop := ∀ fault, e ≠ .unprocessable fault

namespace Logged

variable {α β : Type}

/-- The computation ends in an error that does not call the batch unprocessable. -/
def Escapes (x : Logged BatchError α) : Prop := ∃ e, x.result = .error e ∧ e.Escapes

theorem escapes_of_error {x : Logged BatchError α} {e : BatchError} (h : x.result = .error e) :
    x.Escapes ↔ e.Escapes := by
  constructor
  · rintro ⟨e', he, hescapes⟩
    rw [h] at he
    cases he
    exact hescapes
  · exact fun he => ⟨e, h, he⟩

theorem not_escapes_of_ok {x : Logged BatchError α} {a : α} (h : x.result = .ok a) : ¬x.Escapes :=
  fun ⟨e, he, _⟩ => not_fails_of_ok h ⟨e, he⟩

theorem escapes_bind_iff {x : Logged BatchError α} {f : α → Logged BatchError β} :
    (x >>= f).Escapes ↔ x.Escapes ∨ ∃ a, x.result = .ok a ∧ (f a).Escapes := by
  unfold Escapes
  rw [result_bind]
  cases x.result with
  | error e => simp [Bind.bind, Except.bind]
  | ok a => simp [Bind.bind, Except.bind]

end Logged

theorem BatchError.not_escapes_unprocessable (fault : BatchFault) : ¬(BatchError.unprocessable fault).Escapes :=
  fun h => h fault rfl

/-! ## Records -/

/-- The record of a component outside the catalog that has a field whose name is no text. -/
def Json.IsBrokenRecord (v : Json) : Prop :=
  ∃ fields : Fields, ∃ id, v = .obj fields ∧ (fields.get? ("id" : Key)).bind Json.nonEmptyText? = some id ∧
    ((fields.get? ("type" : Key)).getD .null).text?.bind ComponentType.ofWord? = none ∧ fields.namesIntact = false

theorem Json.exists_display {v : Json} (h : v.isWritable = true) : ∃ name, v.display = .ok name := by
  unfold display
  split
  · exact ⟨_, rfl⟩
  · exact ⟨_, rfl⟩
  · rw [if_pos h]
    exact ⟨_, rfl⟩

theorem Json.isWritable_of_get? {fields : Fields} {key : Key} {v : Json} (h : (Json.obj fields).isWritable = true)
    (hv : fields.get? key = some v) : v.isWritable = true :=
  allFieldInts_iff.mp h _ (Entries.mem_of_get? hv)

/-- A record whose integers can be written breaks off only at a broken name. -/
theorem Component.parse_fails_iff {v : Json} (hw : v.isWritable = true) :
    (Component.parse v).Fails ↔ v.IsBrokenRecord := by
  cases hid : v.recordId? with
  | none =>
    refine iff_of_false (Logged.not_fails_of_ok (result_parse_skipped hid)) ?_
    rintro ⟨fields, id, rfl, hid', -⟩
    cases hid.symm.trans hid'
  | some id =>
    obtain ⟨fields, rfl⟩ := Json.exists_fields_of_recordId? hid
    cases ht : fields.type? with
    | some t =>
      refine iff_of_false (Logged.not_fails_of_ok (result_parse_known hid ht)) ?_
      rintro ⟨_, _, ⟨⟩, -, ht', -⟩
      cases ht.symm.trans ht'
    | none =>
      have hdisplay : ∃ name, ((fields.get? ("type" : Key)).getD .null).display = .ok name := by
        cases hv : fields.get? ("type" : Key) with
        | none => exact ⟨_, rfl⟩
        | some v => exact Json.exists_display (Json.isWritable_of_get? hw hv)
      obtain ⟨name, hname⟩ := hdisplay
      have hr := result_parse_unknown hid ht
      rw [hname] at hr
      cases hnames : fields.namesIntact with
      | true =>
        rw [hnames] at hr
        refine iff_of_false (Logged.not_fails_of_ok hr) ?_
        rintro ⟨_, _, ⟨⟩, -, -, hnames'⟩
        cases hnames.symm.trans hnames'
      | false =>
        rw [hnames] at hr
        exact iff_of_true ⟨_, hr⟩ ⟨fields, id, rfl, hid, ht, hnames⟩

/-! ## Elements -/

/-- A structurally valid element: an object in which the first of the known kinds has an object as payload. -/
def Json.IsElement (v : Json) : Prop :=
  ∃ fields : Fields, ∃ kind others payload, v = .obj fields ∧ Message.kindsOf fields = kind :: others ∧
    fields.get? (kind.word : Key) = some (.obj payload)

theorem Json.isElement_iff {v : Json} : v.IsElement ↔ v.payload?.isSome = true := by
  rw [Option.isSome_iff_exists]
  constructor
  · rintro ⟨fields, kind, others, payload, hv, hkinds, hget⟩
    exact ⟨(kind, payload), payload?_eq_some_iff.mpr ⟨fields, others, hv, hkinds, hget⟩⟩
  · rintro ⟨⟨kind, payload⟩, h⟩
    obtain ⟨fields, others, hv, hkinds, hget⟩ := payload?_eq_some_iff.mp h
    exact ⟨fields, kind, others, payload, hv, hkinds, hget⟩

/-- An element that brings the records of components to a surface. -/
def Json.Brings (v : Json) (records : List Json) : Prop :=
  ∃ fields : Fields, ∃ others, ∃ payload : Fields, ∃ surface, v = .obj fields ∧
    Message.kindsOf fields = .updateComponents :: others ∧
    fields.get? (MessageKind.updateComponents.word : Key) = some (.obj payload) ∧
    (payload.get? ("surfaceId" : Key)).bind Json.nonEmptyText? = some surface ∧
    payload.get? ("components" : Key) = some (.arr records)

/-- An element that brings a broken record. -/
def Json.BringsBroken (v : Json) : Prop := ∃ records, v.Brings records ∧ ∃ r ∈ records, r.IsBrokenRecord

theorem Json.BringsBroken.isElement {v : Json} (h : v.BringsBroken) : v.IsElement := by
  obtain ⟨_, ⟨fields, others, payload, _, hv, hkinds, hpayload, -⟩, -⟩ := h
  exact ⟨fields, .updateComponents, others, payload, hv, hkinds, hpayload⟩

namespace Message

theorem parseComponents_fails_iff {v? : Option Json} : (parseComponents v?).Fails ↔
    ∃ records, v? = some (.arr records) ∧ ∃ r ∈ records, (Component.parse r).Fails := by
  rcases v? with - | v
  · exact iff_of_false (Logged.not_fails_pure _) fun ⟨_, h, _⟩ => nomatch h
  · cases v with
    | arr records =>
      rw [parseComponents, Logged.fails_bind_pure_iff, Logged.fails_mapM_iff]
      constructor
      · exact fun h => ⟨records, rfl, h⟩
      · rintro ⟨_, ⟨⟩, h⟩
        exact h
    | _ => exact iff_of_false (Logged.not_fails_pure _) fun ⟨_, h, _⟩ => nomatch h

theorem ofPayload_fails_iff {surface : String} {payload : Fields} {kind : MessageKind} :
    (ofPayload surface payload kind).Fails ↔
      kind = .updateComponents ∧ (parseComponents (payload.get? ("components" : Key))).Fails := by
  cases kind with
  | updateComponents =>
    rw [ofPayload, Logged.fails_bind_pure_iff]
    exact ⟨fun h => ⟨rfl, h⟩, fun h => h.2⟩
  | _ => exact iff_of_false (Logged.not_fails_pure _) fun ⟨h, _⟩ => nomatch h

/-- What becomes of an element whose integers can be written. -/
inductive Parsed (v : Json) (index : Int) : Prop
  | invalid (h : ¬v.IsElement) (fault : ElementFault) (hr : (parse v index).result = .error (.invalid index fault))
  | broken (h : v.BringsBroken) (e : RecordError) (hr : (parse v index).result = .error (.record e))
  | parsed (he : v.IsElement) (h : ¬v.BringsBroken) (message? : Option Message)
    (hr : (parse v index).result = .ok message?)

section
variable {fields payload : Fields} {kind : MessageKind} {others : List MessageKind}
  (hkinds : kindsOf fields = kind :: others) (hpayload : fields.get? (kind.word : Key) = some (.obj payload))
include hkinds hpayload

theorem records_of_bringsBroken (h : (Json.obj fields).BringsBroken) : kind = .updateComponents ∧
    (∃ surface, (payload.get? ("surfaceId" : Key)).bind Json.nonEmptyText? = some surface) ∧
    ∃ records, payload.get? ("components" : Key) = some (.arr records) ∧ ∃ r ∈ records, r.IsBrokenRecord := by
  obtain ⟨records, ⟨_, others', payload', surface, ⟨⟩, hkinds', hpayload', hsurface, hrecords⟩, hbroken⟩ := h
  obtain ⟨rfl, -⟩ := List.cons.inj (hkinds.symm.trans hkinds')
  obtain rfl := Json.obj.inj (Option.some.inj (hpayload.symm.trans hpayload'))
  exact ⟨rfl, ⟨surface, hsurface⟩, records, hrecords, hbroken⟩

/-- The message of an element breaks off exactly if the element brings a broken record. -/
theorem ofPayload_fails_iff_bringsBroken (hw : (Json.obj fields).isWritable = true) {surface : String}
    (hsurface : (payload.get? ("surfaceId" : Key)).bind Json.nonEmptyText? = some surface) :
    (ofPayload surface payload kind).Fails ↔ (Json.obj fields).BringsBroken := by
  have hrecord : ∀ records, payload.get? ("components" : Key) = some (.arr records) → ∀ r ∈ records,
      r.isWritable = true := by
    intro records hrecords r hr
    have harr := Json.isWritable_of_get? (Json.isWritable_of_get? hw hpayload) hrecords
    exact Json.allItemInts_iff.mp harr r hr
  rw [ofPayload_fails_iff, parseComponents_fails_iff]
  constructor
  · rintro ⟨rfl, records, hrecords, r, hr, hfails⟩
    have hbroken := (Component.parse_fails_iff (hrecord records hrecords r hr)).mp hfails
    exact ⟨records, ⟨fields, others, payload, surface, rfl, hkinds, hpayload, hsurface, hrecords⟩, r, hr, hbroken⟩
  · intro h
    obtain ⟨rfl, -, records, hrecords, r, hr, hbroken⟩ := records_of_bringsBroken hkinds hpayload h
    have hfails := (Component.parse_fails_iff (hrecord records hrecords r hr)).mpr hbroken
    exact ⟨rfl, records, hrecords, r, hr, hfails⟩

end

/-- An element whose integers can be written is invalid, brings a broken record, or is parsed. -/
theorem parsed_of_isWritable {v : Json} (hw : v.isWritable = true) (index : Int) : Parsed v index := by
  cases hp : v.payload? with
  | none =>
    obtain ⟨fault, hr⟩ := parse_of_payload?_none hp index
    refine .invalid (fun h => ?_) fault hr
    have hsome := Json.isElement_iff.mp h
    rw [hp] at hsome
    cases hsome
  | some p =>
    obtain ⟨kind, payload⟩ := p
    obtain ⟨fields, others, rfl, hkinds, hget⟩ := Json.payload?_eq_some_iff.mp hp
    have helement : (Json.obj fields).IsElement := ⟨fields, kind, others, payload, rfl, hkinds, hget⟩
    cases hsurface : payload.surface? with
    | none =>
      refine .parsed helement (fun h => ?_) none (parse_of_surface?_none hp hsurface index)
      obtain ⟨-, ⟨surface, hsome⟩, -⟩ := records_of_bringsBroken hkinds hget h
      cases hsurface.symm.trans hsome
    | some surface =>
      have hparse := parse_of_surface? hp hsurface index
      have hbroken := ofPayload_fails_iff_bringsBroken hkinds hget hw hsurface
      cases hm : (ofPayload surface payload kind).result with
      | error e =>
        refine .broken (hbroken.mp ⟨e, hm⟩) e ?_
        rw [hparse, Logged.result_map, Logged.mapError, hm]
        rfl
      | ok m =>
        refine .parsed helement (fun h => Logged.not_fails_of_ok hm (hbroken.mpr h)) (some m) ?_
        rw [hparse, Logged.result_map, Logged.mapError, hm]
        rfl

end Message

/-! ## Batches -/

namespace Batch

/-- The batch holds a broken record, and all elements in front of it are structurally valid. -/
def HoldsBroken (elements : List Json) : Prop :=
  ∃ above v below, elements = above ++ v :: below ∧ (∀ a ∈ above, a.IsElement) ∧ v.BringsBroken

theorem holdsBroken_cons_iff {v : Json} {rest : List Json} :
    HoldsBroken (v :: rest) ↔ v.BringsBroken ∨ v.IsElement ∧ HoldsBroken rest := by
  constructor
  · rintro ⟨above, w, below, hsplit, habove, hw⟩
    cases above with
    | nil =>
      obtain ⟨rfl, -⟩ := List.cons.inj hsplit
      exact .inl hw
    | cons a above =>
      obtain ⟨rfl, rfl⟩ := List.cons.inj hsplit
      obtain ⟨ha, habove⟩ := List.forall_mem_cons.mp habove
      exact .inr ⟨ha, above, w, below, rfl, habove, hw⟩
  · rintro (hv | ⟨hv, above, w, below, rfl, habove, hw⟩)
    · exact ⟨[], v, rest, rfl, (fun _ ha => nomatch ha), hv⟩
    · exact ⟨v :: above, w, below, rfl, List.forall_mem_cons.mpr ⟨hv, habove⟩, hw⟩

/-- What escapes from elements is a broken record that comes before all invalid elements. -/
theorem parseElements_escapes_iff {elements : List Json} (hw : ∀ v ∈ elements, v.isWritable = true) (index : Int) :
    (parseElements index elements).Escapes ↔ HoldsBroken elements := by
  induction elements generalizing index with
  | nil =>
    refine iff_of_false (Logged.not_escapes_of_ok rfl) ?_
    rintro ⟨above, v, below, hsplit, -⟩
    cases above <;> cases hsplit
  | cons v rest ih =>
    obtain ⟨hv, hrest⟩ := List.forall_mem_cons.mp hw
    rw [holdsBroken_cons_iff, parseElements, Logged.escapes_bind_iff]
    cases Message.parsed_of_isWritable hv index with
    | invalid h fault hr =>
      have hfirst : ((Message.parse v index).mapError ofElementError).result =
          .error (.unprocessable (.element index fault)) := by
        simp only [Logged.mapError, hr]
        rfl
      refine iff_of_false ?_ ?_
      · rintro (hescapes | ⟨_, hok, -⟩)
        · exact BatchError.not_escapes_unprocessable _ ((Logged.escapes_of_error hfirst).mp hescapes)
        · rw [hfirst] at hok
          cases hok
      · rintro (hbroken | ⟨helement, -⟩)
        · exact h hbroken.isElement
        · exact h helement
    | broken h e hr =>
      refine iff_of_true (.inl ?_) (.inl h)
      cases e with
      | longNumeral k =>
        refine ⟨.longNumeral k, ?_, fun _ => nofun⟩
        simp only [Logged.mapError, hr]
        rfl
      | brokenName =>
        refine ⟨.brokenName, ?_, fun _ => nofun⟩
        simp only [Logged.mapError, hr]
        rfl
    | parsed he h message? hr =>
      have hfirst : ((Message.parse v index).mapError ofElementError).result = .ok message? := by
        simp only [Logged.mapError, hr]
        rfl
      constructor
      · rintro (hescapes | ⟨_, -, hescapes⟩)
        · exact absurd hescapes (Logged.not_escapes_of_ok hfirst)
        · rcases Logged.escapes_bind_iff.mp hescapes with hescapes | ⟨_, -, hescapes⟩
          · exact .inr ⟨he, (ih hrest (index + 1)).mp hescapes⟩
          · exact absurd hescapes (Logged.not_escapes_of_ok rfl)
      · rintro (hbroken | ⟨-, hbroken⟩)
        · exact absurd hbroken h
        · exact .inr ⟨message?, hfirst, Logged.escapes_bind_iff.mpr (.inl ((ih hrest (index + 1)).mpr hbroken))⟩

/-- The elements of a batch are not too many and not too deep. -/
def IsWithin (settings : Settings) (elements : List Json) : Prop :=
  elements.length ≤ settings.maxMessages ∧ (Json.arr elements).exceedsDepth settings.maxJsonDepth 0 = false

theorem not_escapes_refuse {α : Type} (event : Event) (fault : BatchFault) :
    ¬(refuse event fault : Logged BatchError α).Escapes := by
  have hr : (refuse event fault : Logged BatchError α).result = .error (.unprocessable fault) := rfl
  rw [Logged.escapes_of_error hr]
  exact BatchError.not_escapes_unprocessable fault

section
variable {settings : Settings} {elements : List Json}

/-- Within the limits, a batch ends as its elements do. -/
theorem parseValue_of_isWithin (h : IsWithin settings elements) :
    (parseValue settings (.arr elements)).result = (parseElements 0 elements).result := by
  rw [parseValue, if_neg (Nat.not_lt_of_le h.1), h.2, if_neg Bool.false_ne_true, Logged.result_bind]
  cases (parseElements 0 elements).result <;> rfl

theorem parseValue_of_not_isWithin (h : ¬IsWithin settings elements) :
    ∃ fault ∈ [BatchFault.tooLong elements.length settings.maxMessages, .tooDeep settings.maxJsonDepth],
      (parseValue settings (.arr elements)).result = .error (.unprocessable fault) := by
  rw [parseValue]
  split
  · exact ⟨_, List.mem_cons_self, rfl⟩
  split
  · exact ⟨_, List.mem_cons_of_mem _ List.mem_cons_self, rfl⟩
  · next hlen hdeep => exact absurd ⟨Nat.le_of_not_lt hlen, by simpa using hdeep⟩ h

end

theorem parseValue_escapes_iff {settings : Settings} {v : Json} (hw : v.isWritable = true) :
    (parseValue settings v).Escapes ↔
      ∃ elements, v = .arr elements ∧ IsWithin settings elements ∧ HoldsBroken elements := by
  cases v with
  | arr elements =>
    have hiff : (∃ es, Json.arr elements = .arr es ∧ IsWithin settings es ∧ HoldsBroken es) ↔
        IsWithin settings elements ∧ HoldsBroken elements := by
      constructor
      · rintro ⟨_, ⟨⟩, h⟩
        exact h
      · exact fun h => ⟨elements, rfl, h⟩
    rw [hiff]
    by_cases hwithin : IsWithin settings elements
    · rw [and_iff_right hwithin, ← parseElements_escapes_iff (Json.allItemInts_iff.mp hw) 0, Logged.Escapes,
        parseValue_of_isWithin hwithin]
      rfl
    · refine iff_of_false ?_ fun h => hwithin h.1
      obtain ⟨fault, -, hr⟩ := parseValue_of_not_isWithin hwithin
      rw [Logged.escapes_of_error hr]
      exact BatchError.not_escapes_unprocessable fault
  | _ => exact iff_of_false (not_escapes_refuse _ _) fun ⟨_, h, _⟩ => nomatch h

section
variable {settings : Settings} {text : String}

theorem decode_of_oversize (h : settings.maxBatchBytes < text.utf8ByteSize) :
    (decode settings text).result =
      .error (.unprocessable (.oversize ⟨"Message batch", text.utf8ByteSize, settings.maxBatchBytes⟩)) := by
  have hsize : (settings.maxBatchBytes : Int) < text.utf8ByteSize := by omega
  simp only [decode, Json.checkSize, if_pos hsize]
  rfl

theorem decode_escapes_iff : (decode settings text).Escapes ↔
    text.utf8ByteSize ≤ settings.maxBatchBytes ∧ Json.BreaksSearch (Json.stripFenceChars text.toList) := by
  by_cases hle : text.utf8ByteSize ≤ settings.maxBatchBytes
  · have hsize : ¬(settings.maxBatchBytes : Int) < text.utf8ByteSize := by omega
    rw [and_iff_right hle, ← Json.extractChars_breaks_iff]
    simp only [decode, Json.checkSize, if_neg hsize, Json.extract]
    cases hx : Json.extractChars false (Json.stripFenceChars text.toList) with
    | ok v => simpa using Logged.not_escapes_of_ok rfl
    | error e =>
      cases e with
      | overflow => exact iff_of_true ⟨_, rfl, fun _ => nofun⟩ (.inl rfl)
      | longNumeral k => exact iff_of_true ⟨_, rfl, fun _ => nofun⟩ (.inr ⟨k, rfl⟩)
      | _ => exact iff_of_false (not_escapes_refuse _ _) (by simp)
  · refine iff_of_false ?_ fun h => hle h.1
    rw [Logged.escapes_of_error (decode_of_oversize (Nat.lt_of_not_le hle))]
    exact BatchError.not_escapes_unprocessable _

theorem decode_ok_iff {v : Json} : (decode settings text).result = .ok v ↔
    text.utf8ByteSize ≤ settings.maxBatchBytes ∧ Json.extract text false = .ok v := by
  by_cases hle : text.utf8ByteSize ≤ settings.maxBatchBytes
  · have hsize : ¬(settings.maxBatchBytes : Int) < text.utf8ByteSize := by omega
    rw [and_iff_right hle]
    refine ⟨extract_of_decode, fun h => ?_⟩
    simp only [decode, Json.checkSize, if_neg hsize, h]
    rfl
  · refine iff_of_false (fun h => ?_) fun h => hle h.1
    rw [decode_of_oversize (Nat.lt_of_not_le hle)] at h
    cases h

end

/-- What is found in a text can be written. -/
theorem isWritable_of_extract {text : String} {v : Json} (h : Json.extract text false = .ok v) :
    v.isWritable = true := by
  unfold Json.extract Json.extractChars at h
  split at h
  · cases h
  split at h
  · next w hw =>
    cases h
    exact Json.isWritable_of_readChars hw
  · cases h
  split at h
  · cases h
  · obtain ⟨d, hd⟩ := Json.exists_readChars_of_decodeCut h
    exact Json.isWritable_of_readChars hd

theorem validate_fails_iff (settings : Settings) (raw : RawBatch) :
    (validate settings raw).Fails ↔ (parse settings raw).Escapes := by
  cases hp : (parse settings raw).result with
  | ok messages =>
    have hr : (validate settings raw).result = .ok (.ok messages) := by simp only [validate, hp]
    exact iff_of_false (Logged.not_fails_of_ok hr) (Logged.not_escapes_of_ok hp)
  | error e =>
    rw [Logged.escapes_of_error hp]
    cases e with
    | unprocessable fault =>
      have hr : (validate settings raw).result = .ok (.error fault.report) := by simp only [validate, hp]
      exact iff_of_false (Logged.not_fails_of_ok hr) (BatchError.not_escapes_unprocessable fault)
    | _ => exact iff_of_true ⟨_, by simp only [validate, hp]; rfl⟩ fun _ => nofun

/-- **What escapes the parser.** A batch that arrives as text is parsed or called unprocessable, unless its text is
within the limit and either breaks off the search for a value, or is an array within the limits that holds a broken
record. Exactly then its validation fails, too, instead of reporting a fault. -/
theorem parse_escapes_iff (settings : Settings) {raw : RawBatch} {text : String} (ht : raw.text? = some text) :
    ((parse settings raw).Escapes ↔ text.utf8ByteSize ≤ settings.maxBatchBytes ∧
      (Json.BreaksSearch (Json.stripFenceChars text.toList) ∨
        ∃ elements, Json.extract text false = .ok (.arr elements) ∧ IsWithin settings elements ∧
          HoldsBroken elements)) ∧
      ((validate settings raw).Fails ↔ (parse settings raw).Escapes) := by
  refine ⟨?_, validate_fails_iff settings raw⟩
  rw [parse, value_of_text? ht, Logged.escapes_bind_iff, decode_escapes_iff, and_or_left]
  refine or_congr_right ?_
  simp only [decode_ok_iff]
  constructor
  · rintro ⟨v, ⟨hsize, hx⟩, hescapes⟩
    obtain ⟨elements, rfl, hrest⟩ := (parseValue_escapes_iff (isWritable_of_extract hx)).mp hescapes
    exact ⟨hsize, elements, hx, hrest⟩
  · rintro ⟨hsize, elements, hx, hrest⟩
    have hescapes := (parseValue_escapes_iff (isWritable_of_extract hx)).mpr ⟨elements, rfl, hrest⟩
    exact ⟨.arr elements, ⟨hsize, hx⟩, hescapes⟩

/-! ## Batches that escape -/

/-- An unknown component that has a field whose name is half of a surrogate pair. -/
def brokenText : String :=
  "[\x7b\"updateComponents\": \x7b\"surfaceId\": \"main\", " ++
    "\"components\": [\x7b\"id\": \"a\", \"type\": \"X\", \"\\ud800\": 1\x7d]\x7d\x7d]"

/-- The record of that component. -/
def brokenRecord : Json := .obj [("id", .str "a"), ("type", .str "X"), (⟨"\uFFFD", false⟩, .num (.int 1))]

def brokenElement : Json :=
  .ofFields [("updateComponents", .ofFields [("surfaceId", .str "main"), ("components", .arr [brokenRecord])])]

theorem isBrokenRecord_brokenRecord : brokenRecord.IsBrokenRecord := ⟨_, "a", rfl, rfl, rfl, rfl⟩

theorem bringsBroken_brokenElement : brokenElement.BringsBroken :=
  ⟨[brokenRecord], ⟨_, [], _, "main", rfl, rfl, rfl, rfl, rfl⟩, brokenRecord, List.mem_singleton_self _,
    isBrokenRecord_brokenRecord⟩

/-- Nothing is wrong with the element, and yet validation fails. -/
theorem parse_escapes_iff_brokenText :
    (RawBatch.text brokenText).text? = some brokenText ∧ (parse {} (.text brokenText)).Escapes ∧
      (validate {} (.text brokenText)).Fails := by
  have ht : (RawBatch.text brokenText).text? = some brokenText := rfl
  have hx : Json.extract brokenText false = .ok (.arr [brokenElement]) := by rfl
  obtain ⟨hescapes, hvalidate⟩ := parse_escapes_iff {} ht
  have h : (parse {} (.text brokenText)).Escapes := by
    refine hescapes.mpr ⟨by decide, .inr ⟨[brokenElement], hx, ⟨by decide, by decide⟩, ?_⟩⟩
    exact ⟨[], brokenElement, [], rfl, (fun _ ha => nomatch ha), bringsBroken_brokenElement⟩
  exact ⟨ht, h, hvalidate.mpr h⟩

/-- An array of one integer that is one digit too long. -/
def overlongNumber : String := String.ofList ('[' :: (Json.overlongDigits ++ [']']))

theorem utf8ByteSize_le (cs : List Char) : (String.ofList cs).utf8ByteSize ≤ 4 * cs.length := by
  rw [String.utf8ByteSize_ofList]
  induction cs with
  | nil => exact Nat.zero_le _
  | cons c rest ih =>
    have hc : c.utf8Size ≤ 4 := c.utf8Size_le_four
    rw [String.utf8Len_cons, List.length_cons]
    omega

/-- **Counterexample**: a batch that is neither parsed nor called unprocessable. -/
theorem parse_not_closed : ¬∀ (settings : Settings) (raw : RawBatch) (text : String), raw.text? = some text →
    (∃ messages, (parse settings raw).result = .ok messages) ∨
      ∃ fault, (parse settings raw).result = .error (.unprocessable fault) := by
  intro hclosed
  have hsize : overlongNumber.utf8ByteSize ≤ ({} : Settings).maxBatchBytes := by
    refine (utf8ByteSize_le _).trans ?_
    rw [List.length_cons, List.length_append, Json.length_overlongDigits]
    decide
  have hbreaks : Json.BreaksSearch (Json.stripFenceChars overlongNumber.toList) := by
    rw [overlongNumber, String.toList_ofList]
    exact Json.breaksSearch_of_brackets (Json.breaks_overlongDigits .lenient)
  have hdecode : (decode {} overlongNumber).Escapes := decode_escapes_iff.mpr ⟨hsize, hbreaks⟩
  have hescapes : (parse {} (.text overlongNumber)).Escapes := Logged.escapes_bind_iff.mpr (.inl hdecode)
  rcases hclosed {} (.text overlongNumber) overlongNumber rfl with ⟨messages, hok⟩ | ⟨fault, herror⟩
  · exact Logged.not_escapes_of_ok hok hescapes
  · exact BatchError.not_escapes_unprocessable fault ((Logged.escapes_of_error herror).mp hescapes)

end Batch

end LiveSurface
