import LiveSurface.Message.Batch
/-!
# Where parsed messages come from

Every message of a parsed batch was made of one element of it: an object that carries a payload with the surface's id
under the name of the message's kind. The batch has no more elements than allowed and keeps within the limit of nesting.

Results:
* `Json.payload?_perm`: the payload of an element does not depend on the order of its fields.
* `Message.parse_of_payload?_none`, `Message.parse_of_surface?_none`, `Message.parse_of_surface?`: the parser on an
  element, by its payload and the surface that it names.
* `Message.exists_payload_of_parse`: what an element looks like that became a message.
* `Batch.exists_element_of_mem_parse`: the element behind a parsed message.
-/
namespace LiveSurface

/-! ## Payloads -/

/-- The first of the known kinds that an element has, with its payload, if that is an object. -/
def Json.payload? : Json → Option (MessageKind × Fields)
  | .obj fields =>
    (MessageKind.all.find? fun kind => Entries.contains (κ := Key) fields kind.word).bind fun kind =>
      ((Entries.get? (κ := Key) fields kind.word).bind Json.fields?).map fun payload => (kind, payload)
  | _ => none

/-- The surface that a payload names. -/
def Fields.surface? (payload : Fields) : Option String := (payload.get? ("surfaceId" : Key)).bind Json.nonEmptyText?

theorem Json.payload?_eq_some_iff {v : Json} {kind : MessageKind} {payload : Fields} :
    v.payload? = some (kind, payload) ↔ ∃ fields : Fields, ∃ others, v = .obj fields ∧
      Message.kindsOf fields = kind :: others ∧ fields.get? (kind.word : Key) = some (.obj payload) := by
  cases v with
  | obj fields =>
    have hfirst : (MessageKind.all.find? fun kind => Entries.contains (κ := Key) fields kind.word) =
        (Message.kindsOf fields).head? := List.head?_filter.symm
    rw [payload?, hfirst]
    constructor
    · intro h
      obtain ⟨first, hhead, h⟩ := Option.bind_eq_some_iff.mp h
      obtain ⟨found, hfound, h⟩ := Option.map_eq_some_iff.mp h
      obtain ⟨rfl, rfl⟩ := Prod.mk.inj h
      obtain ⟨w, hw, hfields⟩ := Option.bind_eq_some_iff.mp hfound
      obtain ⟨others, hkinds⟩ := List.head?_eq_some_iff.mp hhead
      exact ⟨fields, others, rfl, hkinds, eq_of_fields? hfields ▸ hw⟩
    · rintro ⟨_, others, ⟨⟩, hkinds, hget⟩
      rw [hkinds, List.head?_cons, Option.bind_some, hget]
      rfl
  | _ => exact iff_of_false (fun h => nomatch h) fun ⟨_, _, h, _⟩ => nomatch h

/-- The order of an element's fields does not matter. -/
theorem Json.payload?_perm {fields fields' : Fields} (h : fields.Perm fields') (hm : fields.keys.Nodup) :
    (Json.obj fields).payload? = (Json.obj fields').payload? := by
  simp only [payload?, Entries.contains, Entries.get?_perm h hm]

namespace Message

/-- An element without a payload is invalid. -/
theorem parse_of_payload?_none {v : Json} (h : v.payload? = none) (index : Int) :
    ∃ fault, (parse v index).result = .error (.invalid index fault) := by
  cases v with
  | obj fields =>
    cases hkinds : kindsOf fields with
    | nil =>
      refine ⟨.noKind, ?_⟩
      simp only [parse, hkinds]
      rfl
    | cons kind others =>
      cases hpayload : (Entries.get? (κ := Key) fields kind.word).bind Json.fields? with
      | none =>
        refine ⟨.payloadNotAnObject kind, ?_⟩
        simp only [parse, hkinds, hpayload, Logged.result_ite_emit]
        rfl
      | some payload =>
        obtain ⟨w, hget, hfields⟩ := Option.bind_eq_some_iff.mp hpayload
        rw [Json.eq_of_fields? hfields] at hget
        rw [Json.payload?_eq_some_iff.2 ⟨fields, others, rfl, hkinds, hget⟩] at h
        cases h
  | _ => exact ⟨_, rfl⟩

section
variable {v : Json} {kind : MessageKind} {payload : Fields} (h : v.payload? = some (kind, payload))
include h

/-- An element whose payload names no surface is dropped. -/
theorem parse_of_surface?_none (hs : payload.surface? = none) (index : Int) : (parse v index).result = .ok none := by
  obtain ⟨fields, others, rfl, hkinds, hget⟩ := Json.payload?_eq_some_iff.1 h
  have hid : (payload.get? ("surfaceId" : Key)).bind Json.nonEmptyText? = none := hs
  simp only [parse, hkinds, hget, Option.bind_some, Json.fields?, hid, Logged.result_ite_emit]
  rfl

/-- An element whose payload names a surface becomes the message of its kind. -/
theorem parse_of_surface? {surface : String} (hs : payload.surface? = some surface) (index : Int) :
    (parse v index).result = (some <$> (ofPayload surface payload kind).mapError ElementError.record).result := by
  obtain ⟨fields, others, rfl, hkinds, hget⟩ := Json.payload?_eq_some_iff.1 h
  have hid : (payload.get? ("surfaceId" : Key)).bind Json.nonEmptyText? = some surface := hs
  simp only [parse, hkinds, hget, Option.bind_some, Json.fields?, hid, Logged.result_ite_emit]
  rfl

end

/-- The element behind a message: an object that carries a payload under the name of the kind, and in the payload the id
of a surface. -/
theorem exists_payload_of_parse {v : Json} {index : Int} {m : Message}
    (h : (parse v index).result = .ok (some m)) : ∃ (fields payload : Fields) (kind : MessageKind) (surface : String),
      v = .obj fields ∧ fields.get? (kind.word : Key) = some (.obj payload) ∧
        payload.get? ("surfaceId" : Key) = some (.str surface) ∧ surface ≠ "" ∧
        (ofPayload surface payload kind).result = .ok m := by
  cases hpayload : v.payload? with
  | none =>
    obtain ⟨fault, hr⟩ := parse_of_payload?_none hpayload index
    rw [hr] at h
    cases h
  | some p =>
    obtain ⟨kind, payload⟩ := p
    obtain ⟨fields, _, hv, -, hget⟩ := Json.payload?_eq_some_iff.1 hpayload
    cases hsurface : payload.surface? with
    | none =>
      rw [parse_of_surface?_none hpayload hsurface] at h
      cases h
    | some surface =>
      rw [parse_of_surface? hpayload hsurface] at h
      obtain ⟨message, hmessage, h⟩ := Logged.exists_ok_of_bind h
      cases h
      obtain ⟨w, hid, hw⟩ := Option.bind_eq_some_iff.mp hsurface
      obtain ⟨rfl, hne⟩ := Json.eq_of_nonEmptyText? hw
      exact ⟨fields, payload, kind, surface, hv, hget, hid, hne, Logged.ok_of_mapError hmessage⟩

end Message

namespace Batch

theorem exists_element_of_mem_parseElements {index : Int} {elements : List Json} {messages : List Message}
    (h : (parseElements index elements).result = .ok messages) {m : Message} (hm : m ∈ messages) :
    ∃ v ∈ elements, ∃ index, (Message.parse v index).result = .ok (some m) := by
  induction elements generalizing index messages with
  | nil =>
    cases h
    cases hm
  | cons v rest ih =>
    obtain ⟨message?, hfirst, h⟩ := Logged.exists_ok_of_bind h
    obtain ⟨others, hrest, h⟩ := Logged.exists_ok_of_bind h
    cases h
    rcases List.mem_append.mp hm with hm | hm
    · obtain rfl : message? = some m := Option.mem_toList.mp hm
      exact ⟨v, List.mem_cons_self, index, Logged.ok_of_mapError hfirst⟩
    · obtain ⟨w, hw, index, hparse⟩ := ih hrest hm
      exact ⟨w, List.mem_cons_of_mem v hw, index, hparse⟩

/-- **The element behind a parsed message**, in an array that keeps within the limits. -/
theorem exists_element_of_mem_parse {settings : Settings} {raw : RawBatch} {messages : List Message}
    (h : (parse settings raw).result = .ok messages) {m : Message} (hm : m ∈ messages) :
    ∃ elements, elements.length ≤ settings.maxMessages ∧
      (Json.arr elements).exceedsDepth settings.maxJsonDepth 0 = false ∧
      ∃ v ∈ elements, ∃ index, (Message.parse v index).result = .ok (some m) := by
  obtain ⟨v, -, h⟩ := Logged.exists_ok_of_bind h
  unfold parseValue at h
  split at h
  · next elements =>
    split at h
    · cases h
    · next hlen =>
      split at h
      · cases h
      · next hdeep =>
        obtain ⟨parsed, hparsed, h⟩ := Logged.exists_ok_of_bind h
        cases h
        exact ⟨elements, Nat.le_of_not_lt hlen, by simpa using hdeep, exists_element_of_mem_parseElements hparsed hm⟩
  · cases h

end Batch

end LiveSurface
