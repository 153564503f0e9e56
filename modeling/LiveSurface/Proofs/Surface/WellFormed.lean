import LiveSurface.Proofs.Component.WellFormed
import LiveSurface.Proofs.Message.Element
import LiveSurface.Proofs.Surface.Keyed
/-!
# Well-formed stores

Drawing relies on what a store holds without asking again: that surfaces and components stand under their own ids and
have any, and that components are well-formed. Parsing sees to this once, for every record of every message; from then on
components are moved, but not changed. A batch that fails on the way has been parsed as well.

Results:
* `Batch.wellFormed_of_parse`: parsed messages are well-formed.
* `Message.act_wellFormed`: what a message makes of a surface.
* `Store.Reachable.wellFormed`: reachable stores are well-formed.
-/
namespace LiveSurface

/-! ## Messages -/

/-- The message names a surface, and brings well-formed components only. -/
structure Message.WellFormed (m : Message) : Prop where
  surface : m.surface ≠ ""
  components : ∀ surface components, m = .updateComponents surface components → ∀ c ∈ components, c.WellFormed

namespace Message

theorem wellFormed_of_parseComponents {v? : Option Json} {components : List Component}
    (h : (parseComponents v?).result = .ok components) : ∀ c ∈ components, c.WellFormed := by
  unfold parseComponents at h
  split at h
  · obtain ⟨parsed, hparsed, h⟩ := Logged.exists_ok_of_bind h
    cases h
    intro c hc
    obtain ⟨c?, hmem, hsome⟩ := List.mem_filterMap.mp hc
    obtain ⟨record, -, hrecord⟩ := Logged.exists_of_mem_mapM hparsed c? hmem
    obtain rfl : c? = some c := hsome
    exact Component.wellFormed_of_parse hrecord
  · cases h
    exact fun _ hc => nomatch hc

theorem wellFormed_of_ofPayload {surface : String} {payload : Fields} {kind : MessageKind} {m : Message}
    (hne : surface ≠ "") (h : (ofPayload surface payload kind).result = .ok m) : m.WellFormed := by
  cases kind with
  | createSurface =>
    cases h
    exact ⟨hne, nofun⟩
  | updateComponents =>
    obtain ⟨components, hcomponents, h⟩ := Logged.exists_ok_of_bind h
    cases h
    refine ⟨hne, ?_⟩
    rintro _ _ ⟨⟩
    exact wellFormed_of_parseComponents hcomponents
  | updateDataModel =>
    cases h
    exact ⟨hne, nofun⟩
  | deleteSurface =>
    cases h
    exact ⟨hne, nofun⟩

theorem wellFormed_of_parse {v : Json} {index : Int} {m : Message} (h : (parse v index).result = .ok (some m)) :
    m.WellFormed := by
  obtain ⟨_, payload, kind, surface, -, -, -, hne, hmessage⟩ := exists_payload_of_parse h
  exact wellFormed_of_ofPayload hne hmessage

end Message

/-- **Parsed messages are well-formed.** -/
theorem Batch.wellFormed_of_parse {settings : Settings} {raw : RawBatch} {messages : List Message}
    (h : (parse settings raw).result = .ok messages) : ∀ m ∈ messages, m.WellFormed := by
  intro m hm
  obtain ⟨_, -, -, v, -, index, hparse⟩ := exists_element_of_mem_parse h hm
  exact Message.wellFormed_of_parse hparse

/-! ## Surfaces -/

/-- All components of the surface are well-formed. -/
def Surface.WellFormed (s : Surface) : Prop := ∀ e ∈ s.components, e.2.WellFormed

theorem Surface.WellFormed.upsert {s : Surface} (h : s.WellFormed) {components : List Component}
    (hc : ∀ c ∈ components, c.WellFormed) : (s.upsert components).WellFormed := by
  unfold Surface.upsert
  induction components generalizing s with
  | nil => exact h
  | cons c rest ih =>
    obtain ⟨hfirst, hrest⟩ := List.forall_mem_cons.mp hc
    have hput : WellFormed { s with components := s.components.put c.id c } := by
      intro e he
      rcases Entries.mem_put he with he | rfl
      · exact h e he
      · exact hfirst
    exact ih hput hrest

/-- What a well-formed message makes of a well-formed surface is well-formed. -/
theorem Message.act_wellFormed {settings : Settings} {m : Message} {s? : Option Surface} {s' : Surface}
    (hm : m.WellFormed) (h : ∀ s, s? = some s → s.WellFormed) (ha : m.act settings s? = .ok (some s')) :
    s'.WellFormed := by
  cases m with
  | createSurface id catalog =>
    cases ha
    exact fun _ he => nomatch he
  | updateComponents id components =>
    simp only [act, Except.ok.injEq, Option.map_eq_some_iff] at ha
    obtain ⟨s, hs, rfl⟩ := ha
    exact (h s hs).upsert (hm.components id components rfl)
  | updateDataModel id path op value =>
    rcases act_update_cases ha with ⟨-, hs⟩ | ⟨s, r, data, rfl, -, -, hs⟩
    · exact h s' hs.symm
    · cases hs
      exact h s rfl
  | deleteSurface id => cases ha

/-! ## Stores -/

/-- Surfaces and components stand under their own ids, which are not empty, and the components are well-formed. -/
structure Store.WellFormed (store : Store) : Prop where
  keyed : store.Keyed
  named : ∀ e ∈ store.surfaces, e.1 ≠ ""
  surfaces : ∀ e ∈ store.surfaces, e.2.WellFormed

namespace Store

theorem wellFormed_empty : Store.empty.WellFormed :=
  ⟨keyed_empty, (fun _ he => nomatch he), fun _ he => nomatch he⟩

/-- A well-formed message keeps a store well-formed. -/
theorem WellFormed.act {settings : Settings} {store : Store} {m : Message} {s? : Option Surface}
    (h : store.WellFormed) (hm : m.WellFormed) (ha : m.act settings (store.surface? m.surface) = .ok s?) :
    (store.place m.surface s?).WellFormed where
  keyed := h.keyed.act ha
  named e he := by
    rcases mem_place he with he | ⟨s, -, rfl⟩
    · exact h.named e he
    · exact hm.surface
  surfaces e he := by
    rcases mem_place he with he | ⟨s, rfl, rfl⟩
    · exact h.surfaces e he
    · exact Message.act_wellFormed hm (fun s hs => h.surfaces _ (Entries.mem_of_get? hs)) ha

/-- **Reachable stores are well-formed**: whatever the batches hold, and whether they fail or not, all that drawing relies
on holds of what they leave in the store. -/
theorem Reachable.wellFormed {store : Store} (h : store.Reachable) : store.WellFormed :=
  h.induct wellFormed_empty fun _ _ _ _ m _ hparse hmem hw ha => hw.act (Batch.wellFormed_of_parse hparse m hmem) ha

/-- Records that cannot be used as they are: one without an id, one of a type that is no text, and others with
properties of the wrong form. -/
def oddRecords : List Json :=
  [.ofFields [("id", .str ""), ("type", .str "Text")],
    .ofFields [("id", .str "flag"), ("type", .bool true)],
    .ofFields [("id", .str "row"), ("type", .str "Row"), ("children", .ofFields [("template",
      .ofFields [("componentId", .str ""), ("dataBinding", .str "items")])])],
    .ofFields [("id", .str "slider"), ("type", .str "Slider"), ("min_value", .bool true), ("value", .ofFields [])]]

def oddBatch : Json :=
  .arr [.ofFields [("createSurface", .ofFields [("surfaceId", .str "main")])],
    .ofFields [("updateComponents", .ofFields [("surfaceId", .str "main"), ("components", .arr oddRecords)])]]

theorem Reachable.wellFormed_oddBatch :
    let store := (Store.empty.applyBatch {} (.decoded oddBatch)).1
    store.Reachable ∧ store.WellFormed ∧ (store.surface? "main").map (·.components) = some
      [("flag", ⟨"flag", .unknown "True", []⟩),
        ("row", ⟨"row", .row (some none) none none, []⟩),
        ("slider", ⟨"slider", .slider (some (.bound {})) (some none) none, []⟩)] := by
  intro store
  have hreachable : store.Reachable := .applyBatch {} (.decoded oddBatch) .empty
  exact ⟨hreachable, hreachable.wellFormed, rfl⟩

end Store

end LiveSurface
