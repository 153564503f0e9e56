import LiveSurface.Proofs.Surface.Run
/-!
# What a failing batch leaves behind

A batch that cannot be parsed changes nothing. Once a batch is being applied, nothing is taken back: a message
that breaks off leaves the messages before it applied. Only one thing breaks off, an update of a data model
whose path goes on at an array with an index of more than `maxDigits` digits.

Results:
* `Message.act_error_iff`: a message fails exactly if it breaks off.
* `Store.applyBatch_leaves_changes_iff`: exactly which failing batches leave changes behind.
* `Store.applyBatch_not_atomic`: one that does.
-/
namespace LiveSurface

/-- A change of the data model of a live surface whose path meets an overlong index there. -/
def Message.BreaksOff (m : Message) (store : Store) : Prop :=
  ∃ id path op value s r, m = .updateDataModel id path op value ∧ store.surface? id = some s ∧
    Revision.ofUpdate? path op value = some r ∧ s.dataModel.MeetsLongIndex (Path.segments r.path)

theorem Message.act_error_iff (settings : Settings) (m : Message) (store : Store) :
    (∃ e, m.act settings (store.surface? m.surface) = .error e) ↔ m.BreaksOff store := by
  unfold Message.BreaksOff
  cases m with
  | updateDataModel id path op value =>
    simp only [act, surface]
    constructor
    · rintro ⟨e, he⟩
      cases hs : store.surface? id with
      | none => simp [hs] at he
      | some s =>
        cases hr : Revision.ofUpdate? path op value with
        | none => simp [hs, hr] at he
        | some r =>
          have herr : ∃ e, r.revise s.dataModel = .error e := by
            cases hd : r.revise s.dataModel with
            | error e' => exact ⟨e', rfl⟩
            | ok data => simp [hs, hr, hd, Except.map] at he
          exact ⟨id, path, op, value, s, r, rfl, hs, hr, (Revision.revise_error_iff _ r).mp herr⟩
    · rintro ⟨_, _, _, _, s, r, hm, hs, hr, hlong⟩
      cases hm
      obtain ⟨e, he⟩ := (Revision.revise_error_iff _ r).mpr hlong
      exact ⟨e, by simp [hs, hr, he, Except.map]⟩
  | _ =>
    constructor
    · rintro ⟨_, h⟩
      cases h
    · rintro ⟨_, _, _, _, _, _, hm, -⟩
      cases hm

namespace Store

theorem applyOne_error_iff (settings : Settings) (store : Store) (m : Message) :
    (∃ e, (store.applyOne settings m).result = .error e) ↔ m.BreaksOff store := by
  rw [← Message.act_error_iff settings, applyOne_result]
  cases m.act settings (store.surface? m.surface) <;> simp [Except.map]

section
variable {settings : Settings} (store : Store) {raw : RawBatch}

theorem applyBatch_of_parse_error {e : BatchError} (hp : (Batch.parse settings raw).result = .error e) :
    (store.applyBatch settings raw).1 = store := by
  simp only [applyBatch, hp]

theorem applyBatch_of_parse_ok {messages : List Message}
    (hp : (Batch.parse settings raw).result = .ok messages) :
    (store.applyBatch settings raw).1 = (store.applyFrom settings {} messages).1 ∧
      ((∃ e, (store.applyBatch settings raw).2.result = .error e) ↔
        ∃ e, (store.applyFrom settings {} messages).2.result = .error e) := by
  refine ⟨by simp only [applyBatch, hp, applyAll_fst], ?_⟩
  simp only [← applyAll_error_iff, applyBatch, hp]
  cases (store.applyAll settings messages).2.result with
  | error e => exact ⟨fun _ => ⟨e, rfl⟩, fun _ => ⟨_, rfl⟩⟩
  | ok r =>
    constructor
    · rintro ⟨_, h⟩
      cases h
    · rintro ⟨_, h⟩
      cases h

end

/-- **What a failing batch leaves behind.** A batch fails and yet changes the store exactly if it is parsed, a
front of its messages is applied with a net effect, and the next message breaks off. -/
theorem applyBatch_leaves_changes_iff (settings : Settings) (store : Store) (raw : RawBatch) :
    ((∃ e, (store.applyBatch settings raw).2.result = .error e) ∧
        (store.applyBatch settings raw).1 ≠ store) ↔
      ∃ above m below mid, (Batch.parse settings raw).result = .ok (above ++ m :: below) ∧
        store.after? settings above = .ok mid ∧ m.BreaksOff mid ∧ mid ≠ store := by
  cases hp : (Batch.parse settings raw).result with
  | error e =>
    constructor
    · rintro ⟨-, hne⟩; exact absurd (applyBatch_of_parse_error store hp) hne
    · rintro ⟨_, _, _, _, h, -⟩; cases h
  | ok messages =>
    obtain ⟨hfst, herr⟩ := applyBatch_of_parse_ok store hp
    rw [hfst, herr]
    constructor
    · rintro ⟨⟨e, he⟩, hne⟩
      rcases applyFrom_cases settings store {} messages with ⟨r', hr, -⟩ | ⟨above, m, below, e', rfl, ha, hm, -⟩
      · rw [hr] at he; cases he
      · exact ⟨above, m, below, _, rfl, ha, (applyOne_error_iff settings _ m).mp ⟨e', hm⟩, hne⟩
    · rintro ⟨above, m, below, mid, h, ha, hm, hne⟩
      cases h
      obtain ⟨e, he⟩ := (applyOne_error_iff settings mid m).mpr hm
      obtain ⟨h1, h2⟩ := applyFrom_break ha he {} below
      exact ⟨⟨e, h2⟩, by rw [h1]; exact hne⟩

/-! ## A failing batch that leaves changes behind -/

/-- A path of one index, one digit too long. -/
def overlongPath : String := String.ofList ('/' :: List.replicate (maxDigits + 1) '1')

theorem meetsLongIndex_overlongPath (items : List Json) :
    (Json.arr items).MeetsLongIndex (Path.segments overlongPath) := by
  have hslash : '/' ∉ List.replicate (maxDigits + 1) '1' := by simp
  refine ⟨[], String.ofList (List.replicate (maxDigits + 1) '1'), [], items, ?_, rfl, ?_, by simp⟩
  · exact Path.segments_slash (by simp) hslash
  · intro c hc
    simp only [String.toList_ofList, List.mem_replicate] at hc
    rw [hc.2]; rfl

/-- Creates a surface, makes its data model an empty array, and writes to an overlong index of it. -/
def overlongBatch : RawBatch :=
  .decoded <| .arr
    [.ofFields [("createSurface", .ofFields [("surfaceId", .str "main")])],
     .ofFields [("updateDataModel", .ofFields [("surfaceId", .str "main"), ("value", .arr [])])],
     .ofFields [("updateDataModel", .ofFields [("surfaceId", .str "main"), ("path", .str overlongPath),
       ("value", .null)])]]

/-- The first two messages of `overlongBatch`. -/
def overlongFront : List Message :=
  [.createSurface "main" none, .updateDataModel "main" none none (some (.arr []))]

theorem parse_overlongBatch : (Batch.parse {} overlongBatch).result =
    .ok (overlongFront ++ [.updateDataModel "main" (some overlongPath) none (some .null)]) := rfl

/-- The store that the first two messages make of the empty one. -/
def overlongStore : Store := ⟨[("main", ⟨"main", "a2ui.dev:standard:0.8", [], .arr []⟩)]⟩

theorem after?_overlongFront : Store.empty.after? {} overlongFront = .ok overlongStore := rfl

/-- **Counterexample**: a batch that fails after its first two messages were applied to the empty store. -/
theorem applyBatch_not_atomic : ¬∀ store : Store, store.Reachable → ∀ (settings : Settings) (raw : RawBatch),
    (∃ e, (store.applyBatch settings raw).2.result = .error e) → (store.applyBatch settings raw).1 = store := by
  intro hatomic
  have hbreak : (Message.updateDataModel "main" (some overlongPath) none (some .null)).BreaksOff overlongStore :=
    ⟨_, _, _, _, _, _, rfl, rfl, rfl, meetsLongIndex_overlongPath []⟩
  obtain ⟨e, he⟩ := (applyOne_error_iff {} overlongStore _).mpr hbreak
  obtain ⟨hmid, herr⟩ := applyFrom_break after?_overlongFront he {} []
  obtain ⟨hfst, hiff⟩ := applyBatch_of_parse_ok Store.empty parse_overlongBatch
  have hsame := hatomic Store.empty .empty {} overlongBatch (hiff.mpr ⟨e, herr⟩)
  rw [hfst, hmid] at hsame
  cases hsame

end Store

end LiveSurface
