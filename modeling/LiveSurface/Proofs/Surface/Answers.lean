import LiveSurface.Proofs.Path.Blocked
import LiveSurface.Proofs.Surface.Replay
/-!
# What the answers of changes tell

A change of the store answers whether it had an effect, and messages are counted by these answers. What an answer really
tells is whether the surface was there. A *no* can be relied on: the store is as before. A *yes* cannot, since a write
that is refused gives it too: the refusal is reported, nothing is written, and the update that asked for the write is
counted as applied.

Results:
* `Store.mutate_no_iff`: *no* is the answer for a surface that is not live, and for no other.
* `Store.refuses_iff`: the refused writes are those that are reported.
* `Store.countedInVain_of_applyOne`: a message that answers *yes* and leaves the store as it was is counted as applied.
* `Store.mutate_answer`, `Store.mutate_not_truthful`: what the answers of all changes tell.
-/
namespace LiveSurface

/-- A change of the surface under an id. -/
inductive Mutation
  | upsert (components : List Component)
  | setData (path : String) (v : Json)
  | removeData (path : String)
  | delete

namespace Surface

/-- A write to the data model is refused: it is reported and nothing is written. A null model counts as empty and
refuses nothing. -/
def Refuses (s : Surface) (path : String) (v : Json) : Prop := s.dataModel ≠ .null ∧ s.dataModel.IsRefused path v

variable {s : Surface} {path : String} {v : Json}

theorem setData_of_refuses (h : s.Refuses path v) :
    ∃ obstacle, s.setData path v = ⟨[.pathNotWritable path obstacle], .ok s⟩ := by
  obtain ⟨hnull, hrefused⟩ := h
  have hroot : ¬Path.isRoot path = true := by
    intro hroot
    obtain ⟨obstacle, hwrite⟩ := (Json.isRefused_iff s.dataModel path v).mp hrefused
    rw [Path.isRoot_iff.mp hroot] at hwrite
    cases hwrite
  obtain ⟨obstacle, hset, -⟩ := hrefused
  refine ⟨obstacle, ?_⟩
  unfold setData
  rw [if_neg hroot]
  cases hdata : s.dataModel with
  | null => exact absurd hdata hnull
  | _ =>
    rw [hdata] at hset
    simp only [hset]
    rw [← hdata]
    rfl

theorem refuses_of_mem_events {e : Event} (h : e ∈ (s.setData path v).events) : s.Refuses path v := by
  unfold setData at h
  split at h
  · simp at h
  · cases hdata : s.dataModel with
    | null =>
      -- A null model counts as empty, and nothing is refused below an empty object.
      rw [hdata] at h
      obtain ⟨obstacle, hrefused⟩ :=
        (Json.isRefused_iff _ path v).mp (Json.isRefused_of_mem_events (by simpa using h))
      obtain ⟨new, hnew⟩ := Json.exists_write?_empty v (Path.segments path)
      rw [hnew] at hrefused
      cases hrefused
    | _ =>
      rw [hdata] at h
      refine ⟨by simp [hdata], ?_⟩
      rw [hdata]
      exact Json.isRefused_of_mem_events (by simpa using h)

end Surface

namespace Store

/-- Makes a change of the surface under an id. -/
def mutate (store : Store) (id : String) : Mutation → Logged LongNumeral (Store × Bool)
  | .upsert components => store.upsert id components
  | .setData path v => store.setData id path v
  | .removeData path => store.removeData id path
  | .delete => pure (store.delete id)

/-- The surface is live, and a write to its data model is refused. -/
def Refuses (store : Store) (id path : String) (v : Json) : Prop :=
  ∃ s, store.surface? id = some s ∧ s.Refuses path v

section
variable {store next : Store} {id path : String} {v : Json}

/-! ## One change -/

theorem change_no_iff {ε : Type} {what : SurfaceChange} {f : Surface → Logged ε Surface} :
    (store.change what id f).result = .ok (next, false) ↔ store.surface? id = none ∧ next = store := by
  rw [change_result]
  cases store.surface? id with
  | none => simp [eq_comm]
  | some s => cases hs : (f s).result <;> simp [hs, Except.map]

/-- **The answer no** is the one for a surface that is not live, and leaves the store as it was. -/
theorem mutate_no_iff {call : Mutation} :
    (store.mutate id call).result = .ok (next, false) ↔ store.surface? id = none ∧ next = store := by
  cases call with
  | upsert components => exact change_no_iff
  | setData path v => exact change_no_iff
  | removeData path => exact change_no_iff
  | delete =>
    unfold mutate delete
    cases h : store.surface? id with
    | none =>
      have hself : (⟨store.surfaces.erase id⟩ : Store) = store := congrArg Store.mk (Entries.erase_eq_self h)
      simp [hself, eq_comm]
    | some s => simp

/-- A refused write is reported and answered with yes, and the store is as it was. -/
theorem setData_of_refuses (h : store.Refuses id path v) :
    ∃ obstacle, store.setData id path v = ⟨[.pathNotWritable path obstacle], .ok (store, true)⟩ := by
  obtain ⟨s, hs, hrefused⟩ := h
  obtain ⟨obstacle, hset⟩ := Surface.setData_of_refuses hrefused
  refine ⟨obstacle, ?_⟩
  unfold setData change
  rw [hs]
  simp only [hset]
  show (⟨[.pathNotWritable path obstacle], .ok (store.putSurface id s, true)⟩ : Logged LongNumeral (Store × Bool)) = _
  rw [putSurface_self hs]

/-- **The refused writes are those that are reported.** -/
theorem refuses_iff :
    store.Refuses id path v ↔ ∃ obstacle, .pathNotWritable path obstacle ∈ (store.setData id path v).events := by
  constructor
  · intro h
    obtain ⟨obstacle, hset⟩ := setData_of_refuses h
    exact ⟨obstacle, by simp [hset]⟩
  · intro h
    obtain ⟨obstacle, hevent⟩ := h
    unfold setData change at hevent
    cases hs : store.surface? id with
    | none => simp [hs] at hevent
    | some s =>
      refine ⟨s, hs, Surface.refuses_of_mem_events (e := .pathNotWritable path obstacle) ?_⟩
      simpa [hs] using hevent

/-! ## Messages and their counts -/

/-- A message between others is counted as applied for nothing: without it the list leaves the same store, with one
message applied less and as many ignored. -/
def CountedInVain (settings : Settings) (first : Store) (front : List Message) (m : Message) (back : List Message) :
    Prop :=
  ∀ r, (first.applyAll settings (front ++ m :: back)).2.result = .ok r →
    ∃ r', (first.applyAll settings (front ++ back)).2.result = .ok r' ∧
      (first.applyAll settings (front ++ back)).1 = (first.applyAll settings (front ++ m :: back)).1 ∧
      r.applied = r'.applied + 1 ∧ r.ignored = r'.ignored

/-- **A yes for nothing counts**: a message that leaves the store as it was, but answers yes, is counted as applied. -/
theorem countedInVain_of_applyOne {settings : Settings} {first : Store} {front : List Message} {m : Message}
    (hfront : first.after? settings front = .ok store) (hm : (store.applyOne settings m).result = .ok (store, true))
    (back : List Message) : CountedInVain settings first front m back := by
  intro r hr
  obtain ⟨marks, hrun, rfl⟩ := applyAll_ok_iff_run.mp ⟨hr, rfl⟩
  obtain ⟨before, after, mid, rfl, hbefore, hafter⟩ := hrun.split
  obtain rfl : store = mid := Except.ok.inj (hfront.symm.trans hbefore.after?_eq)
  cases hafter with
  | cons hone hrest =>
    rw [hm] at hone
    cases hone
    have hwithout := applyAll_ok_iff_run.mpr ⟨_, hbefore.append hrest, rfl⟩
    refine ⟨_, hwithout.1, hwithout.2, ?_, ?_⟩
    · simp [BatchResult.ofMarks, List.countP_append]
      omega
    · simp [BatchResult.ofMarks, List.countP_append]

/-- An update that is no removal writes its value. -/
theorem applyOne_write (settings : Settings) {op : Option String} (hop : op ≠ some "remove") :
    (store.applyOne settings (.updateDataModel id (some path) op (some v))).result =
      (store.setData id path v).result := by
  show (store.updateData id (some path) op (some v)).result = _
  unfold updateData
  rw [if_neg hop]
  exact Logged.result_ite_emit _ _ _

/-- **What the answers tell.** The answer no is given exactly if the surface is not live, and leaves the store as it
was. A write is refused exactly if it is reported as not writable; the answer is yes all the same, the store is as it
was, and an update that asks for such a write is counted as applied for nothing, whatever came before it and comes after
it in its list. -/
theorem mutate_answer (store : Store) (id : String) :
    (∀ call next, (store.mutate id call).result = .ok (next, false) ↔ store.surface? id = none ∧ next = store) ∧
      ∀ path v,
        (store.Refuses id path v ↔
          ∃ obstacle, .pathNotWritable path obstacle ∈ (store.mutate id (.setData path v)).events) ∧
        (store.Refuses id path v →
          (store.mutate id (.setData path v)).result = .ok (store, true) ∧
          ∀ settings first front op back, first.after? settings front = .ok store → op ≠ some "remove" →
            CountedInVain settings first front (.updateDataModel id (some path) op (some v)) back) := by
  refine ⟨fun _ _ => mutate_no_iff, ?_⟩
  intro path v
  refine ⟨refuses_iff, ?_⟩
  intro hrefuses
  obtain ⟨obstacle, hset⟩ := setData_of_refuses hrefuses
  have hyes : (store.setData id path v).result = .ok (store, true) := by rw [hset]
  refine ⟨hyes, ?_⟩
  intro settings first front op back hfront hop
  exact countedInVain_of_applyOne hfront ((applyOne_write settings hop).trans hyes) back

end

/-- A surface whose data model is a list under a name, beside one whose data model is a truth value. -/
def listedStore : Store :=
  ⟨[("plain", ⟨"plain", "basic", [], .bool true⟩), ("main", ⟨"main", "basic", [], .ofFields [("list", .arr [])]⟩)]⟩

/-- A segment that is no index stops the write at the list. The update between two others is counted for nothing. -/
theorem mutate_answer_listed :
    listedStore.Refuses "main" "/list/first" .null ∧
      (listedStore.mutate "main" (.setData "/list/first" .null)).result = .ok (listedStore, true) ∧
      CountedInVain {} listedStore [.deleteSurface "other"]
        (.updateDataModel "main" (some "/list/first") none (some .null)) [.deleteSurface "plain"] := by
  obtain ⟨-, hwrites⟩ := mutate_answer listedStore "main"
  obtain ⟨hiff, hyes⟩ := hwrites "/list/first" .null
  have hrefuses : listedStore.Refuses "main" "/list/first" .null := hiff.mpr ⟨.segment "first", by decide⟩
  obtain ⟨hresult, hvain⟩ := hyes hrefuses
  exact ⟨hrefuses, hresult, hvain {} listedStore [.deleteSurface "other"] none _ rfl (by decide)⟩

/-- The answer yes is given although nothing was written. -/
theorem mutate_not_truthful :
    ¬ ∀ (store : Store) (id path : String) (v : Json),
      (∃ obstacle, .pathNotWritable path obstacle ∈ (store.mutate id (.setData path v)).events) →
      ∃ next, (store.mutate id (.setData path v)).result = .ok (next, false) := by
  intro hall
  have hreported : .pathNotWritable "/name" .scalarRoot ∈
      (listedStore.mutate "plain" (.setData "/name" .null)).events := by
    decide
  obtain ⟨next, hnext⟩ := hall listedStore "plain" "/name" .null ⟨_, hreported⟩
  cases hnext

end Store

end LiveSurface
