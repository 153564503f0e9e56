import LiveSurface.Proofs.Path.Change
import LiveSurface.Surface.Update
/-!
# What a message and a list of messages do to a store

A message looks at one surface only, the one that it names, and leaves there what `Message.act` makes of it.
`Store.place` puts such an outcome back. Everything later about runs rests on `applyOne_result`, which says
both the next store and the flag of a message through these two, and on `applyFrom_cases`, which says how a
run ends.

Results:
* `Revision.revise_error_iff`: a change of a data model breaks off exactly at an overlong index.
* `Store.applyOne_result`: the outcome of one message.
* `Store.applyFrom_cases`, `Store.applyFrom_break`: a run either goes through, or stops in front of the first
  message that breaks off.
* `Store.applyAll_error_iff`, `Store.applyAll_ok_iff`: a list of messages fails or goes through as its run does.
* `Store.Reachable.induct`: what the messages parsed from batches keep, holds of every reachable store.
-/
namespace LiveSurface

namespace Json

/-- A value at a path of a data model: the root is replaced, and a null model counts as empty. -/
def assign (data : Json) (path : String) (v : Json) : Except LongNumeral Json :=
  if Path.isRoot path then .ok v
  else (Json.setAt (match data with
    | .null => .obj []
    | tree => tree) path v).result

theorem assign_error_iff (data : Json) (path : String) (v : Json) (e : LongNumeral) :
    data.assign path v = .error e ↔ data.find? (Path.segments path) = .error e := by
  unfold assign
  split
  · rename_i hroot
    have hnil : Path.segments path = [] := Path.isRoot_iff.mp hroot
    simp [hnil, find?]
  · rw [setAt_error_iff]
    cases data with
    | null =>
      have hnull : Json.null.find? (Path.segments path) ≠ .error e := by
        cases Path.segments path <;> simp [find?, child?, bind, Except.bind]
      exact ⟨fun h => absurd h (find?_empty _ e), fun h => absurd h hnull⟩
    | _ => exact Iff.rfl

end Json

/-- A change of a data model. -/
inductive Revision
  | assign (path : String) (v : Json)
  | remove (path : String)

namespace Revision

/-- The path of a change. -/
def path : Revision → String
  | assign path _ => path
  | remove path => path

/-- What a change makes of a data model. -/
def revise (data : Json) : Revision → Except LongNumeral Json
  | assign path v => data.assign path v
  | remove path => data.removeAt path

/-- The change that an update asks for; none if it neither removes nor brings a value. -/
def ofUpdate? (path op : Option String) (value : Option Json) : Option Revision :=
  if op = some "remove" then some (remove (path.getD "")) else value.map (assign (path.getD ""))

theorem revise_error_iff (data : Json) (r : Revision) :
    (∃ e, r.revise data = .error e) ↔ data.MeetsLongIndex (Path.segments r.path) := by
  rw [← Json.find?_error_iff]
  cases r with
  | assign path v => simp only [revise, Revision.path, Json.assign_error_iff]
  | remove path => simp only [revise, Revision.path, Json.removeAt, Json.remove?_error_iff]

end Revision

namespace Surface

theorem setData_result (s : Surface) (path : String) (v : Json) :
    (s.setData path v).result = (s.dataModel.assign path v).map fun data => { s with dataModel := data } := by
  unfold setData Json.assign
  split
  · rfl
  · simp only [Logged.result_bind]
    rfl

theorem removeData_result (s : Surface) (path : String) :
    (s.removeData path).result = (s.dataModel.removeAt path).map fun data => { s with dataModel := data } := by
  simp only [removeData, Logged.result_bind]
  rfl

end Surface

/-! ## One message -/

namespace Message

/-- What a message makes of the surface that it names. -/
def act (settings : Settings) (s? : Option Surface) : Message → Except LongNumeral (Option Surface)
  | .createSurface id catalog =>
    .ok (some (.empty id ((catalog.filter (· ≠ "")).getD settings.defaultCatalogId)))
  | .updateComponents _ components => .ok (s?.map (·.upsert components))
  | .updateDataModel _ path op value =>
    match s?, Revision.ofUpdate? path op value with
    | some s, some r => (r.revise s.dataModel).map fun data => some { s with dataModel := data }
    | _, _ => .ok s?
  | .deleteSurface _ => .ok none

/-- An update of a data model that goes through changes nothing, or puts the revised data in place. -/
theorem act_update_cases {settings : Settings} {s? s'? : Option Surface} {id : String}
    {path op : Option String} {value : Option Json}
    (ha : (updateDataModel id path op value).act settings s? = .ok s'?) :
    ((s? = none ∨ Revision.ofUpdate? path op value = none) ∧ s'? = s?) ∨
      ∃ s r data, s? = some s ∧ Revision.ofUpdate? path op value = some r ∧
        r.revise s.dataModel = .ok data ∧ s'? = some { s with dataModel := data } := by
  simp only [act] at ha
  cases hs : s? with
  | none =>
    rw [hs] at ha
    cases ha
    exact .inl ⟨.inl rfl, rfl⟩
  | some s =>
    rw [hs] at ha
    cases hr : Revision.ofUpdate? path op value with
    | none =>
      rw [hr] at ha
      cases ha
      exact .inl ⟨.inr rfl, rfl⟩
    | some r =>
      rw [hr] at ha
      cases hd : r.revise s.dataModel with
      | error e => simp [hd, Except.map] at ha
      | ok data =>
        simp only [hd, Except.map, Except.ok.injEq] at ha
        exact .inr ⟨s, r, data, rfl, rfl, hd, ha.symm⟩

/-- Whether a message has an effect on the surface that it names. -/
def isEffective (s? : Option Surface) : Message → Bool
  | .createSurface .. => true
  | .updateDataModel _ path op value => s?.isSome && (Revision.ofUpdate? path op value).isSome
  | .updateComponents .. | .deleteSurface _ => s?.isSome

end Message

namespace Store

/-- The store with an outcome for the surface under an id: a surface, or none. -/
def place (store : Store) (id : String) : Option Surface → Store
  | some s => store.putSurface id s
  | none => ⟨store.surfaces.erase id⟩

theorem surface?_place (store : Store) (id : String) (s? : Option Surface) (other : String) :
    (store.place id s?).surface? other = if other = id then s? else store.surface? other := by
  by_cases h : other = id
  · subst h
    cases s? <;> simp [place, putSurface, surface?]
  · cases s? <;> simp [place, putSurface, surface?, Entries.get?_put_of_ne, Entries.get?_erase_of_ne, h]

theorem ids_place_some (store : Store) (id : String) (s : Surface) :
    (store.place id (some s)).ids = if id ∈ store.ids then store.ids else store.ids ++ [id] :=
  Entries.keys_put store.surfaces id s

theorem ids_place_none (store : Store) (id : String) :
    (store.place id none).ids = store.ids.filter (· ≠ id) :=
  Entries.keys_erase store.surfaces id

theorem mem_ids_iff {store : Store} {id : String} : id ∈ store.ids ↔ (store.surface? id).isSome :=
  Entries.mem_keys_iff

/-- A surface of the store afterwards was there before, or is the outcome. -/
theorem mem_place {store : Store} {id : String} {s? : Option Surface} {e : String × Surface}
    (h : e ∈ (store.place id s?).surfaces) : e ∈ store.surfaces ∨ ∃ s, s? = some s ∧ e = (id, s) := by
  cases s? with
  | none => exact .inl (List.mem_filter.mp h).1
  | some s => exact (Entries.mem_put h).imp_right fun he => ⟨s, rfl, he⟩

theorem putSurface_self {store : Store} {id : String} {s : Surface} (h : store.surface? id = some s) :
    store.putSurface id s = store := congrArg Store.mk (Entries.put_eq_self h)

/-- Putting back what was there changes nothing. -/
theorem place_self (store : Store) (id : String) : store.place id (store.surface? id) = store := by
  unfold place
  cases h : store.surface? id with
  | none => exact congrArg Store.mk (Entries.erase_eq_self h)
  | some s => exact putSurface_self h

theorem change_result {ε : Type} (store : Store) (what : SurfaceChange) (id : String)
    (f : Surface → Logged ε Surface) :
    (store.change what id f).result =
      match store.surface? id with
      | none => .ok (store, false)
      | some s => (f s).result.map fun s => (store.putSurface id s, true) := by
  unfold change
  cases store.surface? id with
  | none => rfl
  | some s => simp only [Logged.result_bind]; rfl

/-- Writing a value, if there is one. -/
theorem writeData_result (store : Store) (id path : String) (value : Option Json) :
    (match value with
      | none => do
        Logged.emit (.updateWithoutValue id)
        pure (store, false)
      | some v => store.setData id path v : Logged LongNumeral (Store × Bool)).result =
      match store.surface? id, value with
      | some s, some v => (s.dataModel.assign path v).map fun data =>
          (store.putSurface id { s with dataModel := data }, true)
      | _, _ => .ok (store, false) := by
  cases value with
  | none =>
    simp only [Logged.result_bind]
    cases store.surface? id <;> rfl
  | some v =>
    simp only [setData, change_result]
    cases store.surface? id with
    | none => rfl
    | some s =>
      simp only [Surface.setData_result]
      cases s.dataModel.assign path v <;> rfl

theorem updateData_result (store : Store) (id : String) (path op : Option String) (value : Option Json) :
    (store.updateData id path op value).result =
      match store.surface? id, Revision.ofUpdate? path op value with
      | some s, some r => (r.revise s.dataModel).map fun data =>
          (store.putSurface id { s with dataModel := data }, true)
      | _, _ => .ok (store, false) := by
  unfold updateData Revision.ofUpdate?
  by_cases hop : op = some "remove"
  · simp only [hop, if_true, removeData, change_result]
    cases store.surface? id with
    | none => rfl
    | some s =>
      simp only [Surface.removeData_result, Revision.revise]
      cases s.dataModel.removeAt (path.getD "") <;> rfl
  · have hwrite := writeData_result store id (path.getD "") value
    simp only [hop, if_false]
    -- An unknown operation is reported, but that does not change how the update ends.
    cases value with
    | none => rw [Logged.result_ite_emit, hwrite]; cases store.surface? id <;> rfl
    | some v => rw [Logged.result_ite_emit, hwrite]; cases store.surface? id <;> rfl

/-- The outcome of a message: what it makes of its own surface, in place, and whether that counts. -/
theorem applyOne_result (settings : Settings) (store : Store) (m : Message) :
    (store.applyOne settings m).result = (m.act settings (store.surface? m.surface)).map fun s? =>
      (store.place m.surface s?, m.isEffective (store.surface? m.surface)) := by
  cases m with
  | createSurface id catalog =>
    simp only [applyOne, create, Logged.result_bind, Message.act, Message.surface]
    split <;> rfl
  | updateComponents id components =>
    simp only [applyOne, upsert, change_result, Message.act, Message.surface, Message.isEffective]
    cases h : store.surface? id with
    | none => simpa [Except.map, h] using (place_self store id).symm
    | some s => rfl
  | updateDataModel id path op value =>
    simp only [applyOne, updateData_result, Message.act, Message.surface, Message.isEffective]
    have hself := place_self store id
    cases h : store.surface? id with
    | none => rw [h] at hself; simp [Except.map, hself]
    | some s =>
      rw [h] at hself
      cases Revision.ofUpdate? path op value with
      | none => simp [Except.map, hself]
      | some r => cases hr : r.revise s.dataModel <;> simp [Except.map, hr, place]
  | deleteSurface id => rfl

/-! ## Lists of messages -/

/-- The stores that batches make of the empty one, whatever their settings and their outcomes. -/
inductive Reachable : Store → Prop
  | empty : Reachable .empty
  | applyBatch {store : Store} (settings : Settings) (raw : RawBatch) (h : Reachable store) :
    Reachable (store.applyBatch settings raw).1

/-- The store after a list of messages, if none of them breaks off. -/
def after? (settings : Settings) (store : Store) (messages : List Message) : Except LongNumeral Store :=
  messages.foldlM (fun store m => (store.applyOne settings m).result.map Prod.fst) store

theorem after?_cons (settings : Settings) (store : Store) (m : Message) (rest : List Message) :
    store.after? settings (m :: rest) = ((m.act settings (store.surface? m.surface)).map
      (store.place m.surface)).bind fun next => next.after? settings rest := by
  simp only [after?, List.foldlM_cons, applyOne_result]
  cases m.act settings (store.surface? m.surface) <;> rfl

/-- How a run ends: all messages went through, or one of them broke off and the store is as the ones before
it left it. -/
theorem applyFrom_cases (settings : Settings) (store : Store) (r : BatchResult) (messages : List Message) :
    (∃ r', (store.applyFrom settings r messages).2.result = .ok r' ∧
      store.after? settings messages = .ok (store.applyFrom settings r messages).1) ∨
    ∃ above m below e, messages = above ++ m :: below ∧
      store.after? settings above = .ok (store.applyFrom settings r messages).1 ∧
      ((store.applyFrom settings r messages).1.applyOne settings m).result = .error e ∧
      (store.applyFrom settings r messages).2.result = .error e := by
  induction messages generalizing store r with
  | nil => exact .inl ⟨r, rfl, rfl⟩
  | cons m rest ih =>
    rcases h : store.applyOne settings m with ⟨events, e | ⟨next, effective⟩⟩
    · refine .inr ⟨[], m, rest, e, rfl, ?_, ?_, ?_⟩ <;> simp [applyFrom, after?, h, pure, Except.pure]
    · have hnext : (store.applyOne settings m).result.map Prod.fst = .ok next := by rw [h]; rfl
      have hrun : store.applyFrom settings r (m :: rest) =
          ((next.applyFrom settings (r.count m.surface effective) rest).1,
            ⟨events ++ (next.applyFrom settings (r.count m.surface effective) rest).2.events,
              (next.applyFrom settings (r.count m.surface effective) rest).2.result⟩) := by
        simp only [applyFrom, h]
      have hfront : ∀ front, store.after? settings (m :: front) = next.after? settings front := by
        intro front
        simp only [after?, List.foldlM_cons, hnext]
        rfl
      rw [hrun]
      rcases ih next (r.count m.surface effective) with ⟨r', hr, ha⟩ | ⟨above, m', below, e, rfl, ha, hm, hr⟩
      · exact .inl ⟨r', hr, by rw [hfront]; exact ha⟩
      · exact .inr ⟨m :: above, m', below, e, rfl, by rw [hfront]; exact ha, hm, hr⟩

/-- A message that breaks off ends the run where the messages before it left the store. -/
theorem applyFrom_break {settings : Settings} {store mid : Store} {above : List Message} {m : Message}
    {e : LongNumeral} (ha : store.after? settings above = .ok mid)
    (hm : (mid.applyOne settings m).result = .error e) (r : BatchResult) (below : List Message) :
    (store.applyFrom settings r (above ++ m :: below)).1 = mid ∧
      (store.applyFrom settings r (above ++ m :: below)).2.result = .error e := by
  induction above generalizing store r with
  | nil =>
    obtain rfl : store = mid := by simpa [after?, pure, Except.pure] using ha
    rcases h : store.applyOne settings m with ⟨events, e' | p⟩
    · rw [h] at hm; cases hm; simp [applyFrom, h]
    · rw [h] at hm; cases hm
  | cons m' above ih =>
    rcases h : store.applyOne settings m' with ⟨events, e' | ⟨next, effective⟩⟩
    · simp [after?, List.foldlM_cons, h, Except.map, bind, Except.bind] at ha
    · have hnext : next.after? settings above = .ok mid := by
        simpa [after?, List.foldlM_cons, h, Except.map, bind, Except.bind] using ha
      obtain ⟨h1, h2⟩ := ih hnext (r.count m'.surface effective)
      simp only [List.cons_append, applyFrom, h]
      exact ⟨h1, h2⟩

theorem applyAll_fst (settings : Settings) (store : Store) (messages : List Message) :
    (store.applyAll settings messages).1 = (store.applyFrom settings {} messages).1 := rfl

theorem applyAll_error_iff (settings : Settings) (store : Store) (messages : List Message) (e : LongNumeral) :
    (store.applyAll settings messages).2.result = .error e ↔
      (store.applyFrom settings {} messages).2.result = .error e := by
  simp only [applyAll, Logged.result_bind]
  cases (store.applyFrom settings {} messages).2.result <;> simp [bind, Except.bind, Logged.result_pure]

theorem after?_append (settings : Settings) (store : Store) (front rest : List Message) :
    store.after? settings (front ++ rest) =
      (store.after? settings front).bind fun mid => mid.after? settings rest :=
  List.foldlM_append

/-- A list of messages goes through exactly if its store is what the messages make of the first one. -/
theorem applyAll_ok_iff (settings : Settings) (store last : Store) (messages : List Message) :
    ((∃ r, (store.applyAll settings messages).2.result = .ok r) ∧ (store.applyAll settings messages).1 = last) ↔
      store.after? settings messages = .ok last := by
  have hiff := applyAll_error_iff settings store messages
  rw [applyAll_fst]
  rcases applyFrom_cases settings store {} messages with ⟨r, hr, ha⟩ | ⟨above, m, below, e, rfl, ha, hm, hr⟩
  · rw [ha, Except.ok.injEq]
    refine ⟨And.right, fun hlast => ⟨?_, hlast⟩⟩
    cases hresult : (store.applyAll settings messages).2.result with
    | ok r => exact ⟨r, rfl⟩
    | error e => rw [(hiff e).mp hresult] at hr; cases hr
  · have hstop : store.after? settings (above ++ m :: below) = .error e := by
      rw [after?_append, ha]
      simp only [Except.bind, after?, List.foldlM_cons, hm]
      rfl
    rw [hstop, (hiff e).mpr hr]
    exact ⟨fun h => (nomatch h.1), fun h => (nomatch h)⟩

/-! ## Invariants of runs -/

section
variable {settings : Settings} {P : Store → Prop}

/-- What every single message of a list keeps, the run keeps. -/
theorem after?_induct {messages : List Message}
    (hstep : ∀ (store : Store) (m : Message) (s? : Option Surface), m ∈ messages → P store →
      m.act settings (store.surface? m.surface) = .ok s? → P (store.place m.surface s?))
    {store last : Store} (h : P store) (ha : store.after? settings messages = .ok last) : P last := by
  induction messages generalizing store with
  | nil =>
    obtain rfl : store = last := by simpa [after?, pure, Except.pure] using ha
    exact h
  | cons m rest ih =>
    rw [after?_cons] at ha
    cases hact : m.act settings (store.surface? m.surface) with
    | error e => rw [hact] at ha; cases ha
    | ok s? =>
      rw [hact] at ha
      exact ih (fun store m' s? hm => hstep store m' s? (List.mem_cons_of_mem m hm))
        (hstep store m s? List.mem_cons_self h hact) ha

end

/-- Whatever a batch makes of a store, failing or not, some of the messages parsed from it make of the store. -/
theorem exists_after?_applyBatch (settings : Settings) (store : Store) (raw : RawBatch) :
    ∃ messages, store.after? settings messages = .ok (store.applyBatch settings raw).1 ∧
      ∀ m ∈ messages, ∃ parsed, (Batch.parse settings raw).result = .ok parsed ∧ m ∈ parsed := by
  cases hp : (Batch.parse settings raw).result with
  | error e => exact ⟨[], by simp only [applyBatch, hp]; rfl, fun _ hm => nomatch hm⟩
  | ok messages =>
    simp only [applyBatch, hp, applyAll]
    rcases applyFrom_cases settings store {} messages with ⟨_, -, ha⟩ | ⟨above, m, below, _, rfl, ha, -, -⟩
    · exact ⟨messages, ha, fun m hm => ⟨messages, rfl, hm⟩⟩
    · exact ⟨above, ha, fun m' hm => ⟨above ++ m :: below, rfl, List.mem_append_left _ hm⟩⟩

/-- What every single message that is parsed from a batch keeps, holds of every reachable store. -/
theorem Reachable.induct {P : Store → Prop} (hempty : P .empty)
    (hstep : ∀ (settings : Settings) (raw : RawBatch) (parsed : List Message) (store : Store) (m : Message)
      (s? : Option Surface), (Batch.parse settings raw).result = .ok parsed → m ∈ parsed → P store →
      m.act settings (store.surface? m.surface) = .ok s? → P (store.place m.surface s?))
    {store : Store} (h : store.Reachable) : P store := by
  induction h with
  | empty => exact hempty
  | applyBatch settings raw _ ih =>
    obtain ⟨messages, ha, hparsed⟩ := exists_after?_applyBatch settings _ raw
    refine after?_induct (fun store m s? hm => ?_) ih ha
    obtain ⟨parsed, hp, hmem⟩ := hparsed m hm
    exact hstep settings raw parsed store m s? hp hmem

end Store

end LiveSurface
