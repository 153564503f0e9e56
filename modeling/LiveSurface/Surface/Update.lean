import LiveSurface.Message.Batch
import LiveSurface.Surface.Store
/-!
# Applying messages

Messages are applied strictly in order, so that each sees what the ones before it did. A batch is parsed as a
whole before anything is applied; once it is being applied, an index that is too long to be read breaks it off,
and what was applied before stays.
-/
namespace LiveSurface

/-- The outcome of a batch: how many messages had an effect and how many had none, and the surfaces that were
touched, in the order of their first touch. -/
structure BatchResult where
  applied : Nat := 0
  ignored : Nat := 0
  surfaces : List String := []
deriving DecidableEq, Repr

namespace BatchResult

/-- Counts a message about a surface. -/
def count (r : BatchResult) (surface : String) (effective : Bool) : BatchResult :=
  if effective then
    { r with
      applied := r.applied + 1
      surfaces := if surface ∈ r.surfaces then r.surfaces else r.surfaces ++ [surface] }
  else { r with ignored := r.ignored + 1 }

end BatchResult

namespace Store

/-- The ways to change a data model that a message can name. Any other is reported and taken for a write. -/
def isWriteOp (op : Option String) : Bool :=
  match op with
  | none => true
  | some op => op = "add" || op = "replace"

/-- Applies an update of a data model; without a value there is nothing to write. -/
def updateData (store : Store) (id : String) (path op : Option String) (value : Option Json) :
    Logged LongNumeral (Store × Bool) :=
  if op = some "remove" then store.removeData id (path.getD "")
  else do
    if !isWriteOp op then Logged.emit (.unknownOp (op.getD "") id)
    match value with
    | none => do
      Logged.emit (.updateWithoutValue id)
      pure (store, false)
    | some v => store.setData id (path.getD "") v

/-- Applies a message. The answer tells whether it had an effect. -/
def applyOne (settings : Settings) (store : Store) (m : Message) :
    Logged LongNumeral (Store × Bool) :=
  match m with
  | .createSurface id catalog => do
    let named := (catalog.filter (· ≠ "")).getD settings.defaultCatalogId
    let store ← store.create id named
    pure (store, true)
  | .updateComponents id components => store.upsert id components
  | .updateDataModel id path op value => store.updateData id path op value
  | .deleteSurface id => pure (store.delete id)

/-- Applies messages in order to a store and counts them. The store is what they made of it, also if an error
broke the list off. -/
def applyFrom (settings : Settings) :
    Store → BatchResult → List Message → Store × Logged LongNumeral BatchResult
  | store, r, [] => (store, pure r)
  | store, r, m :: rest =>
    match applyOne settings store m with
    | ⟨events, .error e⟩ => (store, ⟨events, .error e⟩)
    | ⟨events, .ok (next, effective)⟩ =>
      let (last, outcome) := applyFrom settings next (r.count m.surface effective) rest
      (last, ⟨events ++ outcome.events, outcome.result⟩)

/-- Applies messages in order and reports the outcome. -/
def applyAll (settings : Settings) (store : Store) (messages : List Message) :
    Store × Logged LongNumeral BatchResult :=
  let (last, outcome) := store.applyFrom settings {} messages
  (last, do
    let r ← outcome
    Logged.emit (.batchApplied r.applied r.ignored r.surfaces)
    pure r)

/-- Parses a batch and applies it. A batch that cannot be parsed changes nothing. -/
def applyBatch (settings : Settings) (store : Store) (raw : RawBatch) :
    Store × Logged BatchError BatchResult :=
  let parsed := Batch.parse settings raw
  match parsed.result with
  | .error e => (store, ⟨parsed.events, .error e⟩)
  | .ok messages =>
    let (last, outcome) := store.applyAll settings messages
    (last, ⟨parsed.events ++ outcome.events, outcome.result.mapError .longNumeral⟩)

/-- The store that a log of messages makes of the empty one. -/
def replay (settings : Settings) (messages : List Message) :
    Store × Logged LongNumeral BatchResult :=
  Store.empty.applyAll settings messages

end Store

end LiveSurface
