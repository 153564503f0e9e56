import LiveSurface.Component.Dump
import LiveSurface.Log.Logged
import LiveSurface.Path.Tree
/-!
# Surfaces and their store

A surface is one user interface: its components by id and its data model. The store holds the live surfaces
in the order in which they were created; creating a surface again resets it in place.

Every change is total over the set of surfaces: one that misses its surface changes nothing and tells so.
-/
namespace LiveSurface

/-- One user interface. -/
structure Surface where
  id : String
  catalog : String
  components : Entries String Component
  dataModel : Json
deriving Repr

namespace Surface

/-- A surface without components and with an empty data model. -/
def empty (id catalog : String) : Surface := ⟨id, catalog, [], .obj []⟩

/-- The component with an id. -/
def component? (s : Surface) (id : String) : Option Component := s.components.get? id

/-- The component under which drawing begins. -/
def root? (s : Surface) : Option Component := s.component? Catalog.rootId

/-- The surface with components put under their ids, one after the other. -/
def upsert (s : Surface) (components : List Component) : Surface :=
  { s with components := components.foldl (fun m c => m.put c.id c) s.components }

/-- The surface as a record, if all its components can be written. -/
def record (s : Surface) : Except RecordTooDeep Json := do
  let components ← s.components.mapM fun e => e.2.record.map fun v => (e.1, v)
  pure (.ofFields [("surfaceId", .str s.id), ("catalogId", .str s.catalog),
    ("components", .ofFields components), ("dataModel", s.dataModel)])

/-- The surface with a value put at a path of its data model; a null data model counts as empty. -/
def setData (s : Surface) (path : String) (v : Json) : Logged LongNumeral Surface :=
  if Path.isRoot path then pure { s with dataModel := v }
  else do
    let base := match s.dataModel with
      | .null => Json.obj []
      | tree => tree
    let data ← base.setAt path v
    pure { s with dataModel := data }

/-- The surface without the entry at a path of its data model. -/
def removeData (s : Surface) (path : String) : Logged LongNumeral Surface := do
  let data ← Logged.ofExcept (s.dataModel.removeAt path)
  pure { s with dataModel := data }

end Surface

/-- The live surfaces by id. -/
structure Store where
  surfaces : Entries String Surface := []
deriving Repr

namespace Store

/-- The store without surfaces. -/
def empty : Store := {}

/-- The live surface with an id. -/
def surface? (store : Store) (id : String) : Option Surface := store.surfaces.get? id

/-- The ids of the live surfaces in order of creation. -/
def ids (store : Store) : List String := store.surfaces.keys

/-- The store with a surface put under an id. -/
def putSurface (store : Store) (id : String) (s : Surface) : Store := ⟨store.surfaces.put id s⟩

/-- The store as a record of its surfaces by id, if all their components can be written. -/
def record (store : Store) : Except RecordTooDeep Json := do
  let surfaces ← store.surfaces.mapM fun e => e.2.record.map fun v => (e.1, v)
  pure (.ofFields surfaces)

/-- Creates an empty surface, or resets it. -/
def create {ε : Type} (store : Store) (id catalog : String) : Logged ε Store := do
  if (store.surface? id).isSome then Logged.emit (.surfaceReset id)
  pure (store.putSurface id (.empty id catalog))

/-- Changes a surface; a change that misses it is reported. The answer tells whether the surface was there. -/
def change {ε : Type} (store : Store) (what : SurfaceChange) (id : String)
    (f : Surface → Logged ε Surface) : Logged ε (Store × Bool) :=
  match store.surface? id with
  | none => do
    Logged.emit (.unknownSurface what id)
    pure (store, false)
  | some s => do
    let s ← f s
    pure (store.putSurface id s, true)

/-- Puts components under their ids, each in place of the one before it. -/
def upsert {ε : Type} (store : Store) (id : String) (components : List Component) :
    Logged ε (Store × Bool) :=
  store.change .upsertComponents id fun s => pure (s.upsert components)

/-- Puts a value at a path of a data model. -/
def setData (store : Store) (id path : String) (v : Json) : Logged LongNumeral (Store × Bool) :=
  store.change .setDataModel id fun s => s.setData path v

/-- Takes away the entry at a path of a data model; the root becomes the empty object. -/
def removeData (store : Store) (id path : String) : Logged LongNumeral (Store × Bool) :=
  store.change .removeDataModel id fun s => s.removeData path

/-- Removes a surface; the answer tells whether it was there. -/
def delete (store : Store) (id : String) : Store × Bool :=
  (⟨store.surfaces.erase id⟩, (store.surface? id).isSome)

end Store

end LiveSurface
