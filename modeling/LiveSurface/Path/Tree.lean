import LiveSurface.Log.Logged
import LiveSurface.Path.Basic
/-!
# Reading and writing values in trees

A segment selects the field of that name in an object and the item of that index in an array.

* `Json.find?` follows segments down a tree.
* `Json.write?` puts a value at the end of the segments. Missing objects on the way are created, nulls on the
  way become objects, and the index one past the end of an array appends to it. A write that cannot follow
  its segments is refused.
* `Json.remove?` takes the entry at the end of the segments away.

All of them fail only on an index that is too long to be read.
-/
namespace LiveSurface.Json

/-- The entry of a value that a segment selects. -/
def child? (v : Json) (segment : String) : Except LongNumeral (Option Json) :=
  match v with
  | .obj fields => .ok (Entries.get? (κ := Key) fields segment)
  | .arr items => do
    match ← Path.index? segment with
    | some i => .ok items[i]?
    | none => .ok none
  | _ => .ok none

/-- The value at the end of the segments. -/
def find? : Json → List String → Except LongNumeral (Option Json)
  | v, [] => .ok (some v)
  | v, s :: rest => do
    match ← v.child? s with
    | some w => find? w rest
    | none => .ok none

/-- The value at a path, null if there is none. -/
def getAt (v : Json) (path : String) : Except LongNumeral Json :=
  (·.getD .null) <$> v.find? (Path.segments path)

/-! ## Writing -/

/-- Why a write failed. -/
inductive WriteError
  | refused (obstacle : Obstacle)
  | longNumeral (numeral : LongNumeral)
deriving DecidableEq, Repr

/-- The list with `v` at index `i`, in place of an item or after the last one. -/
def putItem (items : List Json) (i : Nat) (v : Json) : List Json :=
  items.take i ++ v :: items.drop (i + 1)

/-- Puts `v` at the end of the segments. -/
def write? (v : Json) : Json → List String → Except WriteError Json
  | _, [] => .ok v
  | tree, s :: rest =>
    -- What the entry under `s` becomes: the rest of the segments is written into it.
    let entry (old : Option Json) : Except WriteError Json :=
      match rest, old with
      | [], _ => .ok v
      | _, none | _, some .null => write? v (.obj []) rest
      | _, some w => if w.isContainer then write? v w rest else .error (.refused (.segment s))
    match tree with
    | .obj fields => do
      let new ← entry (Entries.get? (κ := Key) fields s)
      .ok (.obj (Entries.put (κ := Key) fields s new))
    | .arr items =>
      match Path.index? s with
      | .error e => .error (.longNumeral e)
      | .ok none => .error (.refused (.segment s))
      | .ok (some i) =>
        if items.length < i then .error (.refused (.segment s))
        else do
          let new ← entry items[i]?
          .ok (.arr (putItem items i new))
    | _ => .error (.refused .scalarRoot)

/-- Puts `v` at a path. A refused write is reported and leaves the tree as it was. -/
def setAt (tree : Json) (path : String) (v : Json) : Logged LongNumeral Json :=
  match write? v tree (Path.segments path) with
  | .ok new => pure new
  | .error (.refused obstacle) => do
    Logged.emit (.pathNotWritable path obstacle)
    pure tree
  | .error (.longNumeral e) => Logged.fail e

/-! ## Removing -/

/-- The value without the entry that a segment selects. -/
def dropEntry (v : Json) (segment : String) : Except LongNumeral Json :=
  match v with
  | .obj fields => .ok (.obj (Entries.erase (κ := Key) fields segment))
  | .arr items => do
    match ← Path.index? segment with
    | some i => .ok (.arr (items.eraseIdx i))
    | none => .ok v
  | _ => .ok v

/-- The value with `w` in place of the entry that a segment selects. -/
def replaceEntry (v : Json) (segment : String) (w : Json) : Except LongNumeral Json :=
  match v with
  | .obj fields => .ok (.obj (Entries.put (κ := Key) fields segment w))
  | .arr items => do
    match ← Path.index? segment with
    | some i => .ok (.arr (items.set i w))
    | none => .ok v
  | _ => .ok v

/-- Takes away the entry at the end of the segments; without segments, all. -/
def remove? : Json → List String → Except LongNumeral Json
  | _, [] => .ok (.obj [])
  | v, [s] => v.dropEntry s
  | v, s :: rest => do
    match ← v.child? s with
    | some w => v.replaceEntry s (← remove? w rest)
    | none => .ok v

/-- Takes away the entry at a path; the root becomes the empty object. -/
def removeAt (tree : Json) (path : String) : Except LongNumeral Json :=
  tree.remove? (Path.segments path)

end LiveSurface.Json
