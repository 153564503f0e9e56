import LiveSurface.Proofs.Path.Lookup
/-!
# Writes and removals, one segment at a time

`writeEntry` is what a write makes of the entry that a segment selects; with it, `write?` goes down one
segment per equation, as `remove?` does with itself.

Results:
* `write?_obj`, `write?_arr`, `remove?_cons`: the equations.
* `setAt_result`: what a write at a path ends in.
* `write?_longNumeral_iff`, `remove?_error_iff`: a write or a removal breaks off at an overlong index exactly
  if a lookup of the same segments does.
-/
namespace LiveSurface.Json

/-- What a write makes of the entry under `s`: missing and null entries become objects on the way, and only
containers are entered. -/
def writeEntry (v : Json) (s : String) (rest : List String) : Option Json → Except WriteError Json
  | none | some .null => write? v (.obj []) rest
  | some w => if rest = [] ∨ w.isContainer then write? v w rest else .error (.refused (.segment s))

theorem writeEntry_nil (v : Json) (s : String) (old : Option Json) : writeEntry v s [] old = .ok v := by
  cases old with
  | none => rfl
  | some w => cases w <;> rfl

theorem write?_obj (v : Json) (fields : Fields) (s : String) (rest : List String) :
    write? v (.obj fields) (s :: rest) = (writeEntry v s rest (fields.get? (s : Key))).map fun new =>
      .obj (fields.put (s : Key) new) := by
  rw [write?]
  cases rest with
  | nil => rw [writeEntry_nil]; rfl
  | cons t rest =>
    cases fields.get? (s : Key) with
    | none => rfl
    | some w => cases w <;> rfl

theorem write?_arr (v : Json) (items : List Json) (s : String) (rest : List String) :
    write? v (.arr items) (s :: rest) =
      match Path.index? s with
      | .error e => .error (.longNumeral e)
      | .ok none => .error (.refused (.segment s))
      | .ok (some i) =>
        if items.length < i then .error (.refused (.segment s))
        else (writeEntry v s rest items[i]?).map fun new => .arr (putItem items i new) := by
  rw [write?]
  cases Path.index? s with
  | error e => rfl
  | ok i? =>
    cases i? with
    | none => rfl
    | some i =>
      simp only
      split
      · rfl
      · cases rest with
        | nil => rw [writeEntry_nil]; rfl
        | cons t rest =>
          cases items[i]? with
          | none => rfl
          | some w => cases w <;> rfl

theorem write?_scalar (v : Json) {w : Json} (s : String) (rest : List String) (h : ¬w.isContainer = true) :
    write? v w (s :: rest) = .error (.refused .scalarRoot) := by
  cases w <;> first | rfl | exact absurd rfl h

theorem remove?_singleton (v : Json) (s : String) : v.remove? [s] = v.dropEntry s := rfl

theorem remove?_cons (v : Json) (s t : String) (rest : List String) :
    v.remove? (s :: t :: rest) = (v.child? s).bind fun w? =>
      match w? with
      | some w => (w.remove? (t :: rest)).bind (v.replaceEntry s)
      | none => .ok v := rfl

/-! ## Where writes and removals break off -/

theorem find?_scalar {v : Json} (s : String) (rest : List String) (h : ¬v.isContainer = true) :
    v.find? (s :: rest) = .ok none := by
  cases v <;> first | rfl | exact absurd rfl h

theorem find?_empty (segments : List String) (e : LongNumeral) : (Json.obj []).find? segments ≠ .error e := by
  cases segments <;> exact fun h => nomatch h

/-- A lookup of the segments behind the one that selects `old`. -/
def findEntry (rest : List String) : Option Json → Except LongNumeral (Option Json)
  | some w => w.find? rest
  | none => .ok none

theorem find?_of_child? {v : Json} {s : String} {old : Option Json} (h : v.child? s = .ok old) (rest : List String) :
    v.find? (s :: rest) = findEntry rest old := by
  rw [find?_cons, h]
  cases old <;> rfl

theorem find?_obj (fields : Fields) (s : String) (rest : List String) :
    (Json.obj fields).find? (s :: rest) = findEntry rest (fields.get? (s : Key)) :=
  find?_of_child? (child?_obj fields s) rest

theorem find?_arr (items : List Json) (s : String) (rest : List String) :
    (Json.arr items).find? (s :: rest) =
      match Path.index? s with
      | .error e => .error e
      | .ok none => .ok none
      | .ok (some i) => findEntry rest items[i]? := by
  cases hindex : Path.index? s with
  | error e => simp [find?_cons, child?, hindex, Except.bind, bind]
  | ok i? =>
    cases i? with
    | none => simp [find?_cons, child?, hindex, Except.bind, bind]
    | some i => exact find?_of_child? (child?_arr hindex) rest

section
variable {v : Json} {s : String} {rest : List String} {e : LongNumeral}

theorem writeEntry_longNumeral_iff (old : Option Json)
    (ih : ∀ tree : Json, write? v tree rest = .error (.longNumeral e) ↔ tree.find? rest = .error e) :
    writeEntry v s rest old = .error (.longNumeral e) ↔ findEntry rest old = .error e := by
  cases rest with
  | nil =>
    rw [writeEntry_nil]
    cases old <;> simp [findEntry, find?]
  | cons t rest =>
    have hempty : write? v (.obj []) (t :: rest) ≠ .error (.longNumeral e) := fun h =>
      find?_empty _ e ((ih _).mp h)
    cases old with
    | none => simpa [writeEntry, findEntry] using hempty
    | some w =>
      cases w with
      | obj fields => simpa [writeEntry, findEntry, isContainer] using ih (.obj fields)
      | arr items => simpa [writeEntry, findEntry, isContainer] using ih (.arr items)
      | null => simpa [writeEntry, findEntry, isContainer, find?_scalar] using hempty
      | _ => simp [writeEntry, findEntry, isContainer, find?_scalar]

theorem write?_longNumeral_iff (tree : Json) (segments : List String) :
    write? v tree segments = .error (.longNumeral e) ↔ tree.find? segments = .error e := by
  induction segments generalizing tree with
  | nil => simp [write?, find?]
  | cons s rest ih =>
    have hentry := fun old => writeEntry_longNumeral_iff (s := s) old ih
    cases tree with
    | obj fields =>
      rw [write?_obj, find?_obj, ← hentry]
      cases writeEntry v s rest (Entries.get? fields (s : Key)) <;> simp [Except.map]
    | arr items =>
      rw [write?_arr, find?_arr]
      cases Path.index? s with
      | error e' => simp
      | ok i? =>
        cases i? with
        | none => simp
        | some i =>
          simp only
          split
          · rename_i hi
            rw [List.getElem?_eq_none (by omega)]
            simp [findEntry]
          · rw [← hentry]
            cases writeEntry v s rest items[i]? <;> simp [Except.map]
    | _ => simp [write?_scalar, find?_scalar, isContainer]

end

/-- What a write at a path ends in: the new tree, or the old one if the write was refused. -/
theorem setAt_result (tree : Json) (path : String) (v : Json) : (tree.setAt path v).result =
    match write? v tree (Path.segments path) with
    | .ok new => .ok new
    | .error (.refused _) => .ok tree
    | .error (.longNumeral e) => .error e := by
  unfold setAt
  cases write? v tree (Path.segments path) with
  | ok new => rfl
  | error e =>
    cases e with
    | refused obstacle =>
      rw [Logged.result_bind]
      rfl
    | longNumeral e => rfl

theorem setAt_error_iff (tree : Json) (path : String) (v : Json) (e : LongNumeral) :
    (tree.setAt path v).result = .error e ↔ tree.find? (Path.segments path) = .error e := by
  rw [← write?_longNumeral_iff (v := v), setAt_result]
  cases write? v tree (Path.segments path) with
  | ok new => simp
  | error err => cases err <;> simp

theorem dropEntry_error_iff (v : Json) (s : String) (e : LongNumeral) :
    v.dropEntry s = .error e ↔ v.child? s = .error e := by
  cases v with
  | arr items =>
    simp only [dropEntry, child?]
    cases Path.index? s with
    | error e' => simp [bind, Except.bind]
    | ok i? => cases i? <;> simp [bind, Except.bind]
  | _ => simp [dropEntry, child?]

theorem replaceEntry_ok {v : Json} {s : String} {u : Option Json} (h : v.child? s = .ok u) (w : Json) :
    ∃ new, v.replaceEntry s w = .ok new := by
  cases v with
  | arr items =>
    simp only [replaceEntry, child?] at h ⊢
    cases hi : Path.index? s with
    | error e => rw [hi] at h; cases h
    | ok i? => cases i? <;> exact ⟨_, rfl⟩
  | _ => exact ⟨_, rfl⟩

theorem remove?_error_iff (tree : Json) (segments : List String) (e : LongNumeral) :
    tree.remove? segments = .error e ↔ tree.find? segments = .error e := by
  induction segments generalizing tree with
  | nil => simp [remove?, find?]
  | cons s rest ih =>
    cases rest with
    | nil =>
      rw [remove?_singleton, dropEntry_error_iff, find?_cons]
      cases tree.child? s with
      | error e' => simp [Except.bind]
      | ok w? => cases w? <;> simp [Except.bind, find?]
    | cons t rest =>
      rw [remove?_cons, find?_cons]
      cases hc : tree.child? s with
      | error e' => simp [Except.bind]
      | ok w? =>
        cases w? with
        | none => simp [Except.bind]
        | some w =>
          simp only [Except.bind]
          rw [← ih w]
          cases w.remove? (t :: rest) with
          | error e' => simp
          | ok w' =>
            obtain ⟨new, hnew⟩ := replaceEntry_ok hc w'
            simp [hnew]

end LiveSurface.Json
