import LiveSurface.Proofs.Path.Change
/-!
# What a write makes of a tree

`write?` makes a new tree, and is refused before it has made one. A walk that changes its tree as it goes has no such
way out: it puts objects in place of missing entries and of nulls, and what it has changed stays changed if it is
stopped further down. `writeInPlace` is that walk. It comes to the same: once it has made an object it stands in an
empty one, and nothing stops a walk below an empty object.

Results:
* `write?_ok_cases`, `writeEntry_ok_cases`: what a write makes of a container, one segment at a time.
* `find?_write?`: after a write, the segments lead to the value.
* `writeInPlace_eq`: a walk that is stopped has changed nothing, and one that is not has made what a write makes.
-/
namespace LiveSurface.Json

section
variable {v new tree : Json} {fields : Fields} {items : List Json} {s : String} {rest segments : List String}

/-! ## What was written is found -/

/-- **What a write makes of a container**: one entry is written into, in an object under the segment and in an array at
a place that exists or comes next. -/
theorem write?_ok_cases (h : write? v tree (s :: rest) = .ok new) :
    (∃ (fields : Fields) (entry : Json), tree = .obj fields ∧
        writeEntry v s rest (fields.get? (s : Key)) = .ok entry ∧ new = .obj (fields.put (s : Key) entry)) ∨
      ∃ items i entry, tree = .arr items ∧ Path.index? s = .ok (some i) ∧ i ≤ items.length ∧
        writeEntry v s rest items[i]? = .ok entry ∧ new = .arr (putItem items i entry) := by
  cases tree with
  | obj fields =>
    rw [write?_obj] at h
    cases hentry : writeEntry v s rest (Entries.get? fields (s : Key)) with
    | error e => rw [hentry] at h; cases h
    | ok entry =>
      rw [hentry] at h
      cases h
      exact .inl ⟨fields, entry, rfl, hentry, rfl⟩
  | arr items =>
    rw [write?_arr] at h
    split at h
    · cases h
    · cases h
    · next i hindex =>
      split at h
      · cases h
      · next hi =>
        cases hentry : writeEntry v s rest items[i]? with
        | error e => rw [hentry] at h; cases h
        | ok entry =>
          rw [hentry] at h
          cases h
          exact .inr ⟨items, i, entry, rfl, hindex, by omega, hentry, rfl⟩
  | _ => cases h

/-- Below an empty object nothing stops a write. -/
theorem exists_write?_empty (v : Json) (segments : List String) : ∃ new, write? v (.obj []) segments = .ok new := by
  induction segments with
  | nil => exact ⟨v, rfl⟩
  | cons s rest ih =>
    obtain ⟨entry, hentry⟩ := ih
    exact ⟨_, by rw [write?_obj, Entries.get?_nil, writeEntry, hentry]; rfl⟩

/-- The entry that a write makes is itself what a write makes, if only of an empty object. -/
theorem writeEntry_ok_cases {old : Option Json} {entry : Json} (h : writeEntry v s rest old = .ok entry) :
    write? v (.obj []) rest = .ok entry ∨ ∃ w, old = some w ∧ write? v w rest = .ok entry := by
  unfold writeEntry at h
  split at h
  · exact .inl h
  · exact .inl h
  · next w _ =>
    split at h
    · exact .inr ⟨w, rfl, h⟩
    · cases h

theorem getElem?_putItem_self {i : Nat} (hi : i ≤ items.length) : (putItem items i v)[i]? = some v := by
  unfold putItem
  have hlen : (items.take i).length = i := List.length_take_of_le hi
  rw [List.getElem?_append_right (by omega), hlen, Nat.sub_self]
  rfl

theorem getElem?_putItem_of_ne {i j : Nat} (hi : i ≤ items.length) (h : j ≠ i) :
    (putItem items i v)[j]? = items[j]? := by
  have hlen : (items.take i).length = i := List.length_take_of_le hi
  unfold putItem
  rcases Nat.lt_or_gt_of_ne h with hlt | hgt
  · rw [List.getElem?_append_left (by omega), List.getElem?_take_of_lt hlt]
  · obtain ⟨k, rfl⟩ : ∃ k, j = i + 1 + k := ⟨j - (i + 1), by omega⟩
    rw [List.getElem?_append_right (by omega), hlen, show i + 1 + k - i = k + 1 by omega, List.getElem?_cons_succ,
      List.getElem?_drop]

theorem length_putItem_of_le {i : Nat} (hi : i ≤ items.length) (v : Json) :
    (putItem items i v).length = max items.length (i + 1) := by
  simp [putItem]
  omega

/-- The item that was put last counts. -/
theorem putItem_putItem_self {i : Nat} (hi : i ≤ items.length) (v w : Json) :
    putItem (putItem items i v) i w = putItem items i w := by
  have hlen : (items.take i).length = i := List.length_take_of_le hi
  have hfront : (putItem items i v).take i = items.take i := by
    rw [putItem, List.take_append_of_le_length (by omega), List.take_take, Nat.min_self]
  have hback : (putItem items i v).drop (i + 1) = items.drop (i + 1) := by
    rw [putItem, List.drop_append, hlen, List.drop_eq_nil_of_le (by omega)]
    simp
  rw [putItem, hfront, hback, putItem]

/-- **What was written is found.** -/
theorem find?_write? (h : write? v tree segments = .ok new) : new.find? segments = .ok (some v) := by
  induction segments generalizing tree new with
  | nil =>
    cases h
    rfl
  | cons s rest ih =>
    have hentry : ∀ old entry, writeEntry v s rest old = .ok entry → entry.find? rest = .ok (some v) := by
      intro old entry h
      rcases writeEntry_ok_cases h with h | ⟨w, -, h⟩ <;> exact ih h
    rcases write?_ok_cases h with ⟨fields, entry, rfl, he, rfl⟩ | ⟨items, i, entry, rfl, hindex, hi, he, rfl⟩
    · rw [find?_obj, Entries.get?_put_self]
      exact hentry _ _ he
    · have hget : (putItem items i entry)[i]? = some entry := getElem?_putItem_self hi
      rw [find?_arr, hindex]
      simp only [hget]
      exact hentry _ _ he

theorem setAt_of_write? {path : String} (h : write? v tree (Path.segments path) = .ok new) :
    tree.setAt path v = pure new := by
  unfold setAt
  rw [h]

theorem getAt_of_write? {path : String} (h : write? v tree (Path.segments path) = .ok new) :
    new.getAt path = .ok v := by
  unfold getAt
  rw [find?_write? h]
  rfl

/-! ## Walking -/

/-- The container in which a walk goes on behind an entry: an empty object if there is none or null, and no container
if there is another scalar. -/
def entered? : Option Json → Option Json
  | none | some .null => some (.obj [])
  | some w => if w.isContainer then some w else none

/-- A write that changes the tree as it walks: the tree as the walk leaves it, also where it is stopped, and how it
ended. -/
def writeInPlace (v : Json) : Json → List String → Json × Except WriteError Unit
  | _, [] => (v, .ok ())
  | tree, s :: rest =>
    -- The entry under `s` as the walk leaves it and how it ended there, if the walk could enter it.
    let entry (old : Option Json) : Option (Json × Except WriteError Unit) :=
      match rest, entered? old with
      | [], _ => some (v, .ok ())
      | _, none => none
      | _, some w => some (writeInPlace v w rest)
    let stopped : Json × Except WriteError Unit := (tree, .error (.refused (.segment s)))
    match tree with
    | .obj fields =>
      match entry (Entries.get? (κ := Key) fields s) with
      | none => stopped
      | some (left, ended) => (.obj (Entries.put (κ := Key) fields s left), ended)
    | .arr items =>
      match Path.index? s with
      | .error e => (tree, .error (.longNumeral e))
      | .ok none => stopped
      | .ok (some i) =>
        if items.length < i then stopped
        else
          match entry items[i]? with
          | none => stopped
          | some (left, ended) => (.arr (putItem items i left), ended)
    | _ => (tree, .error (.refused .scalarRoot))

/-- The entry under a segment as a walk leaves it, if the walk could enter it. -/
def walkEntry (v : Json) (rest : List String) (old : Option Json) : Option (Json × Except WriteError Unit) :=
  if rest = [] then some (v, .ok ()) else (entered? old).map fun w => writeInPlace v w rest

theorem writeInPlace_obj (v : Json) (fields : Fields) (s : String) (rest : List String) :
    writeInPlace v (.obj fields) (s :: rest) = match walkEntry v rest (fields.get? (s : Key)) with
      | none => (.obj fields, .error (.refused (.segment s)))
      | some (left, ended) => (.obj (fields.put (s : Key) left), ended) := by
  rw [writeInPlace, walkEntry]
  cases rest with
  | nil => rfl
  | cons t rest => cases h : entered? (fields.get? (s : Key)) <;> simp [h]

theorem writeInPlace_arr (v : Json) (items : List Json) (s : String) (rest : List String) :
    writeInPlace v (.arr items) (s :: rest) = match Path.index? s with
      | .error e => (.arr items, .error (.longNumeral e))
      | .ok none => (.arr items, .error (.refused (.segment s)))
      | .ok (some i) =>
        if items.length < i then (.arr items, .error (.refused (.segment s)))
        else
          match walkEntry v rest items[i]? with
          | none => (.arr items, .error (.refused (.segment s)))
          | some (left, ended) => (.arr (putItem items i left), ended) := by
  rw [writeInPlace]
  cases rest with
  | nil => rfl
  | cons t rest =>
    cases Path.index? s with
    | error e => rfl
    | ok i? =>
      cases i? with
      | none => rfl
      | some i => cases h : entered? items[i]? <;> simp [walkEntry, h]

theorem writeEntry_cons (v : Json) (s t : String) (rest : List String) (old : Option Json) :
    writeEntry v s (t :: rest) old = match entered? old with
      | none => .error (.refused (.segment s))
      | some w => write? v w (t :: rest) := by
  cases old with
  | none => rfl
  | some w => cases w <;> rfl

theorem entered?_cases {old : Option Json} {w : Json} (h : entered? old = some w) : old = some w ∨ w = .obj [] := by
  cases old with
  | none => cases h; exact .inr rfl
  | some u => cases u <;> cases h <;> first | exact .inl rfl | exact .inr rfl

/-- What a walk that comes to the same as a write makes of an entry: it is stopped in front of the entry, or leaves
there what the write makes of it, or leaves it as it was. -/
theorem walkEntry_eq (s : String)
    (ih : ∀ tree, writeInPlace v tree rest =
      ((write? v tree rest).toOption.getD tree, (write? v tree rest).map fun _ => ())) (old : Option Json) :
    match writeEntry v s rest old with
    | .ok entry => walkEntry v rest old = some (entry, .ok ())
    | .error e =>
      (walkEntry v rest old = none ∧ e = .refused (.segment s)) ∨
        ∃ w, old = some w ∧ walkEntry v rest old = some (w, .error e) := by
  cases rest with
  | nil =>
    rw [writeEntry_nil]
    rfl
  | cons t rest =>
    have hwalk : walkEntry v (t :: rest) old = (entered? old).map fun w => writeInPlace v w (t :: rest) := rfl
    rw [writeEntry_cons, hwalk]
    cases hentered : entered? old with
    | none => exact .inl ⟨rfl, rfl⟩
    | some w =>
      simp only [Option.map_some, ih]
      cases hw : write? v w (t :: rest) with
      | ok entry => rfl
      | error e =>
        rcases entered?_cases hentered with hold | rfl
        · exact .inr ⟨w, hold, rfl⟩
        · -- The walk has just made this object, so that it is not stopped.
          obtain ⟨made, hmade⟩ := exists_write?_empty v (t :: rest)
          rw [hmade] at hw
          cases hw

theorem putItem_eq_self {i : Nat} (h : items[i]? = some v) : putItem items i v = items := by
  obtain ⟨hi, hv⟩ := List.getElem?_eq_some_iff.mp h
  unfold putItem
  rw [← hv, ← List.drop_eq_getElem_cons hi, List.take_append_drop]

/-- **A walk that is stopped has changed nothing**, and one that is not has made what a write makes. -/
theorem writeInPlace_eq (v tree : Json) (segments : List String) : writeInPlace v tree segments =
    ((write? v tree segments).toOption.getD tree, (write? v tree segments).map fun _ => ()) := by
  induction segments generalizing tree with
  | nil => cases tree <;> rfl
  | cons s rest ih =>
    cases tree with
    | obj fields =>
      have hentry := walkEntry_eq s ih (Entries.get? fields (s : Key))
      rw [writeInPlace_obj, write?_obj]
      cases he : writeEntry v s rest (Entries.get? fields (s : Key)) with
      | ok entry =>
        simp only [he] at hentry
        rw [hentry]
        rfl
      | error e =>
        simp only [he] at hentry
        rcases hentry with ⟨hstop, rfl⟩ | ⟨w, hw, hleft⟩
        · rw [hstop]
          rfl
        · rw [hleft]
          simp only [Entries.put_eq_self hw]
          rfl
    | arr items =>
      rw [writeInPlace_arr, write?_arr]
      cases Path.index? s with
      | error e => rfl
      | ok i? =>
        cases i? with
        | none => rfl
        | some i =>
          simp only
          split
          · rfl
          · have hentry := walkEntry_eq s ih items[i]?
            cases he : writeEntry v s rest items[i]? with
            | ok entry =>
              simp only [he] at hentry
              rw [hentry]
              rfl
            | error e =>
              simp only [he] at hentry
              rcases hentry with ⟨hstop, rfl⟩ | ⟨w, hw, hleft⟩
              · rw [hstop]
                rfl
              · rw [hleft]
                simp only [putItem_eq_self hw]
                rfl
    | _ => rfl

end

end LiveSurface.Json
