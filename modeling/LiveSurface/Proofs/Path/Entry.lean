import LiveSurface.Proofs.Path.Write
/-!
# Entries on the way down a tree

A path selects one entry of each container that it passes. What is changed at its end changes these entries and none
beside them: `PutsEntry` says so of one container and `Replaced` of a whole tree. Two paths are `Parted` in a tree if
somewhere on the way down they select different entries. Which segments do depends on the container: `1` and `01` are
one place in an array and two names in an object.

Results:
* `putsEntry_obj`, `putsEntry_arr`, `PutsEntry.obj_or_arr`: an entry is put into an object or at a place of an array.
* `PutsEntry.child?_self`, `PutsEntry.child?_of_not_sameEntry`: it is found there, and beside it nothing has changed.
* `PutsEntry.trans`, `PutsEntry.eq_self`: the last entry put counts, and an entry put where it was changes nothing.
* `PutsEntry.comm`: different entries may be put in either order.
* `Replaced.trans`, `Replaced.eq_self`, `Replaced.find?_of_parted`: the same down a whole path.
-/
namespace LiveSurface.Json

section
variable {u u' v w old mid new : Json} {s t : String} {segments : List String}

/-! ## One container -/

/-- Two segments select the same entry: in an array they are indices of the same number, elsewhere the same name. -/
def SameEntry (v : Json) (s t : String) : Prop :=
  match v with
  | .arr _ => ∃ i, Path.index? s = .ok (some i) ∧ Path.index? t = .ok (some i)
  | _ => s = t

/-- A container with `w` put under `s`: in place of the entry there, or at the end if there is none. All other entries
stay where they are. -/
inductive PutsEntry (s : String) (w : Json) : Json → Json → Prop
  | field {front back : Fields} {old : Json} (hfirst : (s : Key) ∉ Entries.keys front) :
      PutsEntry s w (.obj (front ++ ((s : Key), old) :: back)) (.obj (front ++ ((s : Key), w) :: back))
  | newField {fields : Fields} (hnew : (s : Key) ∉ Entries.keys fields) :
      PutsEntry s w (.obj fields) (.obj (fields ++ [((s : Key), w)]))
  | item {front back : List Json} {old : Json} (hindex : Path.index? s = .ok (some front.length)) :
      PutsEntry s w (.arr (front ++ old :: back)) (.arr (front ++ w :: back))
  | newItem {items : List Json} (hindex : Path.index? s = .ok (some items.length)) :
      PutsEntry s w (.arr items) (.arr (items ++ [w]))

theorem putItem_middle (front : List Json) (old w : Json) (back : List Json) :
    putItem (front ++ old :: back) front.length w = front ++ w :: back := by
  simp [putItem]

theorem putItem_length (items : List Json) (w : Json) : putItem items items.length w = items ++ [w] := by
  simp [putItem]

/-- An item put in place of another one. -/
theorem putItem_eq_set {items : List Json} {i : Nat} (hi : i < items.length) (w : Json) :
    putItem items i w = items.set i w := by
  rw [putItem, List.set_eq_take_append_cons_drop, if_pos hi]

/-- An entry is put into an object under its name. -/
theorem putsEntry_obj (fields : Fields) (s : String) (w : Json) :
    PutsEntry s w (.obj fields) (.obj (fields.put (s : Key) w)) := by
  cases hget : fields.get? (s : Key) with
  | none =>
    have hnew : (s : Key) ∉ fields.keys := by simp [Entries.mem_keys_iff, hget]
    rw [Entries.put_of_not_mem hnew]
    exact .newField hnew
  | some old =>
    obtain ⟨front, back, rfl, hfirst⟩ := Entries.exists_middle_of_get? hget
    rw [Entries.put_middle hfirst]
    exact .field hfirst

/-- An entry is put into an array at a place that exists or comes next. -/
theorem putsEntry_arr {items : List Json} {i : Nat} (hindex : Path.index? s = .ok (some i)) (hi : i ≤ items.length)
    (w : Json) : PutsEntry s w (.arr items) (.arr (putItem items i w)) := by
  rcases Nat.lt_or_eq_of_le hi with hlt | rfl
  · obtain ⟨front, old, back, rfl, rfl⟩ : ∃ front old back, items = front ++ old :: back ∧ front.length = i :=
      ⟨items.take i, items[i], items.drop (i + 1), by simp, by simp; omega⟩
    rw [putItem_middle]
    exact .item hindex
  · rw [putItem_length]
    exact .newItem hindex

/-- **There is no other way** to put an entry. -/
theorem PutsEntry.obj_or_arr (h : PutsEntry s w old new) :
    (∃ fields : Fields, old = .obj fields ∧ new = .obj (fields.put (s : Key) w)) ∨
      ∃ items i, old = .arr items ∧ Path.index? s = .ok (some i) ∧ i ≤ items.length ∧
        new = .arr (putItem items i w) := by
  cases h with
  | field hfirst => exact .inl ⟨_, rfl, by rw [Entries.put_middle hfirst]⟩
  | newField hnew => exact .inl ⟨_, rfl, by rw [Entries.put_of_not_mem hnew]⟩
  | item hindex => exact .inr ⟨_, _, rfl, hindex, by simp, by rw [putItem_middle]⟩
  | newItem hindex => exact .inr ⟨_, _, rfl, hindex, Nat.le_refl _, by rw [putItem_length]⟩

theorem sameEntry_self (h : v.child? s = .ok (some w)) : v.SameEntry s s := by
  cases v with
  | arr items =>
    obtain ⟨i, hindex, -⟩ := exists_index_of_child? h
    exact ⟨i, hindex, hindex⟩
  | _ => rfl

theorem SameEntry.symm (h : v.SameEntry s t) : v.SameEntry t s := by
  cases v with
  | arr items =>
    obtain ⟨i, hs, ht⟩ := h
    exact ⟨i, ht, hs⟩
  | _ => exact Eq.symm h

theorem SameEntry.child?_eq (h : v.SameEntry s t) : v.child? t = v.child? s := by
  cases v with
  | arr items =>
    obtain ⟨i, hs, ht⟩ := h
    rw [child?_arr hs, child?_arr ht]
  | _ => cases h; rfl

namespace PutsEntry

theorem child?_self (h : PutsEntry s w old new) : new.child? s = .ok (some w) := by
  rcases h.obj_or_arr with ⟨fields, rfl, rfl⟩ | ⟨items, i, rfl, hindex, hi, rfl⟩
  · rw [child?_obj, Entries.get?_put_self]
  · rw [child?_arr hindex, getElem?_putItem_self hi]

theorem sameEntry_iff (h : PutsEntry s w old new) : new.SameEntry s t ↔ old.SameEntry s t := by
  cases h <;> rfl

/-- **Beside the entry nothing has changed.** -/
theorem child?_of_not_sameEntry (h : PutsEntry s w old new) (hne : ¬old.SameEntry s t) :
    new.child? t = old.child? t := by
  rcases h.obj_or_arr with ⟨fields, rfl, rfl⟩ | ⟨items, i, rfl, hindex, hi, rfl⟩
  · have hkey : (t : Key) ≠ (s : Key) := fun heq => hne (congrArg Key.text heq).symm
    rw [child?_obj, child?_obj, Entries.get?_put_of_ne fields w hkey]
  · simp only [child?]
    cases ht : Path.index? t with
    | error e => rfl
    | ok j? =>
      cases j? with
      | none => rfl
      | some j =>
        have hij : j ≠ i := fun heq => hne ⟨i, hindex, heq ▸ ht⟩
        show Except.ok (putItem items i w)[j]? = Except.ok items[j]?
        rw [getElem?_putItem_of_ne hi hij]

/-- An entry is put into a container, and leaves one, in which a walk can go on. -/
theorem entered? (h : PutsEntry s w old new) :
    Json.entered? (some old) = some old ∧ Json.entered? (some new) = some new := by
  cases h <;> exact ⟨rfl, rfl⟩

/-- The entry that was put last counts. -/
theorem trans (h : PutsEntry s v old mid) (h' : PutsEntry s w mid new) : PutsEntry s w old new := by
  rcases h.obj_or_arr with ⟨fields, rfl, rfl⟩ | ⟨items, i, rfl, hindex, hi, rfl⟩
  · rcases h'.obj_or_arr with ⟨_, ⟨⟩, rfl⟩ | ⟨_, _, ⟨⟩, _⟩
    rw [Entries.put_put_self]
    exact putsEntry_obj fields s w
  · rcases h'.obj_or_arr with ⟨_, ⟨⟩, _⟩ | ⟨_, j, ⟨⟩, hj, -, rfl⟩
    obtain rfl : i = j := by simpa [hindex] using hj
    rw [putItem_putItem_self hi]
    exact putsEntry_arr hindex hi w

/-- There is one container with the entry put. -/
theorem unique {other : Json} (h : PutsEntry s w old new) (h' : PutsEntry s w old other) : other = new := by
  rcases h.obj_or_arr with ⟨fields, rfl, rfl⟩ | ⟨items, i, rfl, hindex, -, rfl⟩
  · rcases h'.obj_or_arr with ⟨_, ⟨⟩, rfl⟩ | ⟨_, _, ⟨⟩, _⟩
    rfl
  · rcases h'.obj_or_arr with ⟨_, ⟨⟩, _⟩ | ⟨_, j, ⟨⟩, hj, -, rfl⟩
    obtain rfl : i = j := by simpa [hindex] using hj
    rfl

/-- Put where an item is, an entry takes its place. -/
theorem eq_set {items : List Json} {i : Nat} (h : PutsEntry s w (.arr items) new)
    (hindex : Path.index? s = .ok (some i)) (hi : i < items.length) : new = .arr (items.set i w) := by
  rw [← putItem_eq_set hi]
  exact (putsEntry_arr hindex (Nat.le_of_lt hi) w).unique h

/-- Segments that select the same entry put into the same place. -/
theorem of_sameEntry (h : PutsEntry t w old new) (hsame : old.SameEntry s t) : PutsEntry s w old new := by
  rcases h.obj_or_arr with ⟨fields, rfl, rfl⟩ | ⟨items, i, rfl, hindex, hi, rfl⟩
  · obtain rfl : s = t := hsame
    exact h
  · obtain ⟨j, hs, ht⟩ := hsame
    obtain rfl : i = j := by simpa [hindex] using ht
    exact putsEntry_arr hs hi w

/-- Different entries of a container may be put in either order. -/
theorem comm {left right last : Json} (hne : ¬old.SameEntry s t) (hs : old.child? s = .ok (some u))
    (ht : old.child? t = .ok (some u')) (hleft : PutsEntry s v old left) (hnew : PutsEntry t w left new)
    (hright : PutsEntry t w old right) (hlast : PutsEntry s v right last) : last = new := by
  cases old with
  | obj fields =>
    have hkey : (t : Key) ≠ (s : Key) := fun heq => hne (congrArg Key.text heq).symm
    have hmem : (s : Key) ∈ Entries.keys fields := by
      rw [child?_obj] at hs
      simp [Entries.mem_keys_iff, Except.ok.inj hs]
    have hcomm := Entries.put_put_comm v w hkey hmem
    obtain rfl := hleft.unique (putsEntry_obj fields s v)
    obtain rfl := hright.unique (putsEntry_obj fields t w)
    obtain rfl := hnew.unique (putsEntry_obj _ t w)
    obtain rfl := hlast.unique (putsEntry_obj _ s v)
    rw [hcomm]
  | arr items =>
    obtain ⟨i, hi, hu⟩ := exists_index_of_child? hs
    obtain ⟨j, hj, hu'⟩ := exists_index_of_child? ht
    obtain ⟨hilt, -⟩ := List.getElem?_eq_some_iff.mp hu
    obtain ⟨hjlt, -⟩ := List.getElem?_eq_some_iff.mp hu'
    have hij : i ≠ j := fun heq => hne ⟨i, hi, heq ▸ hj⟩
    obtain rfl := hleft.eq_set hi hilt
    obtain rfl := hright.eq_set hj hjlt
    obtain rfl := hnew.eq_set hj (by simpa using hjlt)
    obtain rfl := hlast.eq_set hi (by simpa using hilt)
    rw [List.set_comm _ _ hij]
  | _ => cases hs

/-- An entry that is put where it was changes nothing. -/
theorem eq_self (h : PutsEntry s w old new) (hold : old.child? s = .ok (some w)) : new = old := by
  rcases h.obj_or_arr with ⟨fields, rfl, rfl⟩ | ⟨items, i, rfl, hindex, -, rfl⟩
  · rw [child?_obj] at hold
    rw [Entries.put_eq_self (Except.ok.inj hold)]
  · rw [child?_arr hindex] at hold
    rw [putItem_eq_self (Except.ok.inj hold)]

end PutsEntry

theorem exists_replaceEntry (h : v.child? s = .ok (some u)) (w : Json) :
    ∃ new, v.replaceEntry s w = .ok new ∧ PutsEntry s w v new := by
  cases v with
  | obj fields => exact ⟨_, rfl, putsEntry_obj fields s w⟩
  | arr items =>
    obtain ⟨i, hindex, hu⟩ := exists_index_of_child? h
    obtain ⟨hi, -⟩ := List.getElem?_eq_some_iff.mp hu
    refine ⟨.arr (putItem items i w), ?_, putsEntry_arr hindex (Nat.le_of_lt hi) w⟩
    rw [replaceEntry, hindex, putItem_eq_set hi]
    rfl
  | _ => cases h

/-! ## Down a path -/

/-- Two paths part in a tree: they select the same entries down to some value, and different ones there. -/
inductive Parted : Json → List String → List String → Prop
  | here {v : Json} {s t : String} {p q : List String} (h : ¬v.SameEntry s t) : Parted v (s :: p) (t :: q)
  | deeper {v w : Json} {s t : String} {p q : List String} (hsame : v.SameEntry s t)
      (hchild : v.child? s = .ok (some w)) (hrest : Parted w p q) : Parted v (s :: p) (t :: q)

/-- Paths that share a front part where it leads to, if they go on to different entries there. -/
theorem parted_of_front {front : List String} (hfront : v.find? front = .ok (some w)) (h : ¬w.SameEntry s t)
    (p q : List String) : v.Parted (front ++ s :: p) (front ++ t :: q) := by
  induction front generalizing v with
  | nil =>
    cases hfront
    exact .here h
  | cons r front ih =>
    obtain ⟨u, hchild, hu⟩ := exists_child?_of_find? hfront
    exact .deeper (sameEntry_self hchild) hchild (ih hu)

/-- A tree with `w` in place of `v` at the end of the segments. The containers on the way keep all other entries. -/
inductive Replaced (v w : Json) : List String → Json → Json → Prop
  | here : Replaced v w [] v w
  | deeper {tree new u u' : Json} {s : String} {rest : List String} (hchild : tree.child? s = .ok (some u))
      (hrest : Replaced v w rest u u') (hput : PutsEntry s u' tree new) : Replaced v w (s :: rest) tree new

namespace Replaced

theorem find?_right (h : Replaced v w segments old new) : new.find? segments = .ok (some w) := by
  induction h with
  | here => rfl
  | deeper hchild hrest hput ih =>
    rw [find?_of_child? hput.child?_self]
    exact ih

/-- What was put last is in place. -/
theorem trans (h : Replaced u v segments old mid) (h' : Replaced v w segments mid new) :
    Replaced u w segments old new := by
  induction h generalizing new with
  | here =>
    cases h'
    exact .here
  | deeper hchild hrest hput ih =>
    cases h' with
    | deeper hchild' hrest' hput' =>
      rw [hput.child?_self] at hchild'
      cases hchild'
      exact .deeper hchild (ih hrest') (hput.trans hput')

/-- A value in place of itself changes nothing. -/
theorem eq_self (h : Replaced v v segments old new) : new = old := by
  induction h with
  | here => rfl
  | deeper hchild hrest hput ih =>
    cases ih
    exact hput.eq_self hchild

/-- **A path that parts from the one with the replacement leads where it led.** -/
theorem find?_of_parted (h : Replaced v w segments old new) {other : List String} (hp : old.Parted segments other) :
    new.find? other = old.find? other := by
  induction h generalizing other with
  | here => cases hp
  | deeper hchild hrest hput ih =>
    cases hp with
    | here hne => rw [find?_cons, find?_cons, hput.child?_of_not_sameEntry hne]
    | deeper hsame hchild' hparted =>
      rw [hchild] at hchild'
      cases hchild'
      rw [find?_of_child? ((hput.sameEntry_iff.mpr hsame).child?_eq.trans hput.child?_self),
        find?_of_child? (hsame.child?_eq.trans hchild)]
      exact ih hparted

end Replaced

end

end LiveSurface.Json
