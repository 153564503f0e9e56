import LiveSurface.Proofs.Path.Frame
/-!
# What a removal takes away

A removal goes to the container in front of the last segment, at the parent of its path, and takes one entry out of it:
the field of that name, or the item at that index, so that the items behind it move up by one. If there is no such
entry, the tree stays as it was. All else in the tree stays in its place.

A removal at a path to which a write has just added an entry finds that entry alone to be new, so that it restores the
tree.

Results:
* `Path.segments_parent`: a parent's segments, put together and taken apart again.
* `exists_remove?_of_find?`: a removal below a value that is there is a removal in that value.
* `exists_losesEntry`, `dropEntry_of_child?_none`: a container loses the entry that a segment selects, if there is one.
* `removeAt_exact`: what a removal at a path takes away and what it leaves.
* `removeAt_setAt`: a removal undoes a write that added an entry.
-/
namespace LiveSurface

namespace Path

/-! ## Parents -/

theorem not_mem_of_mem_pieces {cs piece : List Char} (h : piece ∈ pieces cs) : '/' ∉ piece := by
  induction cs generalizing piece with
  | nil => simp_all
  | cons c rest ih =>
    by_cases hc : c = '/'
    · rw [hc, pieces_slash] at h
      rcases List.mem_cons.mp h with rfl | h
      · exact List.not_mem_nil
      · exact ih h
    · rw [pieces_cons hc] at h
      cases hp : pieces rest with
      | nil => exact absurd hp (pieces_ne_nil rest)
      | cons first more =>
        rw [hp] at h ih
        rcases List.mem_cons.mp h with rfl | h
        · have hfirst := ih List.mem_cons_self
          simp only [List.mem_cons, not_or]
          exact ⟨Ne.symm hc, hfirst⟩
        · exact ih (List.mem_cons_of_mem first h)

/-- Segments are not empty, and there are no slashes in them. -/
theorem mem_segments {path s : String} (h : s ∈ segments path) : s ≠ "" ∧ '/' ∉ s.toList := by
  obtain ⟨piece, hpiece, rfl⟩ := List.mem_map.mp h
  obtain ⟨hmem, hne⟩ := List.mem_filter.mp hpiece
  refine ⟨?_, ?_⟩
  · simpa using hne
  · rw [String.toList_ofList]
    exact not_mem_of_mem_pieces hmem

/-- Such texts with slashes between them are the segments of a path. -/
theorem segments_intercalate {names : List String} (h : ∀ s ∈ names, s ≠ "" ∧ '/' ∉ s.toList) :
    segments ("/".intercalate names) = names := by
  induction names with
  | nil => rfl
  | cons s rest ih =>
    obtain ⟨hs, hrest⟩ := List.forall_mem_cons.mp h
    cases rest with
    | nil =>
      rw [String.intercalate_singleton]
      exact segments_of_not_mem hs.1 hs.2
    | cons t rest =>
      rw [String.intercalate_cons_cons, String.append_assoc, segments_append s _ (.inr (by simp)),
        segments_slash_append, segments_of_not_mem hs.1 hs.2, ih hrest]
      rfl

/-- The path of the container from which the last segment of a path selects. -/
def parent (path : String) : String := "/".intercalate (segments path).dropLast

theorem segments_parent (path : String) : segments (parent path) = (segments path).dropLast :=
  segments_intercalate fun _ hs => mem_segments (List.dropLast_subset _ hs)

theorem segments_of_getLast? {path s : String} (h : (segments path).getLast? = some s) :
    segments path = segments (parent path) ++ [s] := by
  obtain ⟨above, habove⟩ := List.getLast?_eq_some_iff.mp h
  rw [segments_parent, habove, List.dropLast_concat]

end Path

namespace Json

section
variable {v w tree parent left new : Json} {s : String} {above rest : List String}

/-! ## One container -/

/-- A container without the entry under `s`: an object without the field of that name, or an array without the item at
that index, in which the items behind it have moved up by one. -/
inductive LosesEntry (s : String) : Json → Json → Prop
  | field {fields left : Fields} {w : Json} (hfield : fields.get? (s : Key) = some w)
      (hleft : left = fields.filter fun e => e.1 ≠ (s : Key))
      (hlen : (Entries.keys fields).Nodup → left.length + 1 = fields.length) :
      LosesEntry s (.obj fields) (.obj left)
  | item {items left : List Json} {i : Nat} (hindex : Path.index? s = .ok (some i)) (hi : i < items.length)
      (hfront : ∀ j < i, left[j]? = items[j]?) (hback : ∀ j ≥ i, left[j]? = items[j + 1]?)
      (hlen : left.length + 1 = items.length) : LosesEntry s (.arr items) (.arr left)

theorem LosesEntry.exists_child? (h : LosesEntry s v left) : ∃ w, v.child? s = .ok (some w) := by
  cases h with
  | @field _ _ w hfield => exact ⟨w, by rw [child?_obj, hfield]⟩
  | @item items _ i hindex hi => exact ⟨items[i], by rw [child?_arr hindex, List.getElem?_eq_getElem hi]⟩

/-- **A container loses the entry** that a segment selects. -/
theorem exists_losesEntry (h : v.child? s = .ok (some w)) :
    ∃ left, v.dropEntry s = .ok left ∧ LosesEntry s v left := by
  cases v with
  | obj fields =>
    have hfield : Entries.get? fields (s : Key) = some w := Except.ok.inj h
    exact ⟨_, rfl, .field hfield rfl fun hnodup => Entries.length_erase hnodup hfield⟩
  | arr items =>
    obtain ⟨i, hindex, hw⟩ := exists_index_of_child? h
    obtain ⟨hi, -⟩ := List.getElem?_eq_some_iff.mp hw
    refine ⟨.arr (items.eraseIdx i), ?_, .item hindex hi ?_ ?_ ?_⟩
    · rw [dropEntry, hindex]
      rfl
    · intro j hj
      rw [List.getElem?_eraseIdx_of_lt hj]
    · intro j hj
      rw [List.getElem?_eraseIdx_of_ge hj]
    · rw [List.length_eraseIdx_of_lt hi]
      omega
  | _ => cases h

/-- A value without such an entry stays as it is. -/
theorem dropEntry_of_child?_none (h : v.child? s = .ok none) : v.dropEntry s = .ok v := by
  cases v with
  | obj fields => rw [dropEntry, Entries.erase_eq_self (Except.ok.inj h)]
  | arr items =>
    simp only [child?] at h
    rw [dropEntry]
    cases hindex : Path.index? s with
    | error e => rw [hindex] at h; cases h
    | ok i? =>
      rw [hindex] at h
      cases i? with
      | none => rfl
      | some i =>
        have hlen : items.length ≤ i := List.getElem?_eq_none_iff.mp (Except.ok.inj h)
        show Except.ok (Json.arr (items.eraseIdx i)) = _
        rw [List.eraseIdx_of_length_le hlen]
  | _ => rfl

/-! ## Down to the container -/

theorem remove?_cons_of_ne_nil (v : Json) (s : String) (hne : rest ≠ []) :
    v.remove? (s :: rest) = (v.child? s).bind fun w? =>
      match w? with
      | some w => (w.remove? rest).bind (v.replaceEntry s)
      | none => .ok v := by
  obtain ⟨t, rest, rfl⟩ := List.exists_cons_of_ne_nil hne
  exact remove?_cons v s t rest

/-- **A removal below a value that is there** is a removal in that value. -/
theorem exists_remove?_of_find? (hparent : tree.find? above = .ok (some parent)) (hne : rest ≠ [])
    (hleft : parent.remove? rest = .ok left) :
    ∃ new, tree.remove? (above ++ rest) = .ok new ∧ Replaced parent left above tree new := by
  induction above generalizing tree with
  | nil =>
    cases hparent
    exact ⟨left, hleft, .here⟩
  | cons r above ih =>
    obtain ⟨u, hchild, hu⟩ := exists_child?_of_find? hparent
    obtain ⟨entry, hremove, hreplaced⟩ := ih hu
    obtain ⟨new, hnew, hput⟩ := exists_replaceEntry hchild entry
    refine ⟨new, ?_, .deeper hchild hreplaced hput⟩
    rw [List.cons_append, remove?_cons_of_ne_nil tree r (by simp [hne]), hchild]
    simp only [Except.bind, hremove, hnew]

/-- A removal below a place where nothing is changes nothing. -/
theorem remove?_of_find?_none (hnone : tree.find? above = .ok none) (hne : rest ≠ []) :
    tree.remove? (above ++ rest) = .ok tree := by
  induction above generalizing tree with
  | nil => cases hnone
  | cons r above ih =>
    rw [List.cons_append, remove?_cons_of_ne_nil tree r (by simp [hne])]
    rcases find?_cons_ok hnone with ⟨hchild, -⟩ | ⟨u, hchild, hu⟩
    · rw [hchild]
      rfl
    · obtain ⟨new, hnew, hput⟩ := exists_replaceEntry hchild u
      rw [hchild]
      simp only [Except.bind, ih hu, hnew, hput.eq_self hchild]

/-- **A removal at a value that is there** takes its entry away, or changes nothing if it has none. -/
theorem exists_remove?_cases {w? : Option Json} (hparent : tree.find? above = .ok (some parent))
    (hchild : parent.child? s = .ok w?) :
    ∃ new, tree.remove? (above ++ [s]) = .ok new ∧
      ((∃ left, LosesEntry s parent left ∧ Replaced parent left above tree new) ∨
        (∀ left, ¬LosesEntry s parent left) ∧ new = tree) := by
  cases w? with
  | none =>
    have hdrop := dropEntry_of_child?_none hchild
    obtain ⟨new, hnew, hreplaced⟩ := exists_remove?_of_find? hparent (List.cons_ne_nil s []) hdrop
    refine ⟨new, hnew, .inr ⟨?_, hreplaced.eq_self⟩⟩
    intro left hloses
    obtain ⟨w, hw⟩ := hloses.exists_child?
    rw [hchild] at hw
    cases hw
  | some w =>
    obtain ⟨left, hdrop, hloses⟩ := exists_losesEntry hchild
    obtain ⟨new, hnew, hreplaced⟩ := exists_remove?_of_find? hparent (List.cons_ne_nil s []) hdrop
    exact ⟨new, hnew, .inl ⟨left, hloses, hreplaced⟩⟩

/-- **A removal is exact.** If no index on the way is too long to be read, a removal at a path that ends in `s` comes
to a tree. Its parent leads to a value; if that is a container with an entry under `s`, the new tree is the old one with
the container in its place that has lost this entry, and else it is the old one. Every path that parts from the parent
reads what it read before. -/
theorem removeAt_exact (tree : Json) {path s : String} (hlast : (Path.segments path).getLast? = some s)
    (hshort : ¬tree.MeetsLongIndex (Path.segments path)) :
    ∃ parent new, tree.getAt (Path.parent path) = .ok parent ∧ tree.removeAt path = .ok new ∧
      ((∃ left, LosesEntry s parent left ∧ Replaced parent left (Path.segments (Path.parent path)) tree new) ∨
        (∀ left, ¬LosesEntry s parent left) ∧ new = tree) ∧
      ∀ other, tree.Parted (Path.segments (Path.parent path)) (Path.segments other) →
        new.getAt other = tree.getAt other := by
  rw [Path.segments_of_getLast? hlast, ← find?_error_iff, find?_append] at hshort
  unfold removeAt getAt
  rw [Path.segments_of_getLast? hlast]
  cases hparent : tree.find? (Path.segments (Path.parent path)) with
  | error e => exact absurd ⟨e, by rw [hparent]; rfl⟩ hshort
  | ok parent? =>
    rw [hparent] at hshort
    cases parent? with
    | none =>
      have hnone : ∀ left, ¬LosesEntry s .null left := by
        intro left hloses
        cases hloses
      have hnew := remove?_of_find?_none hparent (List.cons_ne_nil s [])
      exact ⟨.null, tree, rfl, hnew, .inr ⟨hnone, rfl⟩, fun _ _ => rfl⟩
    | some parent =>
      cases hchild : parent.child? s with
      | error e => exact absurd ⟨e, by simp only [Except.bind, find?_cons, hchild]⟩ hshort
      | ok w? =>
        obtain ⟨new, hnew, hcases⟩ := exists_remove?_cases hparent hchild
        refine ⟨parent, new, rfl, hnew, hcases, ?_⟩
        intro other hparted
        rcases hcases with ⟨left, -, hreplaced⟩ | ⟨-, rfl⟩
        · rw [hreplaced.find?_of_parted hparted]
        · rfl

/-- A removal at the first place of an array, which is spelled with a zero in front. -/
theorem removeAt_exact_rows :
    (Path.segments "/rows/00").getLast? = some "00" ∧ ¬rows.MeetsLongIndex (Path.segments "/rows/00") ∧
      ∃ parent new, rows.getAt (Path.parent "/rows/00") = .ok parent ∧ rows.removeAt "/rows/00" = .ok new ∧
        ((∃ left, LosesEntry "00" parent left ∧
            Replaced parent left (Path.segments (Path.parent "/rows/00")) rows new) ∨
          (∀ left, ¬LosesEntry "00" parent left) ∧ new = rows) ∧
        ∀ other, rows.Parted (Path.segments (Path.parent "/rows/00")) (Path.segments other) →
          new.getAt other = rows.getAt other := by
  have hsegments : Path.segments "/rows/00" = ["rows", "00"] := by decide
  have hlast : (Path.segments "/rows/00").getLast? = some "00" := by rw [hsegments]; rfl
  have hshort : ¬rows.MeetsLongIndex (Path.segments "/rows/00") := by
    have hfind : rows.find? ["rows", "00"] = .ok (some .null) := rfl
    rw [hsegments, ← find?_error_iff, hfind]
    exact fun ⟨_, he⟩ => nomatch he
  exact ⟨hlast, hshort, removeAt_exact rows hlast hshort⟩

/-! ## Added and removed again -/

/-- A segment selects no entry of a container yet, and a write puts one at its end: an object has no field of that name,
or the segment is the index one past the end of an array. -/
def IsNewEntry (v : Json) (s : String) : Prop :=
  match v with
  | .obj fields => Entries.get? (κ := Key) fields s = none
  | .arr items => Path.index? s = .ok (some items.length)
  | _ => False

/-- A container that is given a new entry and loses it again is the old one. -/
theorem exists_write?_remove? (h : parent.IsNewEntry s) (v : Json) :
    ∃ left, write? v parent [s] = .ok left ∧ left.remove? [s] = .ok parent := by
  cases parent with
  | obj fields =>
    have hnew : Entries.get? fields (s : Key) = none := h
    refine ⟨.obj (Entries.put fields (s : Key) v), ?_, ?_⟩
    · rw [write?_obj, writeEntry_nil]
      rfl
    · rw [remove?_singleton, dropEntry, Entries.erase_put_self, Entries.erase_eq_self hnew]
  | arr items =>
    have hindex : Path.index? s = .ok (some items.length) := h
    refine ⟨.arr (items ++ [v]), ?_, ?_⟩
    · rw [write?_arr, hindex]
      simp only [Nat.lt_irrefl, if_false, writeEntry_nil, Except.map, putItem_length]
    · rw [remove?_singleton, dropEntry, hindex]
      show Except.ok (Json.arr ((items ++ [v]).eraseIdx items.length)) = _
      rw [List.eraseIdx_append_of_length_le (Nat.le_refl _), Nat.sub_self]
      simp
  | _ => exact absurd h id

/-- **A removal undoes a write that added an entry.** If the parent of a path leads to an object without a field of the
name that the path ends in, or to an array whose length it ends in, a write at the path is done without a word, so that
its value is found there, and a removal at the path restores the tree. -/
theorem removeAt_setAt (tree : Json) {path s : String} {parent : Json} (v : Json)
    (hlast : (Path.segments path).getLast? = some s) (hparent : tree.getAt (Path.parent path) = .ok parent)
    (hnew : parent.IsNewEntry s) :
    ∃ made, tree.setAt path v = pure made ∧ made.getAt path = .ok v ∧ made.removeAt path = .ok tree := by
  obtain ⟨left, hwrite, hremove⟩ := exists_write?_remove? hnew v
  have hnull : parent ≠ .null := by
    intro heq
    rw [heq] at hnew
    exact hnew
  have hfind := find?_of_getAt hparent hnull
  obtain ⟨made, hmade, hput⟩ := exists_write?_of_find? hfind hwrite
  obtain ⟨restored, hrestored, htaken⟩ :=
    exists_remove?_of_find? hput.find?_right (List.cons_ne_nil s []) hremove
  refine ⟨made, ?_, ?_, ?_⟩
  · unfold setAt
    rw [Path.segments_of_getLast? hlast, hmade]
  · unfold getAt
    rw [Path.segments_of_getLast? hlast, find?_write? hmade]
    rfl
  · unfold removeAt
    rw [Path.segments_of_getLast? hlast, hrestored, (hput.trans htaken).eq_self]

/-- A write that appends to an array, at an index that is spelled with a zero in front. -/
theorem removeAt_setAt_rows :
    (Path.segments "/rows/02").getLast? = some "02" ∧
      rows.getAt (Path.parent "/rows/02") = .ok (.arr [.null, .bool true]) ∧
      (Json.arr [.null, .bool true]).IsNewEntry "02" ∧
      ∃ made, rows.setAt "/rows/02" .null = pure made ∧ made.getAt "/rows/02" = .ok .null ∧
        made.removeAt "/rows/02" = .ok rows := by
  have hsegments : Path.segments "/rows/02" = ["rows", "02"] := by decide
  have hlast : (Path.segments "/rows/02").getLast? = some "02" := by rw [hsegments]; rfl
  have hparent : rows.getAt (Path.parent "/rows/02") = .ok (.arr [.null, .bool true]) := by
    rw [getAt, Path.segments_parent, hsegments]
    rfl
  have hnew : (Json.arr [.null, .bool true]).IsNewEntry "02" := rfl
  exact ⟨hlast, hparent, hnew, removeAt_setAt rows .null hlast hparent hnew⟩

end

end Json

end LiveSurface
