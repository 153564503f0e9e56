import LiveSurface.Proofs.Path.Entry
/-!
# What a write leaves alone

A write goes down its path and puts one entry into each container on the way: at the end the value, and above it what
the write has made of the entry before. Where there was nothing, or null, it goes on in an empty object, in which no
other path led anywhere. So a path that parts from the written one in the new tree leads where it led before.

A second write at the same path finds the way that the first one has made. It appends nothing and makes no object any
more, and it comes to the tree that it would have made alone.

Results:
* `write?_puts`: a write at one container.
* `exists_write?_of_find?`: a write below a value that is there is a write into it.
* `find?_write?_of_parted`: paths that part from the written one lead where they led.
* `exists_putsEntry_of_write?`: what has become of each container on the way.
* `setAt_leaves_others`: a write at a path changes its target only.
* `exists_write?_write?`, `setAt_setAt`: the last write wins.
-/
namespace LiveSurface.Json

section
variable {v w tree mid new : Json} {s : String} {rest segments : List String} {old : Option Json}

/-! ## One segment -/

/-- **A write at one container** puts what it makes of the entry there. -/
theorem write?_puts (h : write? v tree (s :: rest) = .ok new) :
    ∃ old entry, tree.child? s = .ok old ∧ writeEntry v s rest old = .ok entry ∧ PutsEntry s entry tree new := by
  rcases write?_ok_cases h with ⟨fields, entry, rfl, he, rfl⟩ | ⟨items, i, entry, rfl, hindex, hi, he, rfl⟩
  · exact ⟨_, entry, child?_obj fields s, he, putsEntry_obj fields s entry⟩
  · exact ⟨_, entry, child?_arr hindex, he, putsEntry_arr hindex hi entry⟩

/-- Below an entry a write goes on in the container there, or in an empty object. -/
theorem exists_entered_of_writeEntry {entry : Json} (hne : rest ≠ []) (h : writeEntry v s rest old = .ok entry) :
    ∃ u, entered? old = some u ∧ write? v u rest = .ok entry := by
  obtain ⟨t, rest, rfl⟩ := List.exists_cons_of_ne_nil hne
  rw [writeEntry_cons] at h
  cases hentered : entered? old with
  | none => rw [hentered] at h; cases h
  | some u =>
    rw [hentered] at h
    exact ⟨u, rfl, h⟩

/-- Where a write goes on, a lookup finds what it finds behind the old entry. -/
theorem find?_of_entered {u : Json} (h : entered? old = some u) (hne : rest ≠ []) :
    u.find? rest = findEntry rest old := by
  obtain ⟨t, rest, rfl⟩ := List.exists_cons_of_ne_nil hne
  cases old with
  | none =>
    cases h
    rfl
  | some w => cases w <;> cases h <;> rfl

/-- A write that is done in an entry is done through it. -/
theorem writeEntry_of_write? {u entry : Json} (s : String) (h : write? v u rest = .ok entry) :
    writeEntry v s rest (some u) = .ok entry := by
  cases rest with
  | nil =>
    rw [writeEntry_nil]
    exact h
  | cons t rest =>
    obtain ⟨_, _, -, -, hput⟩ := write?_puts h
    rw [writeEntry_cons, hput.entered?.1]
    exact h

theorem exists_write?_of_child? {u entry : Json} (hchild : tree.child? s = .ok (some u))
    (hentry : writeEntry v s rest (some u) = .ok entry) :
    ∃ new, write? v tree (s :: rest) = .ok new ∧ PutsEntry s entry tree new := by
  cases tree with
  | obj fields =>
    rw [child?_obj] at hchild
    refine ⟨_, ?_, putsEntry_obj fields s entry⟩
    rw [write?_obj, Except.ok.inj hchild, hentry]
    rfl
  | arr items =>
    obtain ⟨i, hindex, hu⟩ := exists_index_of_child? hchild
    obtain ⟨hi, -⟩ := List.getElem?_eq_some_iff.mp hu
    refine ⟨_, ?_, putsEntry_arr hindex (Nat.le_of_lt hi) entry⟩
    rw [write?_arr, hindex]
    simp only [if_neg (Nat.not_lt.mpr (Nat.le_of_lt hi)), hu, hentry, Except.map]
  | _ => cases hchild

/-- A write below a value that is there is a write into that value. -/
theorem exists_write?_of_find? {above below : List String} {parent left : Json}
    (hparent : tree.find? above = .ok (some parent)) (hleft : write? v parent (s :: below) = .ok left) :
    ∃ new, write? v tree (above ++ s :: below) = .ok new ∧ Replaced parent left above tree new := by
  induction above generalizing tree with
  | nil =>
    cases hparent
    exact ⟨left, hleft, .here⟩
  | cons r above ih =>
    obtain ⟨u, hchild, hu⟩ := exists_child?_of_find? hparent
    obtain ⟨entry, hwrite, hreplaced⟩ := ih hu
    obtain ⟨new, hnew, hput⟩ := exists_write?_of_child? hchild (writeEntry_of_write? r hwrite)
    exact ⟨new, hnew, .deeper hchild hreplaced hput⟩

/-! ## Other paths -/

theorem Parted.ne_nil {p q : List String} (h : tree.Parted p q) : p ≠ [] ∧ q ≠ [] := by
  cases h <;> exact ⟨List.cons_ne_nil _ _, List.cons_ne_nil _ _⟩

/-- **Paths that part from the written one** in the new tree lead where they led. -/
theorem find?_write?_of_parted (h : write? v tree segments = .ok new) {other : List String}
    (hp : new.Parted segments other) : new.find? other = tree.find? other := by
  induction segments generalizing tree new other with
  | nil => cases hp
  | cons s rest ih =>
    obtain ⟨old, entry, hold, hentry, hput⟩ := write?_puts h
    cases hp with
    | here hother =>
      rw [hput.sameEntry_iff] at hother
      rw [find?_cons, find?_cons, hput.child?_of_not_sameEntry hother]
    | deeper hsame hchild hrest =>
      rw [hput.child?_self] at hchild
      cases hchild
      -- The write went on in the old entry, or in an empty object. There the other path leads nowhere, as it did.
      obtain ⟨u, hu, hwrite⟩ := exists_entered_of_writeEntry hrest.ne_nil.1 hentry
      have hbelow := ih hwrite hrest
      rw [find?_of_entered hu hrest.ne_nil.2] at hbelow
      rw [find?_of_child? (hsame.child?_eq.trans hput.child?_self),
        find?_of_child? ((hput.sameEntry_iff.mp hsame).child?_eq.trans hold)]
      exact hbelow

/-- What a walk passes behind an entry, it passes behind the container in which it goes on there. -/
theorem exists_find?_of_entered {u : Json} {found : Option Json} (h : entered? old = some u)
    (hfound : findEntry segments old = .ok found) :
    ∃ found', u.find? segments = .ok found' ∧ entered? found' = entered? found := by
  cases segments with
  | nil =>
    refine ⟨some u, rfl, ?_⟩
    cases old with
    | none =>
      cases h
      cases hfound
      rfl
    | some w => cases hfound; cases w <;> cases h <;> rfl
  | cons t rest => exact ⟨found, by rw [find?_of_entered h (List.cons_ne_nil t rest), hfound], rfl⟩

/-- **What has become of a container on the way**: the one in which the write went on, with one entry put. -/
theorem exists_putsEntry_of_write? {above below : List String} (h : write? v tree (above ++ s :: below) = .ok new)
    (hold : tree.find? above = .ok old) :
    ∃ passed left entry, entered? old = some passed ∧ new.find? above = .ok (some left) ∧
      PutsEntry s entry passed left := by
  induction above generalizing tree new old with
  | nil =>
    cases hold
    obtain ⟨-, entry, -, -, hput⟩ := write?_puts h
    exact ⟨tree, new, entry, hput.entered?.1, rfl, hput⟩
  | cons r above ih =>
    obtain ⟨first, made, hfirst, hmade, hput⟩ := write?_puts h
    obtain ⟨u, hu, hwrite⟩ := exists_entered_of_writeEntry (by simp) hmade
    rw [find?_of_child? hfirst] at hold
    obtain ⟨found, hfound, hsame⟩ := exists_find?_of_entered hu hold
    obtain ⟨passed, left, entry, hpassed, hleft, hentry⟩ := ih hwrite hfound
    refine ⟨passed, left, entry, hsame ▸ hpassed, ?_, hentry⟩
    rw [find?_of_child? hput.child?_self]
    exact hleft

theorem setAt_ok_cases {path : String} (h : (tree.setAt path v).result = .ok new) :
    write? v tree (Path.segments path) = .ok new ∨ new = tree := by
  rw [setAt_result] at h
  split at h
  · next hwrite =>
    cases h
    exact .inl hwrite
  · cases h
    exact .inr rfl
  · cases h

theorem exists_setAt_of_not_meets {path : String} (v : Json) (h : ¬tree.MeetsLongIndex (Path.segments path)) :
    ∃ new, (tree.setAt path v).result = .ok new := by
  cases hresult : (tree.setAt path v).result with
  | ok new => exact ⟨new, rfl⟩
  | error e => exact absurd ((find?_error_iff tree _).mp ⟨e, (setAt_error_iff tree path v e).mp hresult⟩) h

/-- **A write changes only its target.** If no index on the way is too long to be read, a write at a path comes to a
tree in which every path that parts there from the written one reads what it read before. Unless the tree is the old
one, each container on the way holds its entries in their order, and the one that the path selects in place of the one
before or as a new one at the end; where the write made the container, it was an empty object. -/
theorem setAt_leaves_others (tree : Json) (path : String) (v : Json)
    (hshort : ¬tree.MeetsLongIndex (Path.segments path)) :
    ∃ new, (tree.setAt path v).result = .ok new ∧
      (∀ other, new.Parted (Path.segments path) (Path.segments other) → new.getAt other = tree.getAt other) ∧
      (new = tree ∨ ∀ above s below old, Path.segments path = above ++ s :: below → tree.find? above = .ok old →
        ∃ passed left entry, entered? old = some passed ∧ new.find? above = .ok (some left) ∧
          PutsEntry s entry passed left) := by
  obtain ⟨new, hnew⟩ := exists_setAt_of_not_meets v hshort
  refine ⟨new, hnew, ?_⟩
  rcases setAt_ok_cases hnew with hwrite | rfl
  · refine ⟨fun other hp => ?_, .inr fun above s below old hsplit hold => ?_⟩
    · unfold getAt
      rw [find?_write?_of_parted hwrite hp]
    · rw [hsplit] at hwrite
      exact exists_putsEntry_of_write? hwrite hold
  · exact ⟨fun _ _ => rfl, .inl rfl⟩

/-- An array with a null in it, under a name. -/
def rows : Json := .ofFields [("rows", .arr [.null, .bool true])]

/-- A write through the null, at a place that is spelled with a zero in front, and the place beside it. -/
theorem setAt_leaves_others_rows :
    ¬rows.MeetsLongIndex (Path.segments "/rows/00/name") ∧
      ∃ new, (rows.setAt "/rows/00/name" (.bool true)).result = .ok new ∧
        new.Parted (Path.segments "/rows/00/name") (Path.segments "/rows/1") ∧
        new.getAt "/rows/1" = rows.getAt "/rows/1" := by
  have hsegments : Path.segments "/rows/00/name" = ["rows"] ++ "00" :: ["name"] := by decide
  have hother : Path.segments "/rows/1" = ["rows"] ++ "1" :: [] := by decide
  have hshort : ¬rows.MeetsLongIndex (Path.segments "/rows/00/name") := by
    have hfind : rows.find? (["rows"] ++ "00" :: ["name"]) = .ok none := rfl
    rw [hsegments, ← find?_error_iff, hfind]
    exact fun ⟨_, he⟩ => nomatch he
  have hmade : (rows.setAt "/rows/00/name" (.bool true)).result =
      .ok (.ofFields [("rows", .arr [.ofFields [("name", .bool true)], .bool true])]) := by
    rw [setAt_result, hsegments]
    rfl
  obtain ⟨new, hnew, hothers, -⟩ := setAt_leaves_others rows "/rows/00/name" (.bool true) hshort
  have hparted : new.Parted (Path.segments "/rows/00/name") (Path.segments "/rows/1") := by
    rw [hmade] at hnew
    cases hnew
    rw [hsegments, hother]
    refine parted_of_front rfl ?_ _ _
    intro hsame
    obtain ⟨i, hfirst, hsecond⟩ := hsame
    cases hfirst
    cases hsecond
  exact ⟨hshort, new, hnew, hparted, hothers "/rows/1" hparted⟩

/-! ## Writing twice -/

/-- A second write makes of the new entry what it makes of the old one. -/
theorem exists_writeEntry_writeEntry {entry : Json}
    (ih : ∀ u made, write? v u rest = .ok made → ∃ last, write? w made rest = .ok last ∧ write? w u rest = .ok last)
    (h : writeEntry v s rest old = .ok entry) :
    ∃ last, writeEntry w s rest (some entry) = .ok last ∧ writeEntry w s rest old = .ok last := by
  cases rest with
  | nil => exact ⟨w, writeEntry_nil w s _, writeEntry_nil w s _⟩
  | cons t rest =>
    obtain ⟨u, hu, hwrite⟩ := exists_entered_of_writeEntry (List.cons_ne_nil t rest) h
    obtain ⟨_, _, -, -, hput⟩ := write?_puts hwrite
    rw [writeEntry_cons, writeEntry_cons, hu, hput.entered?.2]
    exact ih u entry hwrite

/-- **The last write wins**: where a write has been done, a second one at the same segments is done, and makes of the
new tree what it makes of the old one. -/
theorem exists_write?_write? (w : Json) (h : write? v tree segments = .ok mid) :
    ∃ last, write? w mid segments = .ok last ∧ write? w tree segments = .ok last := by
  induction segments generalizing tree mid with
  | nil => exact ⟨w, rfl, rfl⟩
  | cons s rest ih =>
    rcases write?_ok_cases h with ⟨fields, entry, rfl, he, rfl⟩ | ⟨items, i, entry, rfl, hindex, hi, he, rfl⟩
    · obtain ⟨last, hnew, hold⟩ := exists_writeEntry_writeEntry (w := w) (fun _ _ => ih) he
      refine ⟨.obj (fields.put (s : Key) last), ?_, ?_⟩
      · rw [write?_obj, Entries.get?_put_self, hnew]
        simp only [Except.map, Entries.put_put_self]
      · rw [write?_obj, hold]
        rfl
    · obtain ⟨last, hnew, hold⟩ := exists_writeEntry_writeEntry (w := w) (fun _ _ => ih) he
      -- Where the first write appended an item, the second one overwrites it.
      have hlen : ¬(putItem items i entry).length < i := by
        rw [length_putItem_of_le hi]
        omega
      refine ⟨.arr (putItem items i last), ?_, ?_⟩
      · rw [write?_arr, hindex]
        simp only [if_neg hlen, getElem?_putItem_self hi, hnew, Except.map, putItem_putItem_self hi]
      · rw [write?_arr, hindex]
        simp only [if_neg (Nat.not_lt.mpr hi), hold, Except.map]

/-- **Two writes at one path** come to what the second one comes to alone, whatever was there, and also if it is
refused; with one value, to what the first one came to. Both fail exactly if the path meets an overlong index. -/
theorem setAt_setAt (tree : Json) (path : String) (v w : Json) :
    ((tree.setAt path v).result.bind fun made => (made.setAt path w).result) = (tree.setAt path w).result ∧
      ((∃ e, (tree.setAt path w).result = .error e) ↔ tree.MeetsLongIndex (Path.segments path)) := by
  constructor
  · cases hfirst : (tree.setAt path v).result with
    | error e => exact ((setAt_error_iff tree path w e).mpr ((setAt_error_iff tree path v e).mp hfirst)).symm
    | ok made =>
      show (made.setAt path w).result = (tree.setAt path w).result
      rcases setAt_ok_cases hfirst with hwrite | rfl
      · obtain ⟨last, hnew, hold⟩ := exists_write?_write? w hwrite
        rw [setAt_result, setAt_result, hnew, hold]
      · rfl
  · rw [← find?_error_iff]
    exact exists_congr fun e => setAt_error_iff tree path w e

end

end LiveSurface.Json
