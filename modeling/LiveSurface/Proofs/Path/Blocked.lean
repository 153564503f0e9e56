import LiveSurface.Proofs.Path.Write
/-!
# Which writes are refused

A write is refused if its segments cannot be followed, or not be written to. Whether a path is `Blocked` in this way
depends on the tree alone, not on the value that is to be written: the tree is a scalar, or the path goes on at a scalar
other than null, or it goes on at an array with a segment that is no place in it. All other writes are done.

Results:
* `blocked_cons_iff`: blocked paths, one segment at a time.
* `write?_refused_iff`: exactly the writes to blocked paths are refused.
* `setAt_refused_or_done`: a write at a path is refused and reported, or done without a word.
-/
namespace LiveSurface

namespace Path

/-- The segment consists of the digits `0` to `9` and denotes a number of at most `n`. -/
def IsSlot (segment : String) (n : Nat) : Prop :=
  segment.toList ≠ [] ∧ (∀ c ∈ segment.toList, Text.isAsciiDigit c = true) ∧ Text.decimalValue segment.toList ≤ n

theorem isSlot_iff {segment : String} (hshort : ¬LongIndex segment) (n : Nat) :
    IsSlot segment n ↔ ∃ i, index? segment = .ok (some i) ∧ i ≤ n := by
  unfold IsSlot index?
  simp only
  constructor
  · intro h
    obtain ⟨hne, hdigits, hn⟩ := h
    have hall : segment.toList.all Text.isAsciiDigit = true := List.all_eq_true.mpr hdigits
    have hlen : ¬maxDigits < segment.toList.length := fun hlong => hshort ⟨hdigits, hlong⟩
    exact ⟨_, by rw [if_pos ⟨hne, hall⟩, if_neg hlen], hn⟩
  · intro h
    obtain ⟨i, hi, hn⟩ := h
    split at hi
    · next hdigits =>
      split at hi
      · cases hi
      · cases hi
        exact ⟨hdigits.1, List.all_eq_true.mp hdigits.2, hn⟩
    · cases hi

end Path

namespace Json

section
variable {v tree : Json} {s : String} {rest segments : List String}

/-! ## Blocked paths -/

/-- The segments cannot be written to: the tree is a scalar, or they lead to a scalar other than null and go on there,
or they lead to an array and go on with a segment that is no place in it, nor the next one. -/
inductive Blocked (tree : Json) (segments : List String) : Prop
  | root (h : ¬tree.isContainer = true)
  | scalar {above below : List String} {s : String} {w : Json} (hsplit : segments = above ++ s :: below)
    (hinside : above ≠ []) (hw : tree.find? above = .ok (some w)) (hnull : w ≠ .null) (hscalar : ¬w.isContainer = true)
  | index {above below : List String} {s : String} {items : List Json} (hsplit : segments = above ++ s :: below)
    (hitems : tree.find? above = .ok (some (.arr items))) (hs : ¬Path.IsSlot s items.length)

/-- The segments behind an entry that they go through cannot be written to. -/
def BlockedEntry (rest : List String) (old : Option Json) : Prop :=
  rest ≠ [] ∧ ∃ w, old = some w ∧ w ≠ .null ∧ w.Blocked rest

/-- A path through a container is blocked where it enters an array, or behind the entry that it goes through. -/
theorem blocked_cons_iff (hcontainer : tree.isContainer = true) {old : Option Json} (hchild : tree.child? s = .ok old) :
    tree.Blocked (s :: rest) ↔
      (∃ items, tree = .arr items ∧ ¬Path.IsSlot s items.length) ∨ BlockedEntry rest old := by
  -- Where a lookup of `s :: above` arrives, the rest of it arrives from the entry under `s`.
  have hbelow : ∀ {above : List String} {u : Json}, tree.find? (s :: above) = .ok (some u) → u ≠ .null →
      ∃ w, old = some w ∧ w ≠ .null ∧ w.find? above = .ok (some u) := by
    intro above u hu hnull
    rw [find?_cons, hchild] at hu
    cases old with
    | none => cases hu
    | some w =>
      refine ⟨w, rfl, ?_, hu⟩
      rintro rfl
      cases above with
      | nil => cases hu; exact hnull rfl
      | cons t above => cases hu
  constructor
  · intro h
    cases h with
    | root h => exact absurd hcontainer h
    | @scalar above below t w hsplit hinside hw hnull hscalar =>
      obtain ⟨s', above, rfl⟩ := List.exists_cons_of_ne_nil hinside
      obtain ⟨rfl, rfl⟩ := List.cons.inj hsplit
      obtain ⟨u, hu, hune, hfind⟩ := hbelow hw hnull
      refine .inr ⟨by simp, u, hu, hune, ?_⟩
      cases above with
      | nil => cases hfind; exact .root hscalar
      | cons t' above => exact .scalar rfl (List.cons_ne_nil _ _) hfind hnull hscalar
    | @index above below t items hsplit hitems hs =>
      cases above with
      | nil =>
        obtain ⟨rfl, rfl⟩ := List.cons.inj hsplit
        cases hitems
        exact .inl ⟨items, rfl, hs⟩
      | cons s' above =>
        obtain ⟨rfl, rfl⟩ := List.cons.inj hsplit
        obtain ⟨u, hu, hune, hfind⟩ := hbelow hitems (by simp)
        exact .inr ⟨by simp, u, hu, hune, .index rfl hfind hs⟩
  · intro h
    rcases h with ⟨items, rfl, hs⟩ | ⟨hrest, w, rfl, hnull, hw⟩
    · exact .index (List.nil_append (s :: rest)).symm rfl hs
    · have hfind : ∀ above, tree.find? (s :: above) = w.find? above := by
        intro above
        rw [find?_cons, hchild]
        rfl
      cases hw with
      | root hscalar =>
        obtain ⟨t, below, rfl⟩ := List.exists_cons_of_ne_nil hrest
        exact .scalar (List.singleton_append (x := s)).symm (List.cons_ne_nil _ _) (hfind []) hnull hscalar
      | scalar hsplit _ hu hune hscalar =>
        exact .scalar (by rw [hsplit]; rfl) (List.cons_ne_nil _ _) ((hfind _).trans hu) hune hscalar
      | index hsplit hitems hs => exact .index (by rw [hsplit]; rfl) ((hfind _).trans hitems) hs

/-- A write is refused at an entry exactly if the segments behind it cannot be written to. -/
theorem writeEntry_refused_iff (s : String)
    (ih : ∀ tree, rest ≠ [] → ((∃ obstacle, write? v tree rest = .error (.refused obstacle)) ↔ tree.Blocked rest))
    (old : Option Json) :
    (∃ obstacle, writeEntry v s rest old = .error (.refused obstacle)) ↔ BlockedEntry rest old := by
  unfold BlockedEntry
  cases rest with
  | nil => simp [writeEntry_nil]
  | cons t rest =>
    obtain ⟨made, hmade⟩ := exists_write?_empty v (t :: rest)
    rw [writeEntry_cons]
    cases old with
    | none => simp [entered?, hmade]
    | some w =>
      have hw := ih w (List.cons_ne_nil t rest)
      have hroot : ¬w.isContainer = true → w.Blocked (t :: rest) := .root
      cases w with
      | null => simp [entered?, hmade]
      | obj fields => simpa [entered?, isContainer] using hw
      | arr items => simpa [entered?, isContainer] using hw
      | bool b => simpa [entered?, isContainer] using hroot (by simp [isContainer])
      | num n => simpa [entered?, isContainer] using hroot (by simp [isContainer])
      | str text => simpa [entered?, isContainer] using hroot (by simp [isContainer])

/-- **Exactly the writes to blocked paths are refused**, whatever is to be written. -/
theorem write?_refused_iff (v tree : Json) (hne : segments ≠ [])
    (hshort : ∀ s ∈ segments, ¬Path.LongIndex s) :
    (∃ obstacle, write? v tree segments = .error (.refused obstacle)) ↔ tree.Blocked segments := by
  induction segments generalizing tree with
  | nil => exact absurd rfl hne
  | cons s rest ih =>
    obtain ⟨hs, hrest⟩ := List.forall_mem_cons.mp hshort
    have hentry := writeEntry_refused_iff (v := v) s fun tree hne => ih tree hne hrest
    cases tree with
    | obj fields =>
      have hcons : (Json.obj fields).Blocked (s :: rest) ↔ _ := blocked_cons_iff rfl rfl
      rw [hcons, ← hentry, write?_obj]
      cases writeEntry v s rest (Entries.get? fields (s : Key)) <;> simp [Except.map]
    | arr items =>
      have hslot := Path.isSlot_iff hs items.length
      rw [write?_arr]
      cases hindex : Path.index? s with
      | error e => exact absurd ((Path.index?_error_iff s).mp ⟨e, hindex⟩) hs
      | ok i? =>
        rw [hindex] at hslot
        cases i? with
        | none =>
          have hout : ¬Path.IsSlot s items.length := by simp [hslot]
          exact ⟨fun _ => .index (List.nil_append (s :: rest)).symm rfl hout, fun _ => ⟨_, rfl⟩⟩
        | some i =>
          simp only
          split
          · next hi =>
            have hout : ¬Path.IsSlot s items.length := by
              rw [hslot]
              rintro ⟨_, ⟨⟩, hle⟩
              omega
            exact ⟨fun _ => .index (List.nil_append (s :: rest)).symm rfl hout, fun _ => ⟨_, rfl⟩⟩
          · next hi =>
            have hin : Path.IsSlot s items.length := hslot.mpr ⟨i, rfl, by omega⟩
            rw [blocked_cons_iff rfl (child?_arr hindex), ← hentry]
            have hplace : ¬∃ items', Json.arr items = .arr items' ∧ ¬Path.IsSlot s items'.length := by
              rintro ⟨_, ⟨⟩, hout⟩
              exact hout hin
            rw [or_iff_right hplace]
            cases writeEntry v s rest items[i]? <;> simp [Except.map]
    | _ => exact ⟨fun _ => .root (by simp [isContainer]), fun _ => ⟨_, rfl⟩⟩

/-! ## Writes at paths -/

/-- The write is refused: this is reported, and the tree is returned and left as it was. -/
def IsRefused (tree : Json) (path : String) (v : Json) : Prop :=
  ∃ obstacle, tree.setAt path v = ⟨[.pathNotWritable path obstacle], .ok tree⟩ ∧
    writeInPlace v tree (Path.segments path) = (tree, .error (.refused obstacle))

/-- The write is done: nothing is reported, and in the tree that is returned and left the path leads to the value. -/
def IsDone (tree : Json) (path : String) (v : Json) : Prop :=
  ∃ new, tree.setAt path v = ⟨[], .ok new⟩ ∧ writeInPlace v tree (Path.segments path) = (new, .ok ()) ∧
    new.getAt path = .ok v

theorem isRefused_iff (tree : Json) (path : String) (v : Json) :
    tree.IsRefused path v ↔ ∃ obstacle, write? v tree (Path.segments path) = .error (.refused obstacle) := by
  unfold IsRefused setAt
  rw [writeInPlace_eq]
  cases write? v tree (Path.segments path) with
  | ok new => simp [Except.map]
  | error e =>
    cases e with
    | refused obstacle =>
      refine ⟨fun _ => ⟨obstacle, rfl⟩, fun _ => ⟨obstacle, Logged.ext ?_ ?_, rfl⟩⟩
      · rw [Logged.events_bind]
        rfl
      · rw [Logged.result_bind]
        rfl
    | longNumeral e => simp [Except.map]

/-- Whatever a write reports, it was refused. -/
theorem isRefused_of_mem_events {path : String} {e : Event} (h : e ∈ (tree.setAt path v).events) :
    tree.IsRefused path v := by
  unfold setAt at h
  rw [isRefused_iff]
  cases hw : write? v tree (Path.segments path) with
  | ok new => simp [hw] at h
  | error stop =>
    cases stop with
    | refused obstacle => exact ⟨obstacle, rfl⟩
    | longNumeral numeral => simp [hw, Logged.fail] at h

theorem isDone_iff (tree : Json) (path : String) (v : Json) :
    tree.IsDone path v ↔ ∃ new, write? v tree (Path.segments path) = .ok new := by
  constructor
  · intro h
    obtain ⟨new, -, hwalk, -⟩ := h
    rw [writeInPlace_eq] at hwalk
    cases hw : write? v tree (Path.segments path) with
    | ok new => exact ⟨new, rfl⟩
    | error e =>
      rw [hw] at hwalk
      cases (Prod.mk.inj hwalk).2
  · intro h
    obtain ⟨new, hnew⟩ := h
    refine ⟨new, ?_, ?_, ?_⟩
    · exact setAt_of_write? hnew
    · rw [writeInPlace_eq, hnew]
      rfl
    · exact getAt_of_write? hnew

end

/-- **Write or nothing.** A write at a path other than the root, with no segment of too many digits, is either refused
or done; it is refused exactly if the path is blocked. -/
theorem setAt_refused_or_done (tree : Json) (path : String) (v : Json) (hroot : Path.isRoot path = false)
    (hshort : ∀ s ∈ Path.segments path, ¬Path.LongIndex s) :
    (tree.IsRefused path v ∨ tree.IsDone path v) ∧ ¬(tree.IsRefused path v ∧ tree.IsDone path v) ∧
      (tree.IsRefused path v ↔ tree.Blocked (Path.segments path)) := by
  have hne : Path.segments path ≠ [] := by
    intro hnil
    rw [Path.isRoot, hnil] at hroot
    cases hroot
  rw [isRefused_iff, isDone_iff]
  refine ⟨?_, ?_, write?_refused_iff v tree hne hshort⟩
  · cases hw : write? v tree (Path.segments path) with
    | ok new => exact .inr ⟨new, rfl⟩
    | error e =>
      cases e with
      | refused obstacle => exact .inl ⟨obstacle, rfl⟩
      | longNumeral e =>
        -- Only an overlong index breaks a write off, and there is none.
        have hlong := (write?_longNumeral_iff tree (Path.segments path)).mp hw
        obtain ⟨above, s, below, items, hsplit, -, hs⟩ := (find?_error_iff tree _).mp ⟨e, hlong⟩
        exact absurd hs (hshort s (by simp [hsplit]))
  · intro h
    obtain ⟨⟨obstacle, hrefused⟩, new, hdone⟩ := h
    rw [hrefused] at hdone
    cases hdone

/-- An array with a null in it, under a name. -/
def listed : Json := .ofFields [("list", .arr [.null, .bool true])]

/-- A path through the null becomes one through a new object; the place is spelled with a zero in front. -/
theorem setAt_refused_or_done_listed :
    Path.isRoot "/list/00/name/" = false ∧ (∀ s ∈ Path.segments "/list/00/name/", ¬Path.LongIndex s) ∧
      (listed.IsRefused "/list/00/name/" .null ∨ listed.IsDone "/list/00/name/" .null) ∧
      ¬(listed.IsRefused "/list/00/name/" .null ∧ listed.IsDone "/list/00/name/" .null) ∧
      (listed.IsRefused "/list/00/name/" .null ↔ listed.Blocked (Path.segments "/list/00/name/")) := by
  have hroot : Path.isRoot "/list/00/name/" = false := by decide
  have hshort : ∀ s ∈ Path.segments "/list/00/name/", ¬Path.LongIndex s := by
    have hsegments : Path.segments "/list/00/name/" = ["list", "00", "name"] := by decide
    have hlen : ∀ s ∈ ["list", "00", "name"], s.toList.length ≤ maxDigits := by decide
    rw [hsegments]
    intro s hs hlong
    exact absurd hlong.2 (Nat.not_lt.mpr (hlen s hs))
  exact ⟨hroot, hshort, setAt_refused_or_done listed "/list/00/name/" .null hroot hshort⟩

end Json

end LiveSurface
