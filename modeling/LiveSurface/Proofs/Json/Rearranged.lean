import LiveSurface.Json.Writer
import LiveSurface.Proofs.Json.Writable
import Mathlib.Data.List.Basic
/-!
# Values up to the order of fields

Two values are `Rearranged` if they differ only in the order in which objects at any depth keep their fields. The order
is all that sorting the keys changes, and neither what integers a value holds nor how deep it nests depends on it.

A value is plain if it can be told from its text: it has no doubles, and the names in an object are texts, each of them
given once. Sorting keeps a value plain.

Results:
* `rearranged_sortKeys`: sorting the keys rearranges a value.
* `Rearranged.allInts`, `Rearranged.nesting`, `Rearranged.isPlain`: what rearranging keeps.
-/
namespace LiveSurface.Json

mutual

/-- The values are equal up to the order of fields. -/
inductive Rearranged : Json → Json → Prop
  | refl (v : Json) : Rearranged v v
  | arr {items items' : List Json} (h : RearrangedItems items items') : Rearranged (.arr items) (.arr items')
  /-- The fields' values are rearranged in place, and then the fields are. -/
  | obj {fields mid fields' : List (Key × Json)} (h : RearrangedFields fields mid) (hp : mid.Perm fields') :
    Rearranged (.obj fields) (.obj fields')

/-- The items are rearranged one by one. -/
inductive RearrangedItems : List Json → List Json → Prop
  | nil : RearrangedItems [] []
  | cons {v w : Json} {rest rest' : List Json} (h : Rearranged v w) (hr : RearrangedItems rest rest') :
    RearrangedItems (v :: rest) (w :: rest')

/-- The fields' values are rearranged one by one. -/
inductive RearrangedFields : List (Key × Json) → List (Key × Json) → Prop
  | nil : RearrangedFields [] []
  | cons (k : Key) {v w : Json} {rest rest' : List (Key × Json)} (h : Rearranged v w)
    (hr : RearrangedFields rest rest') : RearrangedFields ((k, v) :: rest) ((k, w) :: rest')

end

/-! ## Sorting -/

mutual

/-- **Sorting the keys rearranges a value.** -/
theorem rearranged_sortKeys : ∀ v : Json, Rearranged v v.sortKeys
  | .arr items => .arr (rearranged_sortItems items)
  | .obj fields => .obj (rearranged_sortFields fields) (List.mergeSort_perm _ _).symm
  | .null | .bool _ | .num _ | .str _ => .refl _

theorem rearranged_sortItems : ∀ items : List Json, RearrangedItems items (sortItems items)
  | [] => .nil
  | v :: rest => .cons (rearranged_sortKeys v) (rearranged_sortItems rest)

theorem rearranged_sortFields : ∀ fields : List (Key × Json), RearrangedFields fields (sortFields fields)
  | [] => .nil
  | (k, v) :: rest => .cons k (rearranged_sortKeys v) (rearranged_sortFields rest)

end

/-! ## Integers -/

theorem allFieldInts_perm {p : Int → Bool} {fields fields' : List (Key × Json)} (hp : fields.Perm fields') :
    allFieldInts p fields' = allFieldInts p fields := by
  rw [Bool.eq_iff_iff, allFieldInts_iff, allFieldInts_iff]
  simp only [hp.mem_iff]

mutual

/-- A rearranged value holds the same integers. -/
theorem Rearranged.allInts (p : Int → Bool) : ∀ {v w : Json}, Rearranged v w → w.allInts p = v.allInts p
  | _, _, .refl _ => rfl
  | _, _, .arr h => h.allInts p
  | _, _, .obj h hp => (allFieldInts_perm hp).trans (h.allInts p)

theorem RearrangedItems.allInts (p : Int → Bool) :
    ∀ {items items' : List Json}, RearrangedItems items items' → allItemInts p items' = allItemInts p items
  | _, _, .nil => rfl
  | _, _, .cons h hr => by rw [allItemInts, allItemInts, h.allInts p, hr.allInts p]

theorem RearrangedFields.allInts (p : Int → Bool) : ∀ {fields fields' : List (Key × Json)},
    RearrangedFields fields fields' → allFieldInts p fields' = allFieldInts p fields
  | _, _, .nil => rfl
  | _, _, .cons _ h hr => by rw [allFieldInts, allFieldInts, h.allInts p, hr.allInts p]

end

/-! ## Nesting -/

theorem fieldsNesting_perm {fields fields' : List (Key × Json)} (hp : fields.Perm fields') :
    fieldsNesting fields' = fieldsNesting fields := by
  induction hp with
  | nil => rfl
  | cons e _ ih => rw [fieldsNesting_cons, fieldsNesting_cons, ih]
  | swap e f rest =>
    obtain ⟨k, v⟩ := e
    obtain ⟨l, w⟩ := f
    simp only [fieldsNesting_cons, Nat.max_left_comm]
  | trans _ _ ih ih' => exact ih'.trans ih

mutual

/-- A rearranged value nests as deep. -/
theorem Rearranged.nesting : ∀ {v w : Json}, Rearranged v w → w.nesting = v.nesting
  | _, _, .refl _ => rfl
  | _, _, .arr h => congrArg (· + 1) h.nesting
  | _, _, .obj h hp => congrArg (· + 1) ((fieldsNesting_perm hp).trans h.nesting)

theorem RearrangedItems.nesting :
    ∀ {items items' : List Json}, RearrangedItems items items' → itemsNesting items' = itemsNesting items
  | _, _, .nil => rfl
  | _, _, .cons h hr => by rw [itemsNesting_cons, itemsNesting_cons, h.nesting, hr.nesting]

theorem RearrangedFields.nesting : ∀ {fields fields' : List (Key × Json)},
    RearrangedFields fields fields' → fieldsNesting fields' = fieldsNesting fields
  | _, _, .nil => rfl
  | _, _, .cons _ h hr => by rw [fieldsNesting_cons, fieldsNesting_cons, h.nesting, hr.nesting]

end

/-! ## Plain values -/

/-- Names that are texts, each given once. -/
def arePlainNames (fields : List (Key × Json)) : Bool :=
  decide (Entries.keys fields).Nodup && fields.all fun e => e.1.intact

mutual

/-- Whether a value has no doubles, and only plain names in its objects. -/
def isPlain : Json → Bool
  | .num (.double _) => false
  | .arr items => arePlainItems items
  | .obj fields => arePlainNames fields && arePlainFields fields
  | .null | .bool _ | .num (.int _) | .str _ => true

/-- Whether all items are plain. -/
def arePlainItems : List Json → Bool
  | [] => true
  | v :: rest => isPlain v && arePlainItems rest

/-- Whether all fields' values are plain. -/
def arePlainFields : List (Key × Json) → Bool
  | [] => true
  | (_, v) :: rest => isPlain v && arePlainFields rest

end

theorem arePlainNames_iff {fields : List (Key × Json)} :
    arePlainNames fields = true ↔ (Entries.keys fields).Nodup ∧ ∀ k ∈ Entries.keys fields, k.intact = true := by
  simp only [arePlainNames, Bool.and_eq_true, decide_eq_true_eq, List.all_eq_true]
  simp only [Entries.keys, List.forall_mem_map]

theorem arePlainFields_iff {fields : List (Key × Json)} :
    arePlainFields fields = true ↔ ∀ e ∈ fields, e.2.isPlain = true := by
  induction fields with
  | nil => simp [arePlainFields]
  | cons e rest ih => simp [arePlainFields, ih]

theorem arePlainFields_perm {fields fields' : List (Key × Json)} (hp : fields.Perm fields') :
    arePlainFields fields' = arePlainFields fields := by
  rw [Bool.eq_iff_iff, arePlainFields_iff, arePlainFields_iff]
  simp only [hp.mem_iff]

theorem arePlainNames_perm {fields fields' : List (Key × Json)} (hp : fields.Perm fields') :
    arePlainNames fields' = arePlainNames fields := by
  have hkeys : (Entries.keys fields).Perm (Entries.keys fields') := hp.map Prod.fst
  rw [Bool.eq_iff_iff, arePlainNames_iff, arePlainNames_iff, hkeys.nodup_iff]
  simp only [hkeys.mem_iff]

theorem RearrangedFields.keys : ∀ {fields fields' : List (Key × Json)}, RearrangedFields fields fields' →
    Entries.keys fields' = Entries.keys fields
  | _, _, .nil => rfl
  | _, _, .cons k _ hr => congrArg (k :: ·) hr.keys

theorem RearrangedFields.arePlainNames {fields fields' : List (Key × Json)} (h : RearrangedFields fields fields') :
    arePlainNames fields' = arePlainNames fields := by
  rw [Bool.eq_iff_iff, arePlainNames_iff, arePlainNames_iff, h.keys]

mutual

/-- A rearranged value is as plain. -/
theorem Rearranged.isPlain : ∀ {v w : Json}, Rearranged v w → w.isPlain = v.isPlain
  | _, _, .refl _ => rfl
  | _, _, .arr h => h.isPlain
  | _, _, .obj h hp => by
    have hnames := (arePlainNames_perm hp).trans h.arePlainNames
    have hfields := (arePlainFields_perm hp).trans h.isPlain
    rw [Json.isPlain, Json.isPlain, hnames, hfields]

theorem RearrangedItems.isPlain :
    ∀ {items items' : List Json}, RearrangedItems items items' → arePlainItems items' = arePlainItems items
  | _, _, .nil => rfl
  | _, _, .cons h hr => by rw [arePlainItems, arePlainItems, h.isPlain, hr.isPlain]

theorem RearrangedFields.isPlain : ∀ {fields fields' : List (Key × Json)},
    RearrangedFields fields fields' → arePlainFields fields' = arePlainFields fields
  | _, _, .nil => rfl
  | _, _, .cons _ h hr => by rw [arePlainFields, arePlainFields, h.isPlain, hr.isPlain]

end

end LiveSurface.Json
