import LiveSurface.Component.Dump
/-!
# Values with finite numbers

Records hold finite numbers only. In a value without a NaN and without an infinity there is nothing to replace, so that
it is written as it is.

Results:
* `allFinite_arr_iff`, `allFinite_obj_iff`: the numbers of a container are those of its entries.
* `finite_eq_self`: a value with finite numbers is written as it is.
-/
namespace LiveSurface.Json

mutual

/-- Whether a value holds neither a NaN nor an infinity. -/
def allFinite : Json → Bool
  | .num (.double x) => x.isFinite
  | .arr items => allItemsFinite items
  | .obj fields => allFieldsFinite fields
  | .num (.int _) | .null | .bool _ | .str _ => true

/-- Whether no item holds a NaN or an infinity. -/
def allItemsFinite : List Json → Bool
  | [] => true
  | v :: rest => v.allFinite && allItemsFinite rest

/-- Whether no field's value holds a NaN or an infinity. -/
def allFieldsFinite : List (Key × Json) → Bool
  | [] => true
  | (_, v) :: rest => v.allFinite && allFieldsFinite rest

end

theorem allItemsFinite_iff {items : List Json} : allItemsFinite items = true ↔ ∀ v ∈ items, v.allFinite = true := by
  induction items with
  | nil => simp [allItemsFinite]
  | cons v rest ih => simp [allItemsFinite, ih]

theorem allFieldsFinite_iff {fields : List (Key × Json)} :
    allFieldsFinite fields = true ↔ ∀ e ∈ fields, e.2.allFinite = true := by
  induction fields with
  | nil => simp [allFieldsFinite]
  | cons e rest ih => simp [allFieldsFinite, ih]

theorem allFinite_arr_iff {items : List Json} : (arr items).allFinite = true ↔ ∀ v ∈ items, v.allFinite = true :=
  allItemsFinite_iff

theorem allFinite_obj_iff {fields : List (Key × Json)} :
    (obj fields).allFinite = true ↔ ∀ e ∈ fields, e.2.allFinite = true := allFieldsFinite_iff

mutual

/-- **A value with finite numbers is written as it is.** -/
theorem finite_eq_self : ∀ v : Json, v.allFinite = true → v.finite = v
  | .num (.double _), h => if_pos h
  | .arr items, h => congrArg arr (finiteItems_eq_self items h)
  | .obj fields, h => congrArg obj (finiteFields_eq_self fields h)
  | .num (.int _), _ | .null, _ | .bool _, _ | .str _, _ => rfl

theorem finiteItems_eq_self : ∀ items : List Json, allItemsFinite items = true → finiteItems items = items
  | [], _ => rfl
  | v :: rest, h => by
    rw [allItemsFinite, Bool.and_eq_true] at h
    rw [finiteItems, finite_eq_self v h.1, finiteItems_eq_self rest h.2]

theorem finiteFields_eq_self : ∀ fields : List (Key × Json), allFieldsFinite fields = true → finiteFields fields = fields
  | [], _ => rfl
  | (k, v) :: rest, h => by
    rw [allFieldsFinite, Bool.and_eq_true] at h
    rw [finiteFields, finite_eq_self v h.1, finiteFields_eq_self rest h.2]

end

end LiveSurface.Json
