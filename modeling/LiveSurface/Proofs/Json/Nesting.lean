import LiveSurface.Json.Nesting
/-!
# Nesting and its limit

`exceedsDepth` looks for a value too deep on the way down and stops at the first one; `nesting` measures the whole
value. A value that stays within a limit nests no deeper than the limit allows, counted from the depth at which it was
met. The two differ by one: the limit counts the scalars inside the innermost containers as well.

What the limit bounds is how deep values lie: `LiesIn` places each of them inside so many containers, an empty container
and a scalar alike. Only the difference of the limit and the depth of the whole value counts.

Results:
* `nesting_arr_le_iff`, `nesting_obj_le_iff`: the nesting of a container from that of its entries.
* `exceedsDepth_arr_eq_false_iff`, `exceedsDepth_obj_eq_false_iff`: the limit, one container at a time.
* `nesting_le_of_not_exceedsDepth`: a value within the limit nests no deeper.
* `not_exceedsDepth_of_liesIn`, `exceedsDepth_eq_false_iff`: the limit for everything in a value, each at its own level.
* `exceedsDepth_iff_liesIn`: the check tells whether something lies too deep, and more room never makes it fail.
-/
namespace LiveSurface.Json

section
variable {items : List Json} {fields : List (Key × Json)} {n : Nat} {limit current : Int}

theorem nesting_empty : (Json.obj []).nesting = 1 := rfl

theorem itemsNesting_le_iff : itemsNesting items ≤ n ↔ ∀ v ∈ items, v.nesting ≤ n := by
  induction items with
  | nil => simp [itemsNesting]
  | cons v rest ih => rw [itemsNesting_cons, Nat.max_le, ih, List.forall_mem_cons]

theorem fieldsNesting_le_iff : fieldsNesting fields ≤ n ↔ ∀ e ∈ fields, e.2.nesting ≤ n := by
  induction fields with
  | nil => simp [fieldsNesting]
  | cons e rest ih => rw [fieldsNesting_cons, Nat.max_le, ih, List.forall_mem_cons]

theorem nesting_arr_le_iff : (Json.arr items).nesting ≤ n + 1 ↔ ∀ v ∈ items, v.nesting ≤ n := by
  rw [nesting_arr, Nat.add_le_add_iff_right, itemsNesting_le_iff]

theorem nesting_obj_le_iff : (Json.obj fields).nesting ≤ n + 1 ↔ ∀ e ∈ fields, e.2.nesting ≤ n := by
  rw [nesting_obj, Nat.add_le_add_iff_right, fieldsNesting_le_iff]

theorem anyItemExceeds_eq_false_iff :
    anyItemExceeds limit current items = false ↔ ∀ v ∈ items, v.exceedsDepth limit current = false := by
  induction items with
  | nil => simp [anyItemExceeds]
  | cons v rest ih => rw [anyItemExceeds_cons, Bool.or_eq_false_iff, ih, List.forall_mem_cons]

theorem anyFieldExceeds_eq_false_iff :
    anyFieldExceeds limit current fields = false ↔ ∀ e ∈ fields, e.2.exceedsDepth limit current = false := by
  induction fields with
  | nil => simp [anyFieldExceeds]
  | cons e rest ih => rw [anyFieldExceeds_cons, Bool.or_eq_false_iff, ih, List.forall_mem_cons]

theorem exceedsDepth_arr_eq_false_iff : (Json.arr items).exceedsDepth limit current = false ↔
    current ≤ limit ∧ ∀ v ∈ items, v.exceedsDepth limit (current + 1) = false := by
  rw [exceedsDepth_arr, Bool.or_eq_false_iff, decide_eq_false_iff_not, Int.not_lt, anyItemExceeds_eq_false_iff]

theorem exceedsDepth_obj_eq_false_iff : (Json.obj fields).exceedsDepth limit current = false ↔
    current ≤ limit ∧ ∀ e ∈ fields, e.2.exceedsDepth limit (current + 1) = false := by
  rw [exceedsDepth_obj, Bool.or_eq_false_iff, decide_eq_false_iff_not, Int.not_lt, anyFieldExceeds_eq_false_iff]

theorem le_of_not_exceedsDepth {v : Json} (h : v.exceedsDepth limit current = false) : current ≤ limit := by
  cases v with
  | arr items => exact (exceedsDepth_arr_eq_false_iff.1 h).1
  | obj fields => exact (exceedsDepth_obj_eq_false_iff.1 h).1
  | _ => simpa [exceedsDepth] using h

/-- What a container within the limit holds under a name is within the limit, one level further down. -/
theorem not_exceedsDepth_of_get? {fields : Fields} {k : Key} {v : Json}
    (h : (Json.obj fields).exceedsDepth limit current = false) (hv : fields.get? k = some v) :
    v.exceedsDepth limit (current + 1) = false :=
  (exceedsDepth_obj_eq_false_iff.1 h).2 _ (Entries.mem_of_get? hv)

/-- **A value within the limit nests no deeper than the limit allows.** -/
theorem nesting_le_of_not_exceedsDepth (v : Json) (h : v.exceedsDepth limit current = false) :
    v.nesting + current ≤ limit + 1 := by
  induction v generalizing current with
  | null | bool | num | str =>
    have := le_of_not_exceedsDepth h
    simp only [nesting]
    omega
  | arr items ih =>
    obtain ⟨hle, hitems⟩ := exceedsDepth_arr_eq_false_iff.1 h
    -- Nestings are natural numbers; the levels left are one, as the container itself is within the limit.
    have hinner : itemsNesting items ≤ (limit - current).toNat := itemsNesting_le_iff.2 fun v hv => by
      have := ih v hv (hitems v hv)
      omega
    rw [nesting_arr]
    omega
  | obj fields ih =>
    obtain ⟨hle, hfields⟩ := exceedsDepth_obj_eq_false_iff.1 h
    have hinner : fieldsNesting fields ≤ (limit - current).toNat := fieldsNesting_le_iff.2 fun e he => by
      have := ih e he (hfields e he)
      omega
    rw [nesting_obj]
    omega

end

/-! ## How deep values lie -/

/-- Somewhere in `v` lies `w`, inside so many containers of `v`; inside none of them lies `v` itself. -/
inductive LiesIn (w : Json) : Json → Nat → Prop
  | whole : LiesIn w w 0
  | item {items : List Json} {u : Json} {n : Nat} (hu : u ∈ items) (h : LiesIn w u n) : LiesIn w (.arr items) (n + 1)
  | field {fields : List (Key × Json)} {e : Key × Json} {n : Nat} (he : e ∈ fields) (h : LiesIn w e.2 n) :
    LiesIn w (.obj fields) (n + 1)

section
variable {v w : Json} {n : Nat} {limit current : Int}

/-- What lies in a value within the limit is within the limit, so many levels further down. -/
theorem not_exceedsDepth_of_liesIn (h : w.LiesIn v n) (hv : v.exceedsDepth limit current = false) :
    w.exceedsDepth limit (current + n) = false := by
  -- By induction on the place of `w`: with each container on the way the level goes up by one.
  induction h generalizing current with
  | whole => simpa using hv
  | item hu _ ih =>
    have hw := ih ((exceedsDepth_arr_eq_false_iff.1 hv).2 _ hu)
    rwa [Int.add_assoc, Int.add_comm 1] at hw
  | field he _ ih =>
    have hw := ih ((exceedsDepth_obj_eq_false_iff.1 hv).2 _ he)
    rwa [Int.add_assoc, Int.add_comm 1] at hw

/-- A value is within the limit if nothing in it lies too deep. -/
theorem not_exceedsDepth_of_forall_liesIn (v : Json) (h : ∀ (w : Json) (n : Nat), w.LiesIn v n → current + n ≤ limit) :
    v.exceedsDepth limit current = false := by
  induction v generalizing current with
  | null | bool | num | str => simpa [exceedsDepth] using h _ _ .whole
  | arr items ih =>
    refine exceedsDepth_arr_eq_false_iff.2 ⟨by simpa using h _ _ .whole, fun u hu => ih u hu fun w n hw => ?_⟩
    have := h w (n + 1) (.item hu hw)
    omega
  | obj fields ih =>
    refine exceedsDepth_obj_eq_false_iff.2 ⟨by simpa using h _ _ .whole, fun e he => ih e he fun w n hw => ?_⟩
    have := h w (n + 1) (.field he hw)
    omega

/-- **A value is within the limit exactly if everything in it is**, each at its own level. -/
theorem exceedsDepth_eq_false_iff :
    v.exceedsDepth limit current = false ↔ ∀ (w : Json) (n : Nat), w.LiesIn v n → current + n ≤ limit :=
  ⟨fun h _ _ hw => le_of_not_exceedsDepth (not_exceedsDepth_of_liesIn hw h), not_exceedsDepth_of_forall_liesIn v⟩

/-- Nothing but the levels that are left counts: a value that needs no more of them stays within the limit. -/
theorem not_exceedsDepth_of_le {limit' current' : Int} (h : v.exceedsDepth limit current = false)
    (hle : limit - current ≤ limit' - current') : v.exceedsDepth limit' current' = false := by
  refine exceedsDepth_eq_false_iff.2 fun w n hw => ?_
  have := exceedsDepth_eq_false_iff.1 h w n hw
  omega

/-- A whole value passes the check exactly if nothing in it lies inside more containers than allowed. -/
theorem checkDepth_eq_ok_iff : v.checkDepth limit = .ok () ↔ ∀ (w : Json) (n : Nat), w.LiesIn v n → n ≤ limit := by
  have hiff : v.exceedsDepth limit 0 = false ↔ ∀ (w : Json) (n : Nat), w.LiesIn v n → 0 + (n : Int) ≤ limit :=
    exceedsDepth_eq_false_iff
  simp only [Int.zero_add] at hiff
  rw [← hiff]
  unfold checkDepth
  cases v.exceedsDepth limit 0 <;> simp

end

/-- **The depth check measures how deep values lie.** A value exceeds the limit exactly if something in it lies inside
more containers than there are levels left. If it does not exceed the limit, then it exceeds no higher one, and nothing
in it, met at the same depth, exceeds the limit either. -/
theorem exceedsDepth_iff_liesIn (v : Json) (limit current : Int) :
    (v.exceedsDepth limit current = true ↔ ∃ (w : Json) (n : Nat), w.LiesIn v n ∧ limit - current < n) ∧
      (v.exceedsDepth limit current = false →
        (∀ higher, limit ≤ higher → v.exceedsDepth higher current = false) ∧
          ∀ (w : Json) (n : Nat), w.LiesIn v n → w.exceedsDepth limit current = false) := by
  constructor
  · rw [← Bool.not_eq_false, exceedsDepth_eq_false_iff]
    simp only [Classical.not_forall, exists_prop]
    refine exists_congr fun w => exists_congr fun n => and_congr_right fun _ => ?_
    omega
  · intro h
    constructor
    · intro higher hle
      exact not_exceedsDepth_of_le h (by omega)
    · intro w n hw
      exact not_exceedsDepth_of_le (not_exceedsDepth_of_liesIn hw h) (by omega)

/-- A table of two rows: an empty one, and one with a null in it. -/
def table : Json := .ofFields [("title", .str "t"), ("rows", .arr [.arr [], .ofFields [("x", .null)]])]

/-- The null lies inside three containers, so that from level 1 on four levels are enough and three are not. -/
theorem exceedsDepth_iff_liesIn_table :
    table.exceedsDepth 4 1 = false ∧ table.exceedsDepth 9 1 = false ∧
      (Json.ofFields [("x", .null)]).exceedsDepth 4 1 = false ∧ table.exceedsDepth 3 1 = true := by
  have hwithin : table.exceedsDepth 4 1 = false := rfl
  have hrow : (Json.ofFields [("x", .null)]).LiesIn table 2 :=
    .field (.tail _ (.head _)) (.item (.tail _ (.head _)) .whole)
  have hdeepest : Json.null.LiesIn table 3 :=
    .field (.tail _ (.head _)) (.item (.tail _ (.head _)) (.field (.head _) .whole))
  obtain ⟨hhigher, hinside⟩ := (exceedsDepth_iff_liesIn table 4 1).2 hwithin
  refine ⟨hwithin, hhigher 9 (by decide), hinside _ 2 hrow, ?_⟩
  exact (exceedsDepth_iff_liesIn table 3 1).1.mpr ⟨.null, 3, hdeepest, by decide⟩

end LiveSurface.Json
