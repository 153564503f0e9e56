import LiveSurface.Json.Basic
/-!
# Nesting of values

`exceedsDepth` tells whether a value nests deeper than a limit allows. The value itself counts too: at a
starting depth above the limit even a scalar exceeds it. `nesting` counts how many containers stand one
inside the other.
-/
namespace LiveSurface.Json

mutual

/-- Whether `v`, met at depth `current`, holds a value at a depth above `max`. -/
def exceedsDepth (max : Int) (current : Int) : Json → Bool
  | .arr items => decide (max < current) || anyItemExceeds max (current + 1) items
  | .obj fields => decide (max < current) || anyFieldExceeds max (current + 1) fields
  | .null | .bool _ | .num _ | .str _ => decide (max < current)

/-- Whether an item, met at depth `current`, exceeds the limit. -/
def anyItemExceeds (max : Int) (current : Int) : List Json → Bool
  | [] => false
  | v :: rest => exceedsDepth max current v || anyItemExceeds max current rest

/-- Whether a field's value, met at depth `current`, exceeds the limit. -/
def anyFieldExceeds (max : Int) (current : Int) : List (Key × Json) → Bool
  | [] => false
  | (_, v) :: rest => exceedsDepth max current v || anyFieldExceeds max current rest

end

theorem exceedsDepth_arr (max current : Int) (items : List Json) : (Json.arr items).exceedsDepth max current =
    (decide (max < current) || anyItemExceeds max (current + 1) items) := rfl

theorem exceedsDepth_obj (max current : Int) (fields : List (Key × Json)) :
    (Json.obj fields).exceedsDepth max current =
      (decide (max < current) || anyFieldExceeds max (current + 1) fields) := rfl

theorem anyItemExceeds_cons (max current : Int) (v : Json) (rest : List Json) :
    anyItemExceeds max current (v :: rest) = (v.exceedsDepth max current || anyItemExceeds max current rest) := rfl

theorem anyFieldExceeds_cons (max current : Int) (k : Key) (v : Json) (rest : List (Key × Json)) :
    anyFieldExceeds max current ((k, v) :: rest) =
      (v.exceedsDepth max current || anyFieldExceeds max current rest) := rfl

mutual

/-- How many containers of a value stand one inside the other. -/
def nesting : Json → Nat
  | .arr items => itemsNesting items + 1
  | .obj fields => fieldsNesting fields + 1
  | .null | .bool _ | .num _ | .str _ => 0

/-- The greatest nesting among the items. -/
def itemsNesting : List Json → Nat
  | [] => 0
  | v :: rest => max (nesting v) (itemsNesting rest)

/-- The greatest nesting among the fields' values. -/
def fieldsNesting : List (Key × Json) → Nat
  | [] => 0
  | (_, v) :: rest => max (nesting v) (fieldsNesting rest)

end

theorem nesting_arr (items : List Json) : (Json.arr items).nesting = itemsNesting items + 1 := rfl

theorem nesting_obj (fields : List (Key × Json)) : (Json.obj fields).nesting = fieldsNesting fields + 1 := rfl

theorem itemsNesting_cons (v : Json) (rest : List Json) :
    itemsNesting (v :: rest) = max v.nesting (itemsNesting rest) := rfl

theorem fieldsNesting_cons (k : Key) (v : Json) (rest : List (Key × Json)) :
    fieldsNesting ((k, v) :: rest) = max v.nesting (fieldsNesting rest) := rfl

/-- A value that nests too deep. -/
structure TooDeep where
  max : Int
deriving DecidableEq, Repr

/-- The text of the refusal. -/
def TooDeep.message (e : TooDeep) : String :=
  "JSON nesting depth exceeds maximum " ++ toString e.max

/-- Refuses a value that nests deeper than allowed. -/
def checkDepth (v : Json) (max : Int) : Except TooDeep Unit :=
  if v.exceedsDepth max 0 then .error ⟨max⟩ else .ok ()

end LiveSurface.Json
