import LiveSurface.Json.Basic
/-!
# Log contexts

While a context is open, its bindings go with every line that is logged. Contexts nest: leaving one gives its
names the values back that they had when it was entered, or none.

Results:
* `leave_nil`: without an open context, leaving changes nothing.
* `get?_enter_of_not_mem`: entering leaves the other names alone.
* `leave_enter`: leaving undoes entering.
-/
namespace LiveSurface

/-- The bound names, and for each open context, innermost first, what its names were bound to before. -/
structure LogContext where
  bound : Entries String Json := []
  saved : List (List (String × Option Json)) := []
deriving Repr

namespace LogContext

/-- Binds a name to a value, or to none. -/
def rebind (bound : Entries String Json) (name : String) : Option Json → Entries String Json
  | some v => bound.put name v
  | none => bound.erase name

/-- Binds names again as they were. -/
def restore (bound : Entries String Json) (saved : List (String × Option Json)) : Entries String Json :=
  saved.foldl (fun m e => rebind m e.1 e.2) bound

/-- Enters a context. -/
def enter (c : LogContext) (bindings : Entries String Json) : LogContext where
  bound := c.bound.putAll bindings
  saved := (bindings.map fun e => (e.1, c.bound.get? e.1)) :: c.saved

/-- Leaves the innermost context, if one is open. -/
def leave (c : LogContext) : LogContext :=
  match c.saved with
  | [] => c
  | saved :: rest => ⟨restore c.bound saved, rest⟩

theorem leave_nil (bound : Entries String Json) : leave ⟨bound, []⟩ = ⟨bound, []⟩ := rfl

theorem get?_putAll_of_not_mem (m : Entries String Json) (bindings : Entries String Json) {name : String}
    (h : name ∉ bindings.keys) : (m.putAll bindings).get? name = m.get? name := by
  induction bindings generalizing m with
  | nil => rfl
  | cons e rest ih =>
    simp only [Entries.keys, List.map_cons, List.mem_cons, not_or] at h
    show ((m.put e.1 e.2).putAll rest).get? name = _
    rw [ih _ h.2, Entries.get?_put_of_ne _ _ h.1]

theorem get?_enter_of_not_mem (c : LogContext) (bindings : Entries String Json) {name : String}
    (h : name ∉ bindings.keys) : (c.enter bindings).bound.get? name = c.bound.get? name :=
  get?_putAll_of_not_mem c.bound bindings h

theorem mem_keys_of_get? {m : Entries String Json} {name : String} {v : Json}
    (h : m.get? name = some v) : name ∈ m.keys := by
  rw [Entries.mem_keys_iff, h]
  rfl

theorem rebind_put_self (m : Entries String Json) (name : String) (v : Json) :
    rebind (m.put name v) name (m.get? name) = m := by
  cases h : m.get? name with
  | none => simp [rebind, Entries.erase_eq_self h]
  | some w => simp [rebind, Entries.put_eq_self h]

/-- Binding a name again may be done before other names are bound, if it is not new. -/
theorem rebind_putAll {m : Entries String Json} {name : String} {before : Option Json}
    (bindings : Entries String Json) (hb : name ∉ bindings.keys) (hm : name ∈ m.keys) :
    rebind (m.putAll bindings) name before = (rebind m name before).putAll bindings := by
  induction bindings generalizing m with
  | nil => rfl
  | cons e rest ih =>
    simp only [Entries.keys, List.map_cons, List.mem_cons, not_or] at hb
    show rebind ((m.put e.1 e.2).putAll rest) name before = ((rebind m name before).put e.1 e.2).putAll rest
    have hk : name ∈ (m.put e.1 e.2).keys := by
      rw [Entries.keys_put]
      split
      · exact hm
      · exact List.mem_append_left _ hm
    rw [ih hb.2 hk]
    congr 1
    cases before with
    | none => exact Entries.erase_put_of_ne m e.2 hb.1
    | some w => exact Entries.put_put_comm w e.2 (Ne.symm hb.1) hm

theorem restore_putAll (m bindings : Entries String Json) (h : bindings.keys.Nodup) :
    restore (m.putAll bindings) (bindings.map fun e => (e.1, m.get? e.1)) = m := by
  induction bindings with
  | nil => rfl
  | cons e rest ih =>
    simp only [Entries.keys, List.map_cons, List.nodup_cons] at h
    show restore (rebind ((m.put e.1 e.2).putAll rest) e.1 (m.get? e.1)) _ = m
    have hk : e.1 ∈ (m.put e.1 e.2).keys := mem_keys_of_get? (Entries.get?_put_self m e.1 e.2)
    rw [rebind_putAll rest h.1 hk, rebind_put_self]
    exact ih h.2

theorem leave_enter (c : LogContext) (bindings : Entries String Json) (h : bindings.keys.Nodup) :
    (c.enter bindings).leave = c := by
  show LogContext.mk (restore (c.bound.putAll bindings) _) c.saved = c
  rw [restore_putAll c.bound bindings h]

end LogContext

end LiveSurface
