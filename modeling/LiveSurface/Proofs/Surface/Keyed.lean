import LiveSurface.Proofs.Surface.Run
/-!
# Every entry under its own id

In a store that batches made, each surface stands under its own id and each component of a surface under its
own id, and no id comes up twice. The drawing rules rely on it when they look components up.

Results:
* `Store.Reachable.keyed`: reachable stores are keyed.
* `Surface.component?_upsert`: the last record of an id wins.
* `Store.Keyed.surface_id`, `Surface.Keyed.component_id`: what is found under an id has that id.
-/
namespace LiveSurface

/-- Every component stands under its own id. -/
structure Surface.Keyed (s : Surface) : Prop where
  nodup : s.components.keys.Nodup
  own : ∀ e ∈ s.components, e.2.id = e.1

namespace Surface

theorem Keyed.component_id {s : Surface} (h : s.Keyed) {id : String} {c : Component}
    (hc : s.component? id = some c) : c.id = id :=
  h.own _ (Entries.mem_of_get? hc)

theorem keyed_empty (id catalog : String) : (empty id catalog).Keyed :=
  ⟨by simp [empty, Entries.keys], by simp [empty]⟩

theorem Keyed.put {s : Surface} (h : s.Keyed) (c : Component) :
    Keyed { s with components := s.components.put c.id c } where
  nodup := Entries.nodup_keys_put h.nodup c.id c
  own e he := by
    rcases Entries.mem_put he with he | rfl
    · exact h.own e he
    · rfl

theorem Keyed.upsert {s : Surface} (h : s.Keyed) (components : List Component) :
    (s.upsert components).Keyed := by
  unfold Surface.upsert
  induction components generalizing s with
  | nil => exact h
  | cons c rest ih => exact ih (h.put c)

/-- **The last record of an id wins**; without one, the component stays. -/
theorem component?_upsert (s : Surface) (components : List Component) (id : String) :
    (s.upsert components).component? id =
      ((components.filter (·.id = id)).getLast?).or (s.component? id) := by
  induction components generalizing s with
  | nil => rfl
  | cons c rest ih =>
    have hrest : (s.upsert (c :: rest)).component? id =
        ({ s with components := s.components.put c.id c }.upsert rest).component? id := rfl
    rw [hrest, ih, List.filter_cons]
    by_cases hid : c.id = id
    · subst hid
      simp only [decide_true, if_true, List.getLast?_cons, component?, Entries.get?_put_self]
      cases ((rest.filter (·.id = c.id)).getLast?) <;> rfl
    · simp only [hid, decide_false, Bool.false_eq_true, if_false, component?,
        Entries.get?_put_of_ne _ _ (Ne.symm hid)]

/-- Components leave the others alone. -/
theorem component?_upsert_of_forall_ne {s : Surface} {components : List Component} {id : String}
    (h : ∀ c ∈ components, c.id ≠ id) : (s.upsert components).component? id = s.component? id := by
  have hnone : components.filter (·.id = id) = [] := by simpa using h
  rw [component?_upsert, hnone]
  rfl

end Surface

/-- Every surface stands under its own id, and its components under theirs. -/
structure Store.Keyed (store : Store) : Prop where
  nodup : store.ids.Nodup
  own : ∀ e ∈ store.surfaces, e.2.id = e.1
  surfaces : ∀ e ∈ store.surfaces, e.2.Keyed

/-- What a message makes of its surface still has the surface's id. -/
theorem Message.act_keyed {settings : Settings} {m : Message} {s? : Option Surface} {s' : Surface}
    (h : ∀ s, s? = some s → s.id = m.surface ∧ s.Keyed) (ha : m.act settings s? = .ok (some s')) :
    s'.id = m.surface ∧ s'.Keyed := by
  cases m with
  | createSurface id catalog =>
    simp only [act, Except.ok.injEq, Option.some.injEq] at ha
    subst ha
    exact ⟨rfl, Surface.keyed_empty _ _⟩
  | updateComponents id components =>
    simp only [act, Except.ok.injEq, Option.map_eq_some_iff] at ha
    obtain ⟨s, hs, rfl⟩ := ha
    obtain ⟨h1, h2⟩ := h s hs
    exact ⟨h1, h2.upsert components⟩
  | updateDataModel id path op value =>
    rcases act_update_cases ha with ⟨-, hs⟩ | ⟨s, r, data, rfl, -, -, hs⟩
    · exact h s' hs.symm
    · cases hs
      obtain ⟨h1, h2⟩ := h s rfl
      exact ⟨h1, h2.nodup, h2.own⟩
  | deleteSurface id => cases ha

namespace Store

theorem Keyed.surface_id {store : Store} (h : store.Keyed) {id : String} {s : Surface}
    (hs : store.surface? id = some s) : s.id = id :=
  h.own _ (Entries.mem_of_get? hs)

theorem Keyed.surface {store : Store} (h : store.Keyed) {id : String} {s : Surface}
    (hs : store.surface? id = some s) : s.Keyed :=
  h.surfaces _ (Entries.mem_of_get? hs)

theorem keyed_empty : Store.empty.Keyed :=
  ⟨by simp [ids, empty, Entries.keys], by simp [empty], by simp [empty]⟩

theorem Keyed.place {store : Store} (h : store.Keyed) {id : String} {s? : Option Surface}
    (hs : ∀ s, s? = some s → s.id = id ∧ s.Keyed) : (store.place id s?).Keyed where
  nodup := by
    cases s? with
    | none => exact Entries.nodup_keys_erase h.nodup id
    | some s => exact Entries.nodup_keys_put h.nodup id s
  own e he := by
    rcases mem_place he with he | ⟨s, hsome, rfl⟩
    · exact h.own e he
    · exact (hs s hsome).1
  surfaces e he := by
    rcases mem_place he with he | ⟨s, hsome, rfl⟩
    · exact h.surfaces e he
    · exact (hs s hsome).2

/-- A message keeps a store keyed. -/
theorem Keyed.act {settings : Settings} {store : Store} {m : Message} {s? : Option Surface} (h : store.Keyed)
    (ha : m.act settings (store.surface? m.surface) = .ok s?) : (store.place m.surface s?).Keyed := by
  refine h.place fun s hs => ?_
  subst hs
  exact Message.act_keyed (fun s hs => ⟨h.surface_id hs, h.surface hs⟩) ha

theorem Reachable.keyed {store : Store} (h : store.Reachable) : store.Keyed :=
  h.induct keyed_empty fun _ _ _ _ _ _ _ _ hk ha => hk.act ha

end Store

end LiveSurface
