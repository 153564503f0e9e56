import LiveSurface.Proofs.Render.Limit
/-!
# Circles and the limit

Only templates change the path on the way down. On a surface without templates the guard against circles therefore
lets no component come up twice inside itself, however its references lead, and no more components than the surface
holds can ever stand inside one another. A limit that is at least as high is never met, and how high it is does not
matter.

The induction is over the levels that remain. It carries what stands around the component, `Surface.IsAncestry`: stored
components under one path, none of them twice. A component that the guard lets pass is one more of them, so that
together with the levels that remain they are always at least as many as the surface holds.

Results:
* `Surface.IsAncestry.length_le`: no more components stand around another than are stored.
* `Draw.component_within`: below any ancestry, the guard against circles stops the drawing before the limit does.
* `Store.draw_within`: a surface without templates, under limits of at least its size.
-/
namespace LiveSurface

/-! ## What stands around a component -/

/-- Components around another one, under one path: they are stored, and none comes up twice. -/
structure Surface.IsAncestry (s : Surface) (path : String) (ancestry : List (String × String)) : Prop where
  nodup : ancestry.Nodup
  stored : ∀ a ∈ ancestry, ∃ e ∈ s.components, a = (e.2.id, path)

namespace Surface.IsAncestry

variable {s : Surface} {path : String} {ancestry : List (String × String)}

theorem nil (s : Surface) (path : String) : s.IsAncestry path [] := ⟨.nil, fun _ ha => nomatch ha⟩

/-- A component that the guard lets pass stands around the ones inside it. -/
theorem cons (h : s.IsAncestry path ancestry) {id : Option String} {c : Component}
    (hc : id.bind s.component? = some c) (hmem : (c.id, path) ∉ ancestry) :
    s.IsAncestry path ((c.id, path) :: ancestry) where
  nodup := List.nodup_cons.mpr ⟨hmem, h.nodup⟩
  stored a ha := by
    rcases List.mem_cons.mp ha with rfl | ha
    · obtain ⟨a, -, hc⟩ := Option.bind_eq_some_iff.mp hc
      exact ⟨(a, c), Entries.mem_of_get? hc, rfl⟩
    · exact h.stored a ha

theorem length_le (h : s.IsAncestry path ancestry) : ancestry.length ≤ s.components.length := by
  have hsub : ancestry ⊆ s.components.map fun e => (e.2.id, path) := by
    intro a ha
    obtain ⟨e, he, rfl⟩ := h.stored a ha
    exact List.mem_map_of_mem he
  simpa using (List.subperm_of_subset h.nodup hsub).length_le

end Surface.IsAncestry

/-! ## Below an ancestry -/

namespace Draw

/-- **The guard against circles stops the drawing before a limit does**, if together with the levels that remain the
components around are as many as are stored. -/
theorem component_within {s : Surface} (htemplates : ∀ e ∈ s.components, e.2.body.template? = none)
    {limit limit' remaining remaining' : Nat} {ancestry : List (String × String)} {path : String}
    (ha : s.IsAncestry path ancestry) (hr : s.components.length ≤ ancestry.length + remaining)
    (hr' : s.components.length ≤ ancestry.length + remaining') (id : Option String) :
    (Comparison.without LongNumeral Event.IsDepthExceeded).Holds Eq
      (component limit s remaining ancestry id path) (component limit' s remaining' ancestry id path) := by
  induction remaining using Nat.strong_induction_on generalizing remaining' ancestry id with
  | _ remaining ih =>
    cases hc : id.bind s.component? with
    | none =>
      rw [component_missing hc, component_missing hc]
      exact Comparison.pure _ rfl
    | some c =>
      by_cases hmem : (c.id, path) ∈ ancestry
      · rw [component_cyclic hc hmem, component_cyclic hc hmem]
        refine ⟨?_, rfl, .ok rfl⟩
        rintro e he ⟨surface, component, limit, rfl⟩
        exact absurd (List.mem_singleton.mp he) Event.noConfusion
      · have hinner := ha.cons hc hmem
        -- One more component stands around, so a level must be left for it.
        have hlen := hinner.length_le
        rw [List.length_cons] at hlen
        obtain ⟨remaining, rfl⟩ : ∃ n, remaining = n + 1 := ⟨remaining - 1, by omega⟩
        obtain ⟨remaining', rfl⟩ : ∃ n, remaining' = n + 1 := ⟨remaining' - 1, by omega⟩
        rw [component_open hc hmem, component_open hc hmem]
        obtain ⟨a, -, hstored⟩ := Option.bind_eq_some_iff.mp hc
        have htemplate : c.body.template? = none := htemplates (a, c) (Entries.mem_of_get? hstored)
        have hkid : ∀ kid, (Comparison.without LongNumeral Event.IsDepthExceeded).Holds Eq
            (component limit s remaining ((c.id, path) :: ancestry) kid path)
            (component limit' s remaining' ((c.id, path) :: ancestry) kid path) := by
          intro kid
          refine ih remaining (Nat.lt_succ_self _) hinner ?_ ?_ kid
          · rw [List.length_cons]
            omega
          · rw [List.length_cons]
            omega
        have hrel : Canvas.Related (.without LongNumeral Event.IsDepthExceeded) Eq c.body
            ⟨s.dataModel, path, component limit s remaining ((c.id, path) :: ancestry)⟩
            ⟨s.dataModel, path, component limit' s remaining' ((c.id, path) :: ancestry)⟩ := by
          refine ⟨fun _ _ => rfl, hkid none, fun kid _ => hkid (some kid), fun _ _ _ => rfl, ?_⟩
          intro kid binding container ht
          rw [htemplate] at ht
          cases ht
        refine Comparison.bind _ (body_related hrel) ?_
        intro node node' hshape
        exact Comparison.pure _ (congrArg some hshape.eq)

end Draw

/-- **Circles do not use up the limit.** A surface without templates is drawn without ever meeting a limit of at least
as many levels as it holds components, wherever its references lead, and all such limits make the same drawing. -/
theorem Store.draw_within (settings : Settings) {store : Store} {id : String} {s : Surface}
    (hs : store.surface? id = some s) (htemplates : ∀ e ∈ s.components, e.2.body.template? = none)
    (hlimit : s.components.length ≤ settings.maxRenderDepth) :
    (∀ surface component limit, .renderDepthExceeded surface component limit ∉ (store.draw settings id).events) ∧
      ∀ settings' : Settings, s.components.length ≤ settings'.maxRenderDepth →
        store.draw settings' id = store.draw settings id := by
  have hsame : ∀ settings' : Settings, s.components.length ≤ settings'.maxRenderDepth →
      (Comparison.without LongNumeral Event.IsDepthExceeded).Holds Eq (store.draw settings id)
        (store.draw settings' id) := by
    intro settings' hlimit'
    rcases store.draw_cases id with ⟨event, hevent, hdraw⟩ | ⟨s', root, hs', -, hdraw⟩
    · rw [hdraw, hdraw]
      refine ⟨?_, rfl, .ok rfl⟩
      rintro e he ⟨surface, component, limit, rfl⟩
      obtain rfl := List.mem_singleton.mp he
      rcases hevent with hevent | hevent <;> cases hevent
    · obtain rfl : s = s' := Option.some.inj (hs.symm.trans hs')
      rw [hdraw, hdraw]
      refine Draw.component_within htemplates (.nil s "") ?_ ?_ (some root.id)
      · simpa using hlimit
      · simpa using hlimit'
  constructor
  · intro surface component limit he
    exact (hsame settings hlimit).1 _ he ⟨surface, component, limit, rfl⟩
  · intro settings' hlimit'
    exact (Comparison.eq_of_without (hsame settings' hlimit')).symm

/-! ## A surface full of circles -/

/-- Four components that all lead back to the root, to themselves or to one another. -/
def Surface.tangled : Surface where
  id := "main"
  catalog := "plain"
  components :=
    [("root", ⟨"root", .column (some (some (.explicit ["root", "modal", "card"]))) none none, []⟩),
     ("card", ⟨"card", .card (some (some "tabs")), []⟩),
     ("tabs", ⟨"tabs", .tabs (some [⟨none, some (some "card")⟩, ⟨none, some (some "modal")⟩]), []⟩),
     ("modal", ⟨"modal", .modal (some (some "root")) (some (some "card")), []⟩)]
  dataModel := .obj []

/-- Four levels are enough and change nothing over sixty-four. Three are not. -/
theorem Store.draw_within_tangled :
    let store : Store := ⟨[("main", .tangled)]⟩
    (∀ surface component limit,
        .renderDepthExceeded surface component limit ∉ (store.draw { maxRenderDepth := 4 } "main").events) ∧
      store.draw {} "main" = store.draw { maxRenderDepth := 4 } "main" ∧
      .renderDepthExceeded "main" "tabs" 3 ∈ (store.draw { maxRenderDepth := 3 } "main").events := by
  intro store
  have hs : store.surface? "main" = some .tangled := rfl
  obtain ⟨hnever, hsame⟩ := draw_within { maxRenderDepth := 4 } hs
    (by decide : ∀ e ∈ Surface.tangled.components, e.2.body.template? = none) (by decide)
  exact ⟨hnever, hsame {} (by decide), by decide⟩

end LiveSurface
