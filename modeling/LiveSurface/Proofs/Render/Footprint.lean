import LiveSurface.Proofs.Path.Frame
import LiveSurface.Proofs.Render.Failure
import LiveSurface.Proofs.Render.Plain
/-!
# What a drawing depends on

A drawing looks at the components that it can reach from the root by the ids that components name, and at the values
under the paths that the components on its way are bound to. What else the surface holds cannot be seen in it: components
that nothing leads to may come, go and change, and so may data beside the paths.

That a component is in reach can be read off the surface. Which paths are looked up cannot, since a template leads to
one item for each entry of its container, and the items look up paths of their own. But two drawings that have read the
same so far go on to the same places, so the paths of the one are the paths of the other, whichever comes first.

Results:
* `Surface.mem_of_inReach`: how to see that an id is out of reach.
* `Draw.body_eq_of_same`: bodies that read the same and lead to components that are drawn the same.
* `Draw.component_eq_of_sameWithin`, `Store.draw_eq_of_sameWithin`: surfaces that are the same where a drawing looks.
* `Store.draw_upsert`: components that are out of reach are not seen.
* `Json.getAt_assign_of_parted`: a path that parts from the written one reads what it read.
* `Store.draw_setData`: data beside the paths that are looked up is not seen.
-/
namespace LiveSurface

namespace Surface

/-! ## Where a drawing looks -/

/-- A component names an id, under which another one may be stored or not. -/
def Names (s : Surface) (a b : String) : Prop := ∃ c, s.component? a = some c ∧ b ∈ c.body.references

/-- The ids to which references lead from the root, the root included. -/
def InReach (s : Surface) (id : String) : Prop := Relation.ReflTransGen s.Names Catalog.rootId id

/-- The paths that drawing a surface looks up: those to which properties and templates are bound, in the contexts of
the components that the drawing comes to. -/
def LooksUp (s : Surface) (settings : Settings) (path : String) : Prop :=
  ∃ root c context, s.root? = some root ∧ s.Visits settings.maxRenderDepth [] root.id "" c context ∧
    ∃ bound ∈ c.body.paths, path = Path.resolve bound context

/-- Two surfaces hold the same components in a region that references do not leave. -/
structure SameWithin (region : String → Prop) (s s' : Surface) : Prop where
  id : s.id = s'.id
  component? : ∀ a, region a → s.component? a = s'.component? a
  closed : ∀ a c, region a → s.component? a = some c → ∀ b ∈ c.body.references, region b

variable {s s' : Surface} {region : String → Prop}

theorem SameWithin.symm (h : SameWithin region s s') : SameWithin region s' s where
  id := h.id.symm
  component? a ha := (h.component? a ha).symm
  closed a c ha hc := h.closed a c ha ((h.component? a ha).trans hc)

/-- No id is in reach outside of a set that holds the root and is not left by references. -/
theorem mem_of_inReach (ids : List String) (hroot : Catalog.rootId ∈ ids)
    (h : ∀ e ∈ s.components, e.1 ∈ ids → ∀ b ∈ e.2.body.references, b ∈ ids) {id : String} (hid : s.InReach id) :
    id ∈ ids := by
  induction hid with
  | refl => exact hroot
  | tail _ hnames ih =>
    obtain ⟨c, hc, hb⟩ := hnames
    exact h _ (Entries.mem_of_get? hc) ih _ hb

end Surface

/-! ## Data beside a written path -/

namespace Json

variable {data new v : Json} {path other : String}

theorem exists_assign_of_not_meets (v : Json) (h : ¬data.MeetsLongIndex (Path.segments path)) :
    ∃ new, data.assign path v = .ok new := by
  cases hresult : data.assign path v with
  | ok new => exact ⟨new, rfl⟩
  | error e => exact absurd ((find?_error_iff data _).mp ⟨e, (assign_error_iff data path v e).mp hresult⟩) h

/-- A path that parts from the written one in the new data model reads what it read before. -/
theorem getAt_assign_of_parted (h : data.assign path v = .ok new)
    (hp : new.Parted (Path.segments path) (Path.segments other)) : new.getAt other = data.getAt other := by
  have hroot : ¬Path.isRoot path = true := fun hroot => hp.ne_nil.1 (Path.isRoot_iff.mp hroot)
  unfold assign at h
  rw [if_neg hroot] at h
  have hframe : ∀ {tree : Json}, (tree.setAt path v).result = .ok new → new.getAt other = tree.getAt other := by
    intro tree hset
    rcases setAt_ok_cases hset with hwrite | rfl
    · unfold getAt
      rw [find?_write?_of_parted hwrite hp]
    · rfl
  cases data with
  | null =>
    -- The write went into an empty object, in which the other path led nowhere, as it does in null.
    obtain ⟨t, rest, hother⟩ := List.exists_cons_of_ne_nil hp.ne_nil.2
    rw [hframe h]
    unfold getAt
    rw [hother]
    rfl
  | _ => exact hframe h

end Json

/-! ## The same where a drawing looks -/

namespace Draw

/-- **A body is drawn the same** if the paths that it is bound to read the same, and the components that it leads to are
drawn the same. -/
theorem body_eq_of_same {data data' : Json} {path : String} {b : Body}
    {f g : Option String → String → Logged LongNumeral (Option Node)}
    (hpaths : ∀ bound ∈ b.paths, data.getAt (Path.resolve bound path) = data'.getAt (Path.resolve bound path))
    (hnone : f none path = g none path)
    (hkid : ∀ kid inner, b.LeadsTo data path kid inner → kid ∈ b.references →
      f (some kid) inner = g (some kid) inner) :
    body ⟨data, path, f⟩ b = body ⟨data', path, g⟩ b := by
  have hrelated : Canvas.Related (.unlessReported LongNumeral fun _ => False) Eq b
      ⟨data, path, f⟩ ⟨data', path, g⟩ := by
    constructor
    case value =>
      intro v hv
      refine Bindable.resolve_congr fun bound hbound => hpaths bound ?_
      exact List.mem_append_left _ (List.mem_filterMap.mpr ⟨v, hv, hbound⟩)
    case nothing => exact Comparison.unlessReported_of_eq hnone
    case direct =>
      intro kid hdirect
      exact Comparison.unlessReported_of_eq (hkid kid path (.direct hdirect) (List.mem_append_left _ hdirect))
    case container =>
      intro kid bound ht
      exact hpaths bound (by simp [Body.paths, ht])
    case entry =>
      intro kid bound container ht hget name hname
      refine Comparison.unlessReported_of_eq (hkid kid _ (.item ht hget hname) ?_)
      simp [Body.references, ht]
  have hbody := Comparison.imp _ (body_related hrelated) fun _ _ hshape => hshape.eq
  exact Comparison.eq_of_unlessReported hbody fun _ _ => not_false

section
variable {s s' : Surface} {region : String → Prop}

/-- **Components are drawn the same** on surfaces that hold the same in a region, if the paths that are looked up on
the way down read the same. -/
theorem component_eq_of_sameWithin (h : s.SameWithin region s') {limit remaining : Nat}
    {ancestry : List (String × String)} {id path : String} (hid : region id)
    (hdata : ∀ c context, s.Visits remaining ancestry id path c context → ∀ bound ∈ c.body.paths,
      s.dataModel.getAt (Path.resolve bound context) = s'.dataModel.getAt (Path.resolve bound context)) :
    component limit s remaining ancestry (some id) path = component limit s' remaining ancestry (some id) path := by
  induction remaining using Nat.strong_induction_on generalizing ancestry id path with
  | _ remaining ih =>
    have hsame : (some id).bind s.component? = (some id).bind s'.component? := h.component? id hid
    cases hc : (some id).bind s.component? with
    | none => rw [component_missing hc, component_missing (hsame ▸ hc)]
    | some c =>
      have hc' : (some id).bind s'.component? = some c := hsame ▸ hc
      by_cases hmem : (c.id, path) ∈ ancestry
      · rw [component_cyclic hc hmem, component_cyclic hc' hmem, h.id]
      · cases remaining with
        | zero => rw [component_exceeded hc hmem, component_exceeded hc' hmem, h.id]
        | succ remaining =>
          rw [component_open hc hmem, component_open hc' hmem]
          -- What is looked up below a component that the body leads to is looked up on the way down from here.
          have hkid : ∀ kid inner, c.body.LeadsTo s.dataModel path kid inner → kid ∈ c.body.references →
              component limit s remaining ((c.id, path) :: ancestry) (some kid) inner =
                component limit s' remaining ((c.id, path) :: ancestry) (some kid) inner := by
            intro kid inner hleads hreference
            refine ih remaining (Nat.lt_succ_self _) (h.closed id c hid hc kid hreference) fun d context hv => ?_
            exact hdata d context (.inside hc hmem hleads hv)
          have hpaths := hdata c path (.here hc hmem)
          have hbody : body ⟨s.dataModel, path, component limit s remaining ((c.id, path) :: ancestry)⟩ c.body =
              body ⟨s'.dataModel, path, component limit s' remaining ((c.id, path) :: ancestry)⟩ c.body :=
            body_eq_of_same hpaths ((component_missing rfl).trans (component_missing rfl).symm) hkid
          rw [hbody]

end

end Draw

namespace Store

section
variable {store a b : Store} {id : String} {s s' : Surface} {region : String → Prop}

/-- **Surfaces are drawn the same** if they hold the same in a region around the root, and the paths that drawing the
one of them looks up read the same. -/
theorem draw_eq_of_sameWithin (ha : a.surface? id = some s) (hb : b.surface? id = some s')
    (h : s.SameWithin region s') (hregion : region Catalog.rootId)
    (hroot : ∀ root, s.root? = some root → region root.id) (settings : Settings)
    (hdata : ∀ path, s.LooksUp settings path → s.dataModel.getAt path = s'.dataModel.getAt path) :
    a.draw settings id = b.draw settings id := by
  have hsame : s.root? = s'.root? := h.component? Catalog.rootId hregion
  cases hr : s.root? with
  | none =>
    rw [draw, draw, ha, hb]
    simp only [← hsame, hr]
  | some root =>
    rw [draw_of_root ha hr, draw_of_root hb (hsame.symm.trans hr)]
    refine Draw.component_eq_of_sameWithin h (hroot root hr) fun c context hv bound hbound => ?_
    exact hdata _ ⟨root, c, context, hr, hv, bound, hbound, rfl⟩

/-- **Components that are out of reach are not seen.** Components may be put under ids to which no references lead from
the root, whether they are new or in place of others, and the surface is drawn as before. -/
theorem draw_upsert (settings : Settings) (hs : store.surface? id = some s) (hk : s.Keyed)
    {components : List Component} (hreach : ∀ c ∈ components, ¬s.InReach c.id) :
    ∃ next, (store.upsert id components : Logged LongNumeral (Store × Bool)).result = .ok (next, true) ∧
      next.draw settings id = store.draw settings id := by
  refine ⟨store.putSurface id (s.upsert components), ?_, ?_⟩
  · rw [upsert, change_result, hs]
    rfl
  · have hsame : s.SameWithin s.InReach (s.upsert components) := by
      refine ⟨rfl, fun a ha => ?_, fun a c ha hc b hb => ha.tail ⟨c, hc, hb⟩⟩
      exact (Surface.component?_upsert_of_forall_ne fun c hc heq => hreach c hc (heq ▸ ha)).symm
    have hroot : ∀ root, s.root? = some root → s.InReach root.id := by
      intro root hr
      rw [hk.component_id hr]
      exact .refl
    exact (draw_eq_of_sameWithin hs (Entries.get?_put_self _ id _) hsame .refl hroot settings fun _ _ => rfl).symm

/-- Two components under one id, and a third one under another. All of them lead back to the root. -/
def spares : List Component :=
  [⟨"spare", .divider none, []⟩, ⟨"other", .card (some (some "root")), []⟩,
   ⟨"spare", .row (some (some (.template "root" "/items"))) none none, []⟩]

/-- The components of `Surface.shared` name all ids in reach, and one that is not stored. -/
theorem mem_of_inReach_shared {id : String} (h : Surface.shared.InReach id) :
    id ∈ ["root", "card", "list", "gone", "text"] :=
  Surface.mem_of_inReach _ (by decide) (by decide) h

theorem draw_upsert_spares :
    (∀ c ∈ spares, ¬Surface.shared.InReach c.id) ∧
      ∃ next, ((⟨[("main", .shared)]⟩ : Store).upsert "main" spares : Logged LongNumeral (Store × Bool)).result =
          .ok (next, true) ∧
        next.draw {} "main" = (⟨[("main", .shared)]⟩ : Store).draw {} "main" := by
  have hout : ∀ c ∈ spares, c.id ∉ ["root", "card", "list", "gone", "text"] := by decide
  have hreach : ∀ c ∈ spares, ¬Surface.shared.InReach c.id := fun c hc hin => hout c hc (mem_of_inReach_shared hin)
  exact ⟨hreach, draw_upsert {} rfl Surface.shared_keyed hreach⟩

/-- **Data beside the paths that are looked up is not seen.** If no index on the way is too long to be read, a value can
be put at a path of the data model. If then all paths that are looked up part from it in the new data model, be they
those of the drawing before or those of the drawing afterwards, the surface is drawn as before. -/
theorem draw_setData (settings : Settings) (hs : store.surface? id = some s) {path : String} (v : Json)
    (hshort : ¬s.dataModel.MeetsLongIndex (Path.segments path)) :
    ∃ data, (store.setData id path v).result = .ok (store.putSurface id { s with dataModel := data }, true) ∧
      ((∀ other, s.LooksUp settings other → data.Parted (Path.segments path) (Path.segments other)) ∨
          (∀ other, { s with dataModel := data }.LooksUp settings other →
            data.Parted (Path.segments path) (Path.segments other)) →
        (store.putSurface id { s with dataModel := data }).draw settings id = store.draw settings id) := by
  obtain ⟨data, hdata⟩ := Json.exists_assign_of_not_meets v hshort
  refine ⟨data, ?_, fun hparted => ?_⟩
  · rw [setData, change_result, hs]
    simp only [Surface.setData_result, hdata]
    rfl
  · have hread : ∀ {other}, data.Parted (Path.segments path) (Path.segments other) →
        data.getAt other = s.dataModel.getAt other := Json.getAt_assign_of_parted hdata
    have hsame : s.SameWithin (fun _ => True) { s with dataModel := data } :=
      ⟨rfl, fun _ _ => rfl, fun _ _ _ _ _ _ => trivial⟩
    have hput : (store.putSurface id { s with dataModel := data }).surface? id = some { s with dataModel := data } :=
      Entries.get?_put_self _ id _
    rcases hparted with hbefore | hafter
    · refine (draw_eq_of_sameWithin hs hput hsame trivial (fun _ _ => trivial) settings fun other hother => ?_).symm
      exact (hread (hbefore other hother)).symm
    · exact draw_eq_of_sameWithin hput hs hsame.symm trivial (fun _ _ => trivial) settings fun other hother =>
        hread (hafter other hother)

end

end Store

/-! ## An item beside a written one -/

/-- A row of tags, which stand in the second of two rows of data. -/
def Surface.tagged : Surface where
  id := "main"
  catalog := "plain"
  components :=
    [("root", ⟨"root", .row (some (some (.template "tag" "/rows/1/tags"))) none none, []⟩),
     ("tag", ⟨"tag", .text (some (.bound { path := some (some ".") })) none, []⟩)]
  dataModel := .ofFields [("rows", .arr [.null, .ofFields [("tags", .arr [.bool true])]])]

theorem Surface.looksUp_tagged {path : String} (h : tagged.LooksUp {} path) :
    path = "/rows/1/tags" ∨ path = "/rows/1/tags/0" := by
  obtain ⟨root, c, context, hroot, hv, bound, hbound, rfl⟩ := h
  cases hroot
  cases hv with
  | here hc _ =>
    cases hc
    obtain rfl : bound = "/rows/1/tags" := List.mem_singleton.mp hbound
    exact .inl (by decide)
  | inside hc _ hkid hv =>
    cases hc
    cases hkid with
    | direct hkid => cases hkid
    | item ht hget hname =>
      cases ht
      have hsegments : Path.segments (Path.resolve "/rows/1/tags" "") = ["rows", "1", "tags"] := by decide
      rw [Json.getAt, hsegments] at hget
      cases hget
      obtain rfl := List.mem_singleton.mp hname
      cases hv with
      | here hd _ =>
        cases hd
        obtain rfl : bound = "." := List.mem_singleton.mp hbound
        exact .inr (by decide)
      | inside hd _ hkid _ =>
        cases hd
        cases hkid with
        | direct hkid => cases hkid
        | item ht => cases ht

/-- The data of `Surface.tagged` with tags in the first row. -/
def writtenTags : Json :=
  .ofFields [("rows", .arr [.ofFields [("tags", .bool true)], .ofFields [("tags", .arr [.bool true])]])]

theorem Surface.segments_writtenTags : Path.segments "/rows/00/tags" = ["rows"] ++ "00" :: ["tags"] := by decide

theorem Surface.assign_tagged : tagged.dataModel.assign "/rows/00/tags" (.bool true) = .ok writtenTags := by
  unfold Json.assign
  rw [if_neg (by decide), Json.setAt_result, segments_writtenTags]
  rfl

/-- Whatever leads into the second row parts from what was written in the first one. -/
theorem Surface.parted_writtenTags (rest : List String) :
    writtenTags.Parted (Path.segments "/rows/00/tags") (["rows"] ++ "1" :: rest) := by
  rw [segments_writtenTags]
  refine Json.parted_of_front rfl ?_ _ _
  rintro ⟨i, hfirst, hsecond⟩
  cases hfirst
  cases hsecond

/-- The first row is written under an index that is spelled with a zero in front. -/
theorem Store.draw_setData_tagged :
    ¬Surface.tagged.dataModel.MeetsLongIndex (Path.segments "/rows/00/tags") ∧
      (∀ other, Surface.tagged.LooksUp {} other →
        writtenTags.Parted (Path.segments "/rows/00/tags") (Path.segments other)) ∧
      ((⟨[("main", .tagged)]⟩ : Store).setData "main" "/rows/00/tags" (.bool true)).result =
        .ok (⟨[("main", { Surface.tagged with dataModel := writtenTags })]⟩, true) ∧
      (⟨[("main", { Surface.tagged with dataModel := writtenTags })]⟩ : Store).draw {} "main" =
        (⟨[("main", .tagged)]⟩ : Store).draw {} "main" := by
  have hshort : ¬Surface.tagged.dataModel.MeetsLongIndex (Path.segments "/rows/00/tags") := by
    have hfind : Surface.tagged.dataModel.find? (["rows"] ++ "00" :: ["tags"]) = .ok none := rfl
    rw [Surface.segments_writtenTags, ← Json.find?_error_iff, hfind]
    exact fun ⟨_, he⟩ => nomatch he
  have hbefore : ∀ other, Surface.tagged.LooksUp {} other →
      writtenTags.Parted (Path.segments "/rows/00/tags") (Path.segments other) := by
    intro other hother
    rcases Surface.looksUp_tagged hother with rfl | rfl
    · rw [(by decide : Path.segments "/rows/1/tags" = ["rows"] ++ "1" :: ["tags"])]
      exact Surface.parted_writtenTags ["tags"]
    · rw [(by decide : Path.segments "/rows/1/tags/0" = ["rows"] ++ "1" :: ["tags", "0"])]
      exact Surface.parted_writtenTags ["tags", "0"]
  have hs : (⟨[("main", .tagged)]⟩ : Store).surface? "main" = some .tagged := rfl
  have hmade : ((⟨[("main", .tagged)]⟩ : Store).setData "main" "/rows/00/tags" (.bool true)).result =
      .ok (⟨[("main", { Surface.tagged with dataModel := writtenTags })]⟩, true) := by
    rw [setData, change_result, hs]
    simp only [Surface.setData_result, Surface.assign_tagged]
    rfl
  obtain ⟨data, hset, hdraw⟩ := draw_setData {} hs (.bool true) hshort
  obtain rfl : writtenTags = data := by
    have hsame := hmade.symm.trans hset
    cases hsame
    rfl
  exact ⟨hshort, hbefore, hmade, hdraw (.inl hbefore)⟩

end LiveSurface
