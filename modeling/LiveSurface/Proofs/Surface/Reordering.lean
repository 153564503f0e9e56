import LiveSurface.Proofs.Render.Footprint
import LiveSurface.Proofs.Surface.History
import LiveSurface.Proofs.Surface.Isolation
import Mathlib.Data.Fin.VecNotation
import Mathlib.Data.List.FinRange
/-!
# Updates in another order

Updates may be taken in another order as long as those that conflict stay in theirs: changes of one data model, and
updates that bring a component under the same id to one surface. The surfaces come out the same, but for the order of
their components, and the order of its components does not show in a drawing.

A reordering places every message of one list somewhere in the other. Seen through a predicate whose messages all
conflict with one another, the two lists are the same, `Reorders.filter_eq`; and what updates make of a surface can be
said through such predicates alone: its data model by the changes of it, and the component under an id by the records
with that id.

Results:
* `Reorders.filter_eq`: two orders of a list agree on the messages that conflict.
* `Message.actAll_about_updates`: what updates make of a surface.
* `Store.draw_eq_of_sameContent`: the order of the components does not show.
* `Store.applyAll_reordered`: updates in another order.
-/
namespace LiveSurface

/-! ## Orders of a list -/

section
variable {α : Type} {R : α → α → Prop} {l l' : List α}

/-- The first list has the items of the second in another order, in which related items stand as they did: every item
has its place in the second list. -/
def Reorders (R : α → α → Prop) (l l' : List α) : Prop :=
  ∃ place : Fin l.length ≃ Fin l'.length, (∀ i, l'[place i] = l[i]) ∧
    ∀ i j, i < j → R l[i] l[j] → place i < place j

theorem Reorders.mem_iff (h : Reorders R l l') (a : α) : a ∈ l ↔ a ∈ l' := by
  obtain ⟨place, hplace, -⟩ := h
  simp only [List.mem_iff_get]
  constructor
  · rintro ⟨i, rfl⟩
    exact ⟨place i, hplace i⟩
  · rintro ⟨j, rfl⟩
    obtain ⟨i, rfl⟩ := place.surjective j
    exact ⟨i, (hplace i).symm⟩

/-- The items that a predicate selects, by their places. -/
theorem filter_eq_map_finRange (p : α → Bool) (l : List α) :
    l.filter p = ((List.finRange l.length).filter fun i => p l[i]).map fun i => l[i] := by
  conv_lhs => rw [← List.map_getElem_finRange l, List.filter_map]
  rfl

/-- **Two orders agree where all items are related.** -/
theorem Reorders.filter_eq (h : Reorders R l l') {p : α → Bool} (hp : ∀ a b, p a = true → p b = true → R a b) :
    l.filter p = l'.filter p := by
  obtain ⟨place, hplace, hmono⟩ := h
  have hpick : ∀ i, p l'[place i] = p l[i] := fun i => by rw [hplace i]
  -- The places of the selected items ascend along both lists, and they are the same places.
  have hascend : (((List.finRange l.length).filter fun i => p l[i]).map place).Pairwise (· < ·) := by
    rw [List.pairwise_map]
    refine ((List.pairwise_lt_finRange _).filter _).imp_of_mem ?_
    intro i j hi hj hij
    exact hmono i j hij (hp _ _ (List.mem_filter.mp hi).2 (List.mem_filter.mp hj).2)
  have hascend' : ((List.finRange l'.length).filter fun j => p l'[j]).Pairwise (· < ·) :=
    (List.pairwise_lt_finRange _).filter _
  have hmem : ∀ j, j ∈ ((List.finRange l.length).filter fun i => p l[i]).map place ↔
      j ∈ (List.finRange l'.length).filter fun j => p l'[j] := by
    intro j
    simp only [List.mem_map, List.mem_filter, List.mem_finRange, true_and]
    constructor
    · rintro ⟨i, hi, rfl⟩
      rwa [hpick]
    · intro hj
      obtain ⟨i, rfl⟩ := place.surjective j
      exact ⟨i, by rwa [← hpick], rfl⟩
  have hplaces : ((List.finRange l.length).filter fun i => p l[i]).map place =
      (List.finRange l'.length).filter fun j => p l'[j] := by
    refine List.Perm.eq_of_pairwise ?_ hascend hascend' ?_
    · intro a b _ _ hab hba
      exact absurd (hab.trans hba) (lt_irrefl a)
    · exact (List.perm_ext_iff_of_nodup (hascend.imp ne_of_lt) (hascend'.imp ne_of_lt)).mpr hmem
  rw [filter_eq_map_finRange p l, filter_eq_map_finRange p l', ← hplaces, List.map_map]
  exact List.map_congr_left fun i _ => (hplace i).symm

end

/-! ## Conflicts of updates -/

namespace Message

/-- The message brings components or changes a data model. -/
def IsUpdate (m : Message) : Prop := m.kind = .updateComponents ∨ m.kind = .updateDataModel

instance : DecidablePred IsUpdate := fun m =>
  inferInstanceAs (Decidable (m.kind = .updateComponents ∨ m.kind = .updateDataModel))

/-- Two messages change the data model of one surface, or bring components with one id to it. -/
def Conflict (m m' : Message) : Prop :=
  m.surface = m'.surface ∧ ((m.kind = .updateDataModel ∧ m'.kind = .updateDataModel) ∨
    ∃ c ∈ m.records m.surface, ∃ c' ∈ m'.records m'.surface, c.id = c'.id)

instance : DecidableRel Conflict := fun m m' =>
  inferInstanceAs (Decidable (m.surface = m'.surface ∧ ((m.kind = .updateDataModel ∧ m'.kind = .updateDataModel) ∨
    ∃ c ∈ m.records m.surface, ∃ c' ∈ m'.records m'.surface, c.id = c'.id)))

/-- The message changes the data model of a surface. -/
def isChangeOf (id : String) (m : Message) : Bool := m.kind = .updateDataModel && m.surface = id

/-- The message brings a component with an id to a surface. -/
def brings (id component : String) (m : Message) : Bool := (m.records id).any (·.id = component)

theorem conflict_of_isChangeOf {id : String} {m m' : Message} (h : m.isChangeOf id = true)
    (h' : m'.isChangeOf id = true) : m.Conflict m' := by
  simp only [isChangeOf, Bool.and_eq_true, decide_eq_true_eq] at h h'
  exact ⟨h.2.trans h'.2.symm, .inl ⟨h.1, h'.1⟩⟩

theorem surface_of_mem_records {id : String} {m : Message} {c : Component} (hc : c ∈ m.records id) :
    m.surface = id := by
  refine Classical.byContradiction fun hne => ?_
  rw [records_of_ne hne] at hc
  cases hc

theorem conflict_of_brings {id component : String} {m m' : Message} (h : m.brings id component = true)
    (h' : m'.brings id component = true) : m.Conflict m' := by
  simp only [brings, List.any_eq_true, decide_eq_true_eq] at h h'
  obtain ⟨c, hc, hid⟩ := h
  obtain ⟨c', hc', hid'⟩ := h'
  have hm := surface_of_mem_records hc
  have hm' := surface_of_mem_records hc'
  refine ⟨hm.trans hm'.symm, .inr ⟨c, ?_, c', ?_, hid.trans hid'.symm⟩⟩
  · rwa [hm]
  · rwa [hm']

/-- The changes of a data model are those of the messages that change it. -/
theorem filterMap_revision? (id : String) (messages : List Message) :
    messages.filterMap (·.revision? id) = (messages.filter (·.isChangeOf id)).filterMap (·.revision? id) := by
  rw [List.filterMap_filter]
  refine List.filterMap_congr fun m _ => ?_
  split
  · rfl
  · next hnot =>
    cases m with
    | updateDataModel surface path op value =>
      refine revision?_of_ne fun hm => hnot ?_
      simpa [isChangeOf, kind] using hm
    | _ => rfl

/-- The records with an id are those of the messages that bring one. -/
theorem filter_flatMap_records (id component : String) (messages : List Message) :
    (messages.flatMap (·.records id)).filter (·.id = component) =
      (messages.filter (·.brings id component)).flatMap fun m => (m.records id).filter (·.id = component) := by
  rw [List.filter_flatMap]
  induction messages with
  | nil => rfl
  | cons m rest ih =>
    rw [List.flatMap_cons, List.filter_cons, ih]
    split
    · rw [List.flatMap_cons]
    · next hnot =>
      have hnone : (m.records id).filter (·.id = component) = [] := by
        rw [List.filter_eq_nil_iff]
        intro c hc hid
        exact hnot (List.any_eq_true.mpr ⟨c, hc, hid⟩)
      rw [hnone, List.nil_append]

end Message

/-! ## What updates make of a surface -/

namespace Message

theorem actAll_about_updates_none (settings : Settings) (id : String) {messages : List Message}
    (h : ∀ m ∈ messages, m.IsUpdate) : actAll settings none (about id messages) = .ok none := by
  induction messages with
  | nil => rfl
  | cons m rest ih =>
    rw [List.forall_mem_cons] at h
    rw [about_cons]
    split
    · rw [actAll_cons]
      cases m with
      | updateComponents | updateDataModel => exact ih h.2
      | createSurface | deleteSurface => rcases h.1 with hkind | hkind <;> cases hkind
    · exact ih h.2

/-- **What updates make of a surface**: its data model goes through the changes of it, and the records are put. -/
theorem actAll_about_updates (settings : Settings) (id : String) (s : Surface) {messages : List Message}
    (h : ∀ m ∈ messages, m.IsUpdate) :
    actAll settings (some s) (about id messages) =
      ((messages.filterMap (·.revision? id)).foldlM Revision.revise s.dataModel).map fun data =>
        some { s.upsert (messages.flatMap (·.records id)) with dataModel := data } := by
  induction messages generalizing s with
  | nil => rfl
  | cons m rest ih =>
    rw [List.forall_mem_cons] at h
    rw [about_cons, List.flatMap_cons, List.filterMap_cons]
    split
    · next hm =>
      rw [actAll_cons]
      cases m with
      | updateComponents surface components =>
        obtain rfl : surface = id := hm
        have hrecords : (updateComponents surface components).records surface = components := if_pos rfl
        have hact : act settings (some s) (updateComponents surface components) = .ok (some (s.upsert components)) :=
          rfl
        rw [hrecords, hact]
        refine (ih (s.upsert components) h.2).trans ?_
        simp only [Surface.upsert, List.foldl_append]
        rfl
      | updateDataModel surface path op value =>
        obtain rfl : surface = id := hm
        simp only [act, revision?, records, if_true, List.nil_append]
        cases Revision.ofUpdate? path op value with
        | none => exact ih s h.2
        | some r =>
          simp only [List.foldlM_cons]
          cases r.revise s.dataModel with
          | error e => rfl
          | ok data => exact ih { s with dataModel := data } h.2
      | createSurface | deleteSurface => rcases h.1 with hkind | hkind <;> cases hkind
    · next hm =>
      rw [records_of_ne hm, revision?_of_ne hm, List.nil_append]
      exact ih s h.2

end Message

/-! ## Surfaces but for the order of their components -/

/-- Surfaces that differ at most in the order of their components. -/
structure Surface.SameContent (s s' : Surface) : Prop where
  id : s.id = s'.id
  catalog : s.catalog = s'.catalog
  component? : ∀ component, s.component? component = s'.component? component
  dataModel : s.dataModel = s'.dataModel

namespace Store

/-- Components are looked up by their ids, so their order does not show in a drawing. -/
theorem draw_eq_of_sameContent {a b : Store} {id : String}
    (h : Option.Rel Surface.SameContent (a.surface? id) (b.surface? id)) (settings : Settings) :
    a.draw settings id = b.draw settings id := by
  generalize ha : a.surface? id = s? at h
  generalize hb : b.surface? id = s'? at h
  cases h with
  | none => exact draw_congr (ha.trans hb.symm) settings
  | @some s s' hs =>
    have hsame : s.SameWithin (fun _ => True) s' := ⟨hs.id, fun a _ => hs.component? a, fun _ _ _ _ _ _ => trivial⟩
    refine draw_eq_of_sameWithin ha hb hsame trivial (fun _ _ => trivial) settings fun path _ => ?_
    rw [hs.dataModel]

/-- **Updates in another order.** If a list of updates goes through, then so does any order of it in which updates that
conflict stay in place. Every surface comes out the same but for the order of its components, and is drawn the same. -/
theorem applyAll_reordered (settings : Settings) (store : Store) {messages other : List Message}
    (hupdates : ∀ m ∈ messages, m.IsUpdate) (horder : Reorders Message.Conflict other messages) {r : BatchResult}
    (h : (store.applyAll settings messages).2.result = .ok r) :
    (∃ r', (store.applyAll settings other).2.result = .ok r') ∧
      ∀ id, Option.Rel Surface.SameContent ((store.applyAll settings other).1.surface? id)
          ((store.applyAll settings messages).1.surface? id) ∧
        ∀ settings', (store.applyAll settings other).1.draw settings' id =
          (store.applyAll settings messages).1.draw settings' id := by
  have hother : ∀ m ∈ other, m.IsUpdate := fun m hm => hupdates m ((horder.mem_iff m).mp hm)
  have hrun := (applyAll_ok_iff settings store _ messages).mp ⟨⟨r, h⟩, rfl⟩
  have hown := (after?_ok_iff settings store messages _).mp ⟨_, hrun, fun _ => rfl⟩
  have hsame : ∀ id, ∃ s?, Message.actAll settings (store.surface? id) (Message.about id other) = .ok s? ∧
      Option.Rel Surface.SameContent s? ((store.applyAll settings messages).1.surface? id) := by
    intro id
    have hid := hown id
    cases hs : store.surface? id with
    | none =>
      rw [hs, Message.actAll_about_updates_none settings id hupdates] at hid
      rw [← Except.ok.inj hid]
      exact ⟨none, Message.actAll_about_updates_none settings id hother, .none⟩
    | some s =>
      rw [hs, Message.actAll_about_updates settings id s hupdates] at hid
      have hrevisions : other.filterMap (·.revision? id) = messages.filterMap (·.revision? id) := by
        rw [Message.filterMap_revision? id other, Message.filterMap_revision? id messages,
          horder.filter_eq fun _ _ => Message.conflict_of_isChangeOf]
      have hrecords : ∀ component, (other.flatMap (·.records id)).filter (·.id = component) =
          (messages.flatMap (·.records id)).filter (·.id = component) := by
        intro component
        rw [Message.filter_flatMap_records id component other, Message.filter_flatMap_records id component messages,
          horder.filter_eq fun _ _ => Message.conflict_of_brings]
      rw [Message.actAll_about_updates settings id s hother, hrevisions]
      cases hdata : (messages.filterMap (·.revision? id)).foldlM Revision.revise s.dataModel with
      | error e => rw [hdata] at hid; cases hid
      | ok data =>
        rw [hdata] at hid
        rw [← Except.ok.inj hid]
        refine ⟨_, rfl, .some ⟨rfl, rfl, ?_, rfl⟩⟩
        intro component
        show (s.upsert _).component? component = (s.upsert _).component? component
        rw [Surface.component?_upsert, Surface.component?_upsert, hrecords]
  choose left hleft hrel using hsame
  obtain ⟨last, hlast, hsurface⟩ := (after?_ok_iff settings store other left).mpr hleft
  obtain ⟨hok, rfl⟩ := (applyAll_ok_iff settings store last other).mpr hlast
  refine ⟨hok, fun id => ?_⟩
  have hid := hrel id
  rw [← hsurface id] at hid
  exact ⟨hid, draw_eq_of_sameContent hid⟩

/-! ## A list of updates in two orders -/

/-- A surface without components, and one with a root. -/
def twoSurfaces : Store :=
  ⟨[("a", .empty "a" "plain"), ("b", ⟨"b", "plain", [("root", ⟨"root", .divider none, []⟩)], .null⟩)]⟩

/-- A text that shows what the data model holds under `title`. -/
def titleText (hint : String) : Component :=
  ⟨"title", .text (some (.bound { path := some (some "/title") })) (some (some hint)), []⟩

/-- The root comes before what stands inside it, and components before data. -/
def rootFirst : List Message :=
  [.updateComponents "a" [⟨"root", .column (some (some (.explicit ["title", "note"]))) none none, []⟩],
   .updateComponents "a" [titleText "h1", ⟨"note", .divider none, []⟩],
   .updateDataModel "a" (some "/title") none (some (.str "draft")),
   .updateDataModel "b" (some "/n") (some "add") (some (.bool true)),
   .updateDataModel "a" (some "/title") none (some (.str "final")),
   .updateComponents "a" [titleText "h2"]]

/-- The same updates with the root last. The two changes of one title and the two records of it keep their order. -/
def rootLast : List Message :=
  [.updateDataModel "a" (some "/title") none (some (.str "draft")),
   .updateDataModel "b" (some "/n") (some "add") (some (.bool true)),
   .updateComponents "a" [titleText "h1", ⟨"note", .divider none, []⟩],
   .updateComponents "a" [titleText "h2"],
   .updateDataModel "a" (some "/title") none (some (.str "final")),
   .updateComponents "a" [⟨"root", .column (some (some (.explicit ["title", "note"]))) none none, []⟩]]

/-- Where the updates of `rootLast` stand in `rootFirst`. -/
def rootLastPlace : Fin 6 ≃ Fin 6 where
  toFun := ![2, 3, 1, 5, 4, 0]
  invFun := ![5, 2, 0, 1, 4, 3]
  left_inv i := by
    revert i
    decide
  right_inv i := by
    revert i
    decide

theorem reorders_rootLast : Reorders Message.Conflict rootLast rootFirst := by
  have hplace : ∀ i : Fin 6, rootFirst.get (rootLastPlace i) = rootLast.get i
    | 0 | 1 | 2 | 3 | 4 | 5 => rfl
  exact ⟨rootLastPlace, hplace, by decide⟩

/-- The components of the surface stand in different orders, and its title is the last one in either case. -/
theorem applyAll_reordered_rootLast :
    (twoSurfaces.applyAll {} rootFirst).2.result = .ok ⟨6, 0, ["a", "b"]⟩ ∧
      ((twoSurfaces.applyAll {} rootFirst).1.surface? "a").map (·.components.keys) = some ["root", "title", "note"] ∧
      ((twoSurfaces.applyAll {} rootLast).1.surface? "a").map (·.components.keys) = some ["title", "note", "root"] ∧
      (∃ r, (twoSurfaces.applyAll {} rootLast).2.result = .ok r) ∧
      ∀ id, Option.Rel Surface.SameContent ((twoSurfaces.applyAll {} rootLast).1.surface? id)
          ((twoSurfaces.applyAll {} rootFirst).1.surface? id) ∧
        ∀ settings, (twoSurfaces.applyAll {} rootLast).1.draw settings id =
          (twoSurfaces.applyAll {} rootFirst).1.draw settings id := by
  have hresult : (twoSurfaces.applyAll {} rootFirst).2.result = .ok ⟨6, 0, ["a", "b"]⟩ := rfl
  have hupdates : ∀ m ∈ rootFirst, m.IsUpdate := by decide
  obtain ⟨hok, hsame⟩ := applyAll_reordered {} twoSurfaces hupdates reorders_rootLast hresult
  exact ⟨hresult, rfl, rfl, hok, hsame⟩

end Store

end LiveSurface
