import LiveSurface.Proofs.Render.Graph
import LiveSurface.Proofs.Surface.Keyed
/-!
# Drawing without guards

Drawing stops at circles and at the limit. `Surface.plain` follows the same rules and stops at neither: it
recurses along the references alone, which is possible from an id that reaches no circle. On such a surface the
guards are never met, as long as the limit lets the longest chain of references pass.

The induction is along the references. It carries the trail of ids above the current one: the ancestry of the
drawing holds the same ids, so an id that comes up again would close a circle, and the levels used up are as
many as the trail is long.

Results:
* `Surface.plain_eq`: the recursion that `Surface.plain` satisfies.
* `Surface.component_eq_plain`: below any trail, guarded and plain drawing agree.
* `Store.draw_eq_plain`: a surface without circles and within the limit is drawn as if there were no guards.
-/
namespace LiveSurface

/-! ## The plain recursion -/

/-- The ids from which references do not go on forever. -/
abbrev Surface.Grounded (s : Surface) := {a : String // Acc (fun b a => s.Refers a b) a}

instance (s : Surface) : WellFoundedRelation s.Grounded := Acc.wfRel

/-- Draws the component with an id by the rules alone, without ancestry and without a limit. -/
def Surface.plain (s : Surface) (a : s.Grounded) (path : String) : Logged LongNumeral (Option Node) :=
  match s.component? a.1 with
  | none => pure none
  | some c => do
    let node ← Draw.body
      { data := s.dataModel
        contextPath := path
        reference := fun id path =>
          match id with
          | none => pure none
          | some b => if h : s.Refers a.1 b then s.plain ⟨b, a.2.inv h⟩ path else pure none }
      c.body
    pure (some node)
termination_by a
decreasing_by exact h

namespace Draw

/-! ## Canvases with the same references -/

theorem SameKids.eq {kids kids' : List Node} (h : SameKids Eq kids kids') : kids = kids' := by
  obtain ⟨nodes, nodes', hn, rfl, rfl⟩ := h
  rw [List.forall₂_eq_eq_eq] at hn
  rw [hn]

/-- Nodes of the same shape over equal references are equal. -/
theorem SameShape.eq {path : String} {node node' : Node} (h : SameShape Eq path path node node') :
    node = node' := by
  cases h with
  | leaf attrs text _ => rfl
  | branch attrs _ hk => rw [hk.eq]
  | button primary action hk => rw [hk.eq]
  | tabs ht =>
    have heq : ∀ tab tab', SameTab Eq tab tab' → tab = tab' := by
      rintro _ _ ⟨title, kids, kids', hk, rfl, rfl⟩
      rw [hk.eq]
    have htabs := ht.imp heq
    rw [List.forall₂_eq_eq_eq] at htabs
    rw [htabs]
  | modal he hc => rw [he.eq, hc.eq]

/-- Drawing a body only follows the references that the body names. -/
theorem body_congr (C : Comparison LongNumeral) {data : Json} {path : String} {b : Body}
    {f g : Option String → String → Logged LongNumeral (Option Node)}
    (hnone : ∀ path, C.Holds Eq (f none path) (g none path))
    (h : ∀ id ∈ b.references, ∀ path, C.Holds Eq (f (some id) path) (g (some id) path)) :
    C.Holds Eq (body ⟨data, path, f⟩ b) (body ⟨data, path, g⟩ b) := by
  have hrel : Canvas.Related C Eq b ⟨data, path, f⟩ ⟨data, path, g⟩ := by
    refine ⟨fun _ _ => rfl, hnone _, ?_, fun _ _ _ => rfl, ?_⟩
    · intro id hid
      exact h id (List.mem_append_left _ hid) path
    · intro id dataBinding container ht _ name _
      refine h id ?_ _
      simp [Body.references, ht]
  exact C.imp (body_related hrel) fun _ _ hn => hn.eq

end Draw

namespace Surface

variable {s : Surface}

theorem acc_of_not_stored {a : String} (h : s.component? a = none) : Acc (fun b a => s.Refers a b) a := by
  constructor
  rintro b ⟨c, hc, -⟩
  rw [h] at hc
  cases hc

/-- What is not stored is drawn as nothing. -/
theorem plain_of_not_stored (a : s.Grounded) (h : s.component? a.1 = none) (path : String) :
    s.plain a path = pure none := by
  rw [plain, h]

/-- The way in which plain drawing follows the references of a component. -/
def follow (s : Surface) (a : s.Grounded) (id : Option String) (path : String) :
    Logged LongNumeral (Option Node) :=
  match id with
  | none => pure none
  | some b => if h : s.Refers a.1 b then s.plain ⟨b, a.2.inv h⟩ path else pure none

theorem plain_of_stored (a : s.Grounded) {c : Component} (h : s.component? a.1 = some c) (path : String) :
    s.plain a path = (do
      let node ← Draw.body ⟨s.dataModel, path, s.follow a⟩ c.body
      pure (some node)) := by
  rw [plain, h]
  rfl

/-- A component that is named is either stored and drawn in turn, or drawn as nothing. -/
theorem follow_cases (a : s.Grounded) {c : Component} (h : s.component? a.1 = some c) {id : String}
    (hid : id ∈ c.body.references) :
    (∃ hr : s.Refers a.1 id, s.follow a (some id) = s.plain ⟨id, a.2.inv hr⟩) ∨
      (s.component? id = none ∧ s.follow a (some id) = fun _ => pure none) := by
  by_cases hr : s.Refers a.1 id
  · exact .inl ⟨hr, funext fun path => dif_pos hr⟩
  · exact .inr ⟨component?_of_not_refers h hid hr, funext fun path => dif_neg hr⟩

theorem plain_silent (a : s.Grounded) (path : String) :
    (Comparison.silent LongNumeral).Holds Eq (s.plain a path) (s.plain a path) := by
  obtain ⟨a, hacc⟩ := a
  induction hacc generalizing path with
  | intro a h ih =>
    cases hc : s.component? a with
    | none =>
      rw [plain_of_not_stored _ hc]
      exact Comparison.pure _ rfl
    | some c =>
      rw [plain_of_stored _ hc]
      refine Comparison.bind _ (Draw.body_congr _ (fun _ => Comparison.pure _ rfl) ?_) ?_
      · intro id hid path
        rcases follow_cases ⟨a, .intro a h⟩ hc hid with ⟨hr, hf⟩ | ⟨-, hf⟩
        · rw [hf]; exact ih id hr path
        · rw [hf]; exact Comparison.pure _ rfl
      · intro node _ heq
        subst heq
        exact Comparison.pure _ rfl

/-- The recursion of plain drawing, whatever way to draw references extends it. -/
theorem plain_eq {f : Option String → String → Logged LongNumeral (Option Node)}
    (hf : ∀ b : s.Grounded, f (some b.1) = s.plain b) (hnone : f none = fun _ => pure none) (a : s.Grounded)
    (path : String) :
    s.plain a path = (match s.component? a.1 with
      | none => pure none
      | some c => do
        let node ← Draw.body ⟨s.dataModel, path, f⟩ c.body
        pure (some node)) := by
  cases hc : s.component? a.1 with
  | none => exact plain_of_not_stored a hc path
  | some c =>
    rw [plain_of_stored a hc]
    refine congrArg (· >>= fun node => pure (some node)) (Comparison.eq_of_silent (Draw.body_congr _ ?_ ?_))
    · intro path
      rw [hnone]
      exact Comparison.pure _ rfl
    · intro id hid path
      rcases follow_cases a hc hid with ⟨hr, hfollow⟩ | ⟨hgone, hfollow⟩
      · rw [hfollow, hf ⟨id, a.2.inv hr⟩]
        exact plain_silent _ path
      · rw [hfollow, hf ⟨id, acc_of_not_stored hgone⟩, plain_of_not_stored _ hgone]
        exact Comparison.pure _ rfl

/-- **Neither guard is met** below a trail of a surface without circles, if the limit lets every chain pass. -/
theorem component_eq_plain {start : String} {limit : Nat} (hk : s.Keyed) (hs : s.Acyclic start)
    (hd : ∀ ids, s.IsChain start ids → ids.length ≤ limit) (a : s.Grounded) {remaining : Nat}
    {ancestry : List (String × String)} (ht : s.Trail start a.1 (ancestry.map Prod.fst))
    (hr : ancestry.length + remaining = limit) (path : String) :
    (Comparison.silent LongNumeral).Holds Eq (Draw.component limit s remaining ancestry (some a.1) path)
      (s.plain a path) := by
  obtain ⟨a, hacc⟩ := a
  induction hacc generalizing remaining ancestry path with
  | intro a h ih =>
    change s.Trail start a _ at ht
    cases hc : s.component? a with
    | none =>
      rw [Draw.component_missing (show (some a).bind s.component? = none from hc), plain_of_not_stored _ hc]
      exact Comparison.pure _ rfl
    | some c =>
      have hid : c.id = a := hk.component_id hc
      have hnot : (c.id, path) ∉ ancestry := by
        intro hmem
        have hmap : c.id ∈ ancestry.map Prod.fst := List.mem_map_of_mem hmem
        exact (List.nodup_cons.mp (ht.nodup hs)).1 (hid ▸ hmap)
      -- The trail and the component make a chain, so that the limit has room for one more level.
      have hlen := hd _ (ht.isChain (by rw [hc]; rfl))
      simp only [List.length_reverse, List.length_cons, List.length_map] at hlen
      obtain ⟨remaining, rfl⟩ : ∃ n, remaining = n + 1 := ⟨remaining - 1, by omega⟩
      rw [Draw.component_open (show (some a).bind s.component? = some c from hc) hnot, plain_of_stored _ hc]
      refine Comparison.bind _ (Draw.body_congr _ ?_ ?_) ?_
      · intro path
        rw [Draw.component_missing rfl]
        exact Comparison.pure _ rfl
      · intro id hmem path
        rcases follow_cases ⟨a, .intro a h⟩ hc hmem with ⟨href, hf⟩ | ⟨hgone, hf⟩
        · rw [hf]
          refine ih id href ?_ path ?_
          · rw [List.length_cons]
            omega
          · rw [List.map_cons, hid]
            exact .cons ht href
        · rw [hf, Draw.component_missing (show (some id).bind s.component? = none from hgone)]
          exact Comparison.pure _ rfl
      · intro node _ heq
        subst heq
        exact Comparison.pure _ rfl

end Surface

/-- **Guards are invisible without circles.** If no circle of references can be reached from the root and no
chain of references from there is longer than the limit, then a surface is drawn as the plain recursion draws
it, and neither guard reports anything. -/
theorem Store.draw_eq_plain (settings : Settings) {store : Store} {id : String} {s : Surface}
    (hs : store.surface? id = some s) (hk : s.Keyed) (ha : s.Acyclic Catalog.rootId)
    (hd : ∀ ids, s.IsChain Catalog.rootId ids → ids.length ≤ settings.maxRenderDepth) :
    (store.draw settings id).result = (s.plain ⟨Catalog.rootId, ha.acc⟩ "").result ∧
      ∀ surface component path limit, .renderCycle surface component path ∉ (store.draw settings id).events ∧
        .renderDepthExceeded surface component limit ∉ (store.draw settings id).events := by
  unfold draw
  simp only [hs]
  cases hroot : s.root? with
  | none =>
    have hevents : (do Logged.emit (.renderNoRoot id); pure none : Logged LongNumeral (Option Node)).events =
        [.renderNoRoot id] := rfl
    refine ⟨?_, fun _ _ _ _ => ?_⟩
    · rw [Surface.plain_of_not_stored ⟨Catalog.rootId, ha.acc⟩ hroot]; rfl
    · rw [hevents]; simp
  | some root =>
    have hid : root.id = Catalog.rootId := hk.component_id hroot
    have heq : (Comparison.silent LongNumeral).Holds Eq
        (Draw.component settings.maxRenderDepth s settings.maxRenderDepth [] (some Catalog.rootId) "")
        (s.plain ⟨Catalog.rootId, ha.acc⟩ "") :=
      Surface.component_eq_plain hk ha hd ⟨Catalog.rootId, ha.acc⟩ .nil (Nat.zero_add _) ""
    simp only [hid, Surface.drawPart, Int.sub_zero, Int.toNat_natCast]
    refine ⟨?_, fun _ _ _ _ => ?_⟩
    · rw [Comparison.eq_of_silent heq]
    · rw [heq.1]
      exact ⟨List.not_mem_nil, List.not_mem_nil⟩

/-! ## A surface with shared components -/

/-- A column that names a card twice, directly and through a template, next to an id that is not stored. -/
def Surface.shared : Surface where
  id := "main"
  catalog := "plain"
  components :=
    [("root", ⟨"root", .column (some (some (.explicit ["card", "list", "gone", "card"]))) none none, []⟩),
     ("list", ⟨"list", .row (some (some (.template "card" "/items"))) none none, []⟩),
     ("card", ⟨"card", .card (some (some "text")), []⟩),
     ("text", ⟨"text", .text (some (.plain (.bool true))) none, []⟩)]
  dataModel := .ofFields [("items", .arr [.null, .null])]

/-- How far a component of `Surface.shared` stands above the text. -/
def Surface.sharedRank (id : String) : Nat :=
  if id = "root" then 3 else if id = "list" then 2 else if id = "card" then 1 else 0

theorem Surface.shared_rank :
    ∀ e ∈ shared.components, ∀ b ∈ e.2.body.references, sharedRank b < sharedRank e.1 := by
  decide

theorem Surface.shared_keyed : shared.Keyed := ⟨by decide, by decide⟩

/-- The longest chain has four components, and the limit is four. -/
theorem Store.draw_eq_plain_shared :
    ((⟨[("main", .shared)]⟩ : Store).draw { maxRenderDepth := 4 } "main").result =
        (Surface.shared.plain ⟨Catalog.rootId, (Surface.acyclic_of_rank Surface.shared_rank _).acc⟩ "").result ∧
      ∀ surface component path limit,
        .renderCycle surface component path ∉
            ((⟨[("main", .shared)]⟩ : Store).draw { maxRenderDepth := 4 } "main").events ∧
          .renderDepthExceeded surface component limit ∉
            ((⟨[("main", .shared)]⟩ : Store).draw { maxRenderDepth := 4 } "main").events :=
  draw_eq_plain { maxRenderDepth := 4 } rfl Surface.shared_keyed
    (Surface.acyclic_of_rank Surface.shared_rank Catalog.rootId) fun _ h => h.length_le Surface.shared_rank

end LiveSurface
