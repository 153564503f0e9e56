import LiveSurface.Proofs.Json.RoundTrip
import Mathlib.Data.List.Nodup
/-!
# Sorted keys

Text with sorted keys is canonical: it does not tell in which order the fields of an object were. The names of an
object differ from each other, so there is one way to sort them, and sorting by names alone leaves no choice between
fields. The writer is chosen by what integers a value holds and how deep it nests, and neither depends on the order of
fields.

Results:
* `everyObject`, `ascends`: conditions on the fields of all objects in a value.
* `mergeSort_eq_of_perm`: fields under different names are sorted in one way.
* `Rearranged.sortKeys`: rearranged values have the same sorted form.
* `everyObject_ascends_sortKeys`: in the sorted form all names ascend.
* `encode_canonical`: the text with sorted keys.
-/
namespace LiveSurface.Json

/-! ## Conditions on objects -/

mutual

/-- Whether a condition holds of the fields of every object in a value. -/
def everyObject (p : List (Key × Json) → Bool) : Json → Bool
  | .arr items => everyItemObject p items
  | .obj fields => p fields && everyFieldObject p fields
  | .null | .bool _ | .num _ | .str _ => true

/-- Whether a condition holds of the fields of every object in the items. -/
def everyItemObject (p : List (Key × Json) → Bool) : List Json → Bool
  | [] => true
  | v :: rest => everyObject p v && everyItemObject p rest

/-- Whether a condition holds of the fields of every object in the fields' values. -/
def everyFieldObject (p : List (Key × Json) → Bool) : List (Key × Json) → Bool
  | [] => true
  | (_, v) :: rest => everyObject p v && everyFieldObject p rest

end

/-- Whether names ascend by code points, none of them given twice. -/
def ascends (fields : List (Key × Json)) : Bool := decide (fields.Pairwise fun e f => e.1.text < f.1.text)

theorem everyFieldObject_iff {p : List (Key × Json) → Bool} {fields : List (Key × Json)} :
    everyFieldObject p fields = true ↔ ∀ e ∈ fields, e.2.everyObject p = true := by
  induction fields with
  | nil => simp [everyFieldObject]
  | cons e rest ih => simp [everyFieldObject, ih]

/-! ## Sorting fields -/

theorem sortFields_eq_map (fields : List (Key × Json)) :
    sortFields fields = fields.map fun e => (e.1, e.2.sortKeys) := by
  induction fields with
  | nil => rfl
  | cons e rest ih => rw [sortFields, ih, List.map_cons]

theorem keys_sortFields (fields : List (Key × Json)) : Entries.keys (sortFields fields) = Entries.keys fields := by
  rw [sortFields_eq_map, Entries.keys, List.map_map]
  rfl

theorem arePlainNames_sortFields {fields : List (Key × Json)} (h : arePlainNames fields = true) :
    arePlainNames (sortFields fields) = true := by
  rwa [arePlainNames_iff, keys_sortFields, ← arePlainNames_iff]

/-- Names that are texts differ by their texts. -/
theorem nodup_texts {fields : List (Key × Json)} (h : arePlainNames fields = true) :
    (fields.map fun e => e.1.text).Nodup := by
  obtain ⟨hnodup, hintact⟩ := arePlainNames_iff.mp h
  have hinj : ∀ k ∈ Entries.keys fields, ∀ l ∈ Entries.keys fields, k.text = l.text → k = l := by
    intro k hk l hl htext
    have hintact' : k.intact = l.intact := (hintact k hk).trans (hintact l hl).symm
    cases k
    cases l
    simp_all
  have hmap : (fields.map fun e => e.1.text) = (Entries.keys fields).map Key.text := by
    rw [Entries.keys, List.map_map]
    rfl
  rw [hmap]
  exact List.Nodup.map_on hinj hnodup

/-- Fields under different names ascend when they are sorted. -/
theorem pairwise_mergeSort_keyLe {fields : List (Key × Json)} (h : arePlainNames fields = true) :
    (fields.mergeSort keyLe).Pairwise fun e f => e.1.text < f.1.text := by
  have hle : (fields.mergeSort keyLe).Pairwise fun e f => keyLe e f = true := by
    apply List.pairwise_mergeSort
    · intro a b c hab hbc
      simp only [keyLe, decide_eq_true_eq] at hab hbc ⊢
      exact String.le_trans hab hbc
    · intro a b
      simp only [keyLe, Bool.or_eq_true, decide_eq_true_eq]
      exact String.le_total _ _
  have hne : (fields.mergeSort keyLe).Pairwise fun e f => e.1.text ≠ f.1.text := by
    have hnodup := ((List.mergeSort_perm fields keyLe).map fun e => e.1.text).nodup_iff.mpr (nodup_texts h)
    exact List.pairwise_map.mp hnodup
  refine (hle.and hne).imp ?_
  rintro e f ⟨hef, hdiff⟩
  simp only [keyLe, decide_eq_true_eq] at hef
  exact Std.lt_of_le_of_ne hef hdiff

/-- There is one way to sort fields under different names. -/
theorem mergeSort_eq_of_perm {fields fields' : List (Key × Json)} (hp : fields.Perm fields')
    (h : arePlainNames fields = true) : fields.mergeSort keyLe = fields'.mergeSort keyLe := by
  have h' : arePlainNames fields' = true := (arePlainNames_perm hp).trans h
  have hperm : (fields.mergeSort keyLe).Perm (fields'.mergeSort keyLe) :=
    (List.mergeSort_perm _ _).trans (hp.trans (List.mergeSort_perm _ _).symm)
  refine hperm.eq_of_pairwise ?_ (pairwise_mergeSort_keyLe h) (pairwise_mergeSort_keyLe h')
  intro e f _ _ hef hfe
  exact absurd hfe (String.lt_asymm hef)

/-! ## Sorted forms -/

mutual

/-- **Rearranged values have the same sorted form.** -/
theorem Rearranged.sortKeys : ∀ {v w : Json}, Rearranged v w → v.everyObject arePlainNames = true →
    w.sortKeys = v.sortKeys
  | _, _, .refl _, _ => rfl
  | _, _, .arr h, hv => congrArg Json.arr (h.sortItems hv)
  | .obj fields, _, .obj h hp, hv => by
    rw [everyObject, Bool.and_eq_true] at hv
    have hvalues := h.sortFields hv.2
    have hnames := arePlainNames_sortFields hv.1
    rw [Json.sortKeys, Json.sortKeys, ← hvalues] at *
    congr 1
    refine (mergeSort_eq_of_perm ?_ hnames).symm
    rw [sortFields_eq_map, sortFields_eq_map]
    exact hp.map _

theorem RearrangedItems.sortItems : ∀ {items items' : List Json}, RearrangedItems items items' →
    everyItemObject arePlainNames items = true → Json.sortItems items' = Json.sortItems items
  | _, _, .nil, _ => rfl
  | _, _, .cons h hr, hv => by
    rw [everyItemObject, Bool.and_eq_true] at hv
    rw [Json.sortItems, Json.sortItems, h.sortKeys hv.1, hr.sortItems hv.2]

theorem RearrangedFields.sortFields : ∀ {fields fields' : List (Key × Json)}, RearrangedFields fields fields' →
    everyFieldObject arePlainNames fields = true → Json.sortFields fields' = Json.sortFields fields
  | _, _, .nil, _ => rfl
  | _, _, .cons _ h hr, hv => by
    rw [everyFieldObject, Bool.and_eq_true] at hv
    rw [Json.sortFields, Json.sortFields, h.sortKeys hv.1, hr.sortFields hv.2]

end

mutual

/-- In the sorted form, the names of every object ascend. -/
theorem everyObject_ascends_sortKeys : ∀ v : Json, v.everyObject arePlainNames = true →
    v.sortKeys.everyObject ascends = true
  | .arr items, hv => everyItemObject_ascends_sortItems items hv
  | .obj fields, hv => by
    rw [everyObject, Bool.and_eq_true] at hv
    have hnames := arePlainNames_sortFields hv.1
    have hvalues := everyFieldObject_ascends_sortFields fields hv.2
    rw [everyFieldObject_iff] at hvalues
    rw [sortKeys, everyObject, Bool.and_eq_true, everyFieldObject_iff, ascends, decide_eq_true_eq]
    refine ⟨pairwise_mergeSort_keyLe hnames, fun e he => hvalues e ?_⟩
    exact (List.mergeSort_perm _ _).mem_iff.mp he
  | .null, _ | .bool _, _ | .num _, _ | .str _, _ => rfl

theorem everyItemObject_ascends_sortItems : ∀ items : List Json, everyItemObject arePlainNames items = true →
    everyItemObject ascends (sortItems items) = true
  | [], _ => rfl
  | v :: rest, hv => by
    rw [everyItemObject, Bool.and_eq_true] at hv
    rw [sortItems, everyItemObject, everyObject_ascends_sortKeys v hv.1, everyItemObject_ascends_sortItems rest hv.2]
    rfl

theorem everyFieldObject_ascends_sortFields : ∀ fields : List (Key × Json),
    everyFieldObject arePlainNames fields = true → everyFieldObject ascends (sortFields fields) = true
  | [], _ => rfl
  | (k, v) :: rest, hv => by
    rw [everyFieldObject, Bool.and_eq_true] at hv
    rw [sortFields, everyFieldObject, everyObject_ascends_sortKeys v hv.1,
      everyFieldObject_ascends_sortFields rest hv.2]
    rfl

end

/-! ## Texts -/

theorem Rearranged.isFast {v w : Json} (h : Rearranged v w) : w.isFast = v.isFast := by
  rw [Json.isFast, Json.isFast, h.allInts, h.nesting]

theorem Rearranged.isWritable {v w : Json} (h : Rearranged v w) : w.isWritable = v.isWritable :=
  h.allInts isWritableInt

/-- A text with sorted keys is the text of the sorted form, in one of the styles. -/
theorem exists_style_of_encode_sorted {v : Json} {indent : Int} {text : String}
    (h : v.encode indent true = .ok text) : v.isWritable = true ∧ ∃ style, text = v.sortKeys.text style := by
  unfold encode at h
  simp only [if_true] at h
  split at h
  · next hfast =>
    cases h
    exact ⟨isWritable_of_isFast hfast.2, _, rfl⟩
  · split at h
    · cases h
    · next hwritable =>
      rw [if_neg (by simp)] at h
      cases h
      exact ⟨by simpa using hwritable, _, rfl⟩

/-- **Text with sorted keys is canonical.** Values that differ in the order of fields, all under names that are texts,
have the same text with sorted keys, or none of them has one. A text is that of a value whose names ascend in every
object, and if there are no doubles in it and it is not too deep to be read, that value is read from it. -/
theorem encode_canonical {v w : Json} (indent : Int) (h : Rearranged v w)
    (hnames : v.everyObject arePlainNames = true) :
    v.encode indent true = w.encode indent true ∧
    ∀ text, v.encode indent true = .ok text → ∃ style s, text = s.text style ∧ Rearranged v s ∧
      s.everyObject ascends = true ∧
      (v.isPlain = true → v.nesting ≤ maxOpen → ∀ repair, extract text repair = .ok s) := by
  refine ⟨?_, fun text htext => ?_⟩
  · unfold encode
    simp only [h.isFast, h.isWritable, h.sortKeys hnames, if_true]
  · obtain ⟨hwritable, style, rfl⟩ := exists_style_of_encode_sorted htext
    have hsorted : Rearranged v v.sortKeys := rearranged_sortKeys v
    refine ⟨style, v.sortKeys, rfl, hsorted, everyObject_ascends_sortKeys v hnames, fun hplain hnesting repair => ?_⟩
    apply extract_text style repair
    · exact hsorted.isPlain.trans hplain
    · exact hsorted.isWritable.trans hwritable
    · exact hsorted.nesting.trans_le hnesting

/-- A value with an integer past 64 bits, and a double inside. -/
def scattered : Json :=
  .ofFields [("b", .arr [.ofFields [("y", .num (.double (.finite false 3 (-1)))), ("x", .null)], .ofFields []]),
    ("\u00e9", .str "]"), ("a", .num (.int (2 ^ 64)))]

/-- The same with other orders of fields. -/
def gathered : Json :=
  .ofFields [("a", .num (.int (2 ^ 64))),
    ("b", .arr [.ofFields [("x", .null), ("y", .num (.double (.finite false 3 (-1))))], .ofFields []]),
    ("\u00e9", .str "]")]

theorem rearranged_scattered : Rearranged scattered gathered := by
  have hinner : Rearranged (.ofFields [("y", .num (.double (.finite false 3 (-1)))), ("x", .null)])
      (.ofFields [("x", .null), ("y", .num (.double (.finite false 3 (-1))))]) :=
    .obj (.cons _ (.refl _) (.cons _ (.refl _) .nil)) (List.Perm.swap _ _ _)
  refine .obj (.cons _ (.arr (.cons hinner (.cons (.refl _) .nil))) (.cons _ (.refl _) (.cons _ (.refl _) .nil))) ?_
  exact @List.perm_append_comm _ [_, _] [_]

theorem encode_canonical_scattered : Rearranged scattered gathered ∧
    scattered.everyObject arePlainNames = true ∧ scattered.isFast = false ∧
    scattered.encode 0 true = gathered.encode 0 true ∧
    ∃ text style s, scattered.encode 0 true = .ok text ∧ text = s.text style ∧ Rearranged scattered s ∧
      s.everyObject ascends = true := by
  have hnames : scattered.everyObject arePlainNames = true := by decide +kernel
  have hslow : scattered.isFast = false := by decide +kernel
  have hwritable : scattered.isWritable = true := by decide +kernel
  obtain ⟨heq, htext⟩ := encode_canonical 0 rearranged_scattered hnames
  obtain ⟨style, hstyle⟩ := exists_style_encode 0 true hwritable
  obtain ⟨style', s, htext', hs, hascends, -⟩ := htext _ hstyle
  exact ⟨rearranged_scattered, hnames, hslow, heq, _, style', s, hstyle, htext', hs, hascends⟩

end LiveSurface.Json
