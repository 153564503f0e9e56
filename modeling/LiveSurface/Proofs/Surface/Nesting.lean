import LiveSurface.Proofs.Json.Nesting
import LiveSurface.Proofs.Message.Element
import LiveSurface.Proofs.Path.Lookup
import LiveSurface.Proofs.Path.Write
import LiveSurface.Proofs.Surface.Atomicity
import LiveSurface.Proofs.Surface.Replay
/-!
# How deep data models nest

The limit of nesting is a limit of batches: it is checked when a batch arrives, and never again. A value that a batch
brings stands in a payload in an element in the array, so that it nests two levels less than the limit at most. A write
then puts it at the end of a path, and every segment of the path is one more container around it. Nothing else makes a
data model deeper, and the paths are not limited.

Results:
* `Json.write?_nesting_le`, `Json.remove?_nesting_le`: what writes and removals do to the nesting.
* `Batch.limit_of_mem_parse`: what the limit says about a parsed message.
* `Store.nesting_applyBatches`: data models nest at most two levels less than the limit and the longest path together.
* `Store.exists_nesting_eq`: whatever the limit, one batch makes a data model as deep as one likes.
-/
namespace LiveSurface

namespace Json

section
variable {v w new tree : Json} {s : String} {segments : List String} {items : List Json} {n : Nat}

theorem mem_putItem {i : Nat} (h : w ∈ putItem items i v) : w ∈ items ∨ w = v := by
  unfold putItem at h
  rcases List.mem_append.mp h with h | h
  · exact .inl (List.mem_of_mem_take h)
  · rcases List.mem_cons.mp h with h | h
    · exact .inr h
    · exact .inl (List.mem_of_mem_drop h)

/-- **A write puts a value one level deeper for each segment**, and leaves all else as deep as it was. -/
theorem write?_nesting_le (h : write? v tree segments = .ok new) (hv : segments.length + v.nesting ≤ n)
    (ht : segments ≠ [] → tree.nesting ≤ n) : new.nesting ≤ n := by
  induction segments generalizing tree new n with
  | nil =>
    cases h
    simpa using hv
  | cons s rest ih =>
    rw [List.length_cons] at hv
    obtain ⟨m, rfl⟩ : ∃ m, n = m + 1 := ⟨n - 1, by omega⟩
    have htree := ht (List.cons_ne_nil s rest)
    have hentry : ∀ old entry, writeEntry v s rest old = .ok entry → (∀ w, old = some w → w.nesting ≤ m) →
        entry.nesting ≤ m := by
      intro old entry he hold
      rcases writeEntry_ok_cases he with he | ⟨w, hw, he⟩
      · refine ih he (by omega) fun hne => ?_
        have := List.length_pos_iff.mpr hne
        rw [nesting_empty]
        omega
      · exact ih he (by omega) fun _ => hold w hw
    rcases write?_ok_cases h with ⟨fields, entry, rfl, he, rfl⟩ | ⟨items, i, entry, rfl, -, -, he, rfl⟩
    · have hfields := nesting_obj_le_iff.mp htree
      have hle := hentry _ _ he fun w hw => hfields _ (Entries.mem_of_get? hw)
      refine nesting_obj_le_iff.mpr fun e hmem => ?_
      rcases Entries.mem_put hmem with hmem | rfl
      · exact hfields e hmem
      · exact hle
    · have hitems := nesting_arr_le_iff.mp htree
      have hle := hentry _ _ he fun w hw => hitems w (List.mem_of_getElem? hw)
      refine nesting_arr_le_iff.mpr fun u hmem => ?_
      rcases mem_putItem hmem with hmem | rfl
      · exact hitems u hmem
      · exact hle

/-- Below an empty object every segment is a container around the value. -/
theorem nesting_write?_empty (h : write? v (.obj []) segments = .ok new) :
    new.nesting = segments.length + v.nesting := by
  induction segments generalizing new with
  | nil =>
    cases h
    simp
  | cons s rest ih =>
    obtain ⟨entry, hentry⟩ := exists_write?_empty v rest
    rw [write?_obj, Entries.get?_nil, writeEntry, hentry] at h
    cases h
    simp only [Entries.put_nil, nesting_obj, fieldsNesting, ih hentry, List.length_cons]
    omega

theorem child?_nesting_lt (h : v.child? s = .ok (some w)) : w.nesting < v.nesting := by
  cases v with
  | obj fields =>
    have hget : Entries.get? fields (s : Key) = some w := Except.ok.inj h
    exact Nat.lt_succ_of_le (fieldsNesting_le_iff.mp (Nat.le_refl _) _ (Entries.mem_of_get? hget))
  | arr items =>
    obtain ⟨i, -, hget⟩ := exists_index_of_child? h
    exact Nat.lt_succ_of_le (itemsNesting_le_iff.mp (Nat.le_refl _) _ (List.mem_of_getElem? hget))
  | _ => cases h

theorem dropEntry_nesting_le (h : v.dropEntry s = .ok new) : new.nesting ≤ v.nesting := by
  cases v with
  | obj fields =>
    cases h
    have hfields := fieldsNesting_le_iff.mp (Nat.le_refl (fieldsNesting fields))
    exact nesting_obj_le_iff.mpr fun e he => hfields e (List.mem_filter.mp he).1
  | arr items =>
    simp only [dropEntry] at h
    cases hindex : Path.index? s with
    | error e => rw [hindex] at h; cases h
    | ok i? =>
      rw [hindex] at h
      cases i? with
      | none => cases h; exact Nat.le_refl _
      | some i =>
        cases h
        have hitems := itemsNesting_le_iff.mp (Nat.le_refl (itemsNesting items))
        exact nesting_arr_le_iff.mpr fun u hu => hitems u (List.mem_of_mem_eraseIdx hu)
  | _ => cases h; exact Nat.le_refl _

theorem replaceEntry_nesting_le (h : v.replaceEntry s w = .ok new) (hw : w.nesting < v.nesting) :
    new.nesting ≤ v.nesting := by
  cases v with
  | obj fields =>
    cases h
    have hfields := fieldsNesting_le_iff.mp (Nat.le_refl (fieldsNesting fields))
    refine nesting_obj_le_iff.mpr fun e he => ?_
    rcases Entries.mem_put he with he | rfl
    · exact hfields e he
    · exact Nat.le_of_lt_succ hw
  | arr items =>
    simp only [replaceEntry] at h
    cases hindex : Path.index? s with
    | error e => rw [hindex] at h; cases h
    | ok i? =>
      rw [hindex] at h
      cases i? with
      | none => cases h; exact Nat.le_refl _
      | some i =>
        cases h
        have hitems := itemsNesting_le_iff.mp (Nat.le_refl (itemsNesting items))
        refine nesting_arr_le_iff.mpr fun u hu => ?_
        rcases List.mem_or_eq_of_mem_set hu with hu | rfl
        · exact hitems u hu
        · exact Nat.le_of_lt_succ hw
  | _ => cases h; exact Nat.le_refl _

/-- **A removal below the root makes nothing deeper.** -/
theorem remove?_nesting_le (h : tree.remove? segments = .ok new) (hne : segments ≠ []) :
    new.nesting ≤ tree.nesting := by
  induction segments generalizing tree new with
  | nil => exact absurd rfl hne
  | cons s rest ih =>
    cases rest with
    | nil => exact dropEntry_nesting_le h
    | cons t rest =>
      rw [remove?_cons] at h
      cases hchild : tree.child? s with
      | error e => rw [hchild] at h; cases h
      | ok w? =>
        rw [hchild] at h
        cases w? with
        | none => cases h; exact Nat.le_refl _
        | some w =>
          simp only [Except.bind] at h
          cases hremoved : w.remove? (t :: rest) with
          | error e => rw [hremoved] at h; cases h
          | ok left =>
            rw [hremoved] at h
            have hleft := ih hremoved (List.cons_ne_nil t rest)
            exact replaceEntry_nesting_le h (Nat.lt_of_le_of_lt hleft (child?_nesting_lt hchild))

theorem setAt_nesting_le {path : String} (h : (tree.setAt path v).result = .ok new)
    (hv : (Path.segments path).length + v.nesting ≤ n) (ht : tree.nesting ≤ n) : new.nesting ≤ n := by
  rw [setAt_result] at h
  split at h
  · next made hmade =>
    cases h
    exact write?_nesting_le hmade hv fun _ => ht
  · cases h
    exact ht
  · cases h

theorem assign_nesting_le {path : String} (h : tree.assign path v = .ok new)
    (hv : (Path.segments path).length + v.nesting ≤ n) (ht : tree.nesting ≤ n) (hpos : 0 < n) : new.nesting ≤ n := by
  unfold assign at h
  split at h
  · cases h
    omega
  · cases tree with
    | null => exact setAt_nesting_le h hv (by rw [nesting_empty]; exact hpos)
    | _ => exact setAt_nesting_le h hv ht

/-- In an empty data model a write nests as deep as the path is long. -/
theorem exists_assign_empty (path : String) (v : Json) :
    ∃ new, (Json.obj []).assign path v = .ok new ∧ new.nesting = (Path.segments path).length + v.nesting := by
  unfold assign
  split
  · next hroot =>
    have hnil : Path.segments path = [] := Path.isRoot_iff.mp hroot
    exact ⟨v, rfl, by simp [hnil]⟩
  · obtain ⟨new, hnew⟩ := exists_write?_empty v (Path.segments path)
    refine ⟨new, ?_, nesting_write?_empty hnew⟩
    simp only [setAt, hnew]
    rfl

end

end Json

theorem Revision.revise_nesting_le {data new : Json} {r : Revision} {n : Nat} (h : r.revise data = .ok new)
    (hr : ∀ path v, r = .assign path v → (Path.segments path).length + v.nesting ≤ n) (hdata : data.nesting ≤ n)
    (hpos : 0 < n) : new.nesting ≤ n := by
  cases r with
  | assign path v => exact Json.assign_nesting_le h (hr path v rfl) hdata hpos
  | remove path =>
    have hremoved : data.remove? (Path.segments path) = .ok new := h
    by_cases hroot : Path.segments path = []
    · rw [hroot] at hremoved
      cases hremoved
      rw [Json.nesting_empty]
      exact hpos
    · exact Nat.le_trans (Json.remove?_nesting_le hremoved hroot) hdata

/-! ## What a batch brings -/

/-- The message writes nothing, or at the end of at most so many segments. -/
def Message.WritesWithin (longest : Nat) (m : Message) : Prop :=
  ∀ id path op v, m = .updateDataModel id path op (some v) → op ≠ some "remove" →
    (Path.segments (path.getD "")).length ≤ longest

/-- **What the limit says about a parsed message**: there is room for its payload, and a value that it brings nests two
levels less. -/
theorem Batch.limit_of_mem_parse {settings : Settings} {raw : RawBatch} {messages : List Message}
    (h : (parse settings raw).result = .ok messages) {m : Message} (hm : m ∈ messages) :
    3 ≤ settings.maxJsonDepth ∧
      ∀ id path op v, m = .updateDataModel id path op (some v) → v.nesting + 2 ≤ settings.maxJsonDepth := by
  obtain ⟨elements, -, hdeep, v, hv, index, hparse⟩ := exists_element_of_mem_parse h hm
  obtain ⟨fields, payload, kind, surface, rfl, hpayload, hsurface, -, hmessage⟩ :=
    Message.exists_payload_of_parse hparse
  have helement := (Json.exceedsDepth_arr_eq_false_iff.mp hdeep).2 _ hv
  have hinner := Json.not_exceedsDepth_of_get? helement hpayload
  refine ⟨?_, fun id path op value hvalue => ?_⟩
  · have := Json.le_of_not_exceedsDepth (Json.not_exceedsDepth_of_get? hinner hsurface)
    omega
  · subst hvalue
    cases kind with
    | updateDataModel =>
      obtain ⟨-, -, -, hget⟩ := Message.updateDataModel.inj (Except.ok.inj hmessage)
      have := Json.nesting_le_of_not_exceedsDepth value (Json.not_exceedsDepth_of_get? hinner hget)
      omega
    | updateComponents =>
      obtain ⟨components, -, h⟩ := Logged.exists_ok_of_bind hmessage
      cases h
    | _ => cases hmessage

/-! ## Data models -/

/-- A message makes a data model no deeper than the value and the path of its write allow. -/
theorem Message.act_nesting_le {settings : Settings} {m : Message} {s? : Option Surface} {s' : Surface} {n : Nat}
    (ha : m.act settings s? = .ok (some s')) (hs : ∀ s, s? = some s → s.dataModel.nesting ≤ n)
    (hm : ∀ id path op v, m = .updateDataModel id path op (some v) → op ≠ some "remove" →
      (Path.segments (path.getD "")).length + v.nesting ≤ n) (hpos : 0 < n) : s'.dataModel.nesting ≤ n := by
  cases m with
  | createSurface id catalog =>
    cases ha
    exact hpos
  | updateComponents id components =>
    simp only [act, Except.ok.injEq, Option.map_eq_some_iff] at ha
    obtain ⟨s, hsome, rfl⟩ := ha
    exact hs s hsome
  | updateDataModel id path op value =>
    rcases act_update_cases ha with ⟨-, hsame⟩ | ⟨s, r, data, rfl, hrevision, hdata, hnew⟩
    · exact hs s' hsame.symm
    · cases hnew
      refine Revision.revise_nesting_le hdata (fun path' v hassign => ?_) (hs s rfl) hpos
      subst hassign
      unfold Revision.ofUpdate? at hrevision
      split at hrevision
      · cases hrevision
      · next hop =>
        obtain ⟨v', hvalue, hassign⟩ := Option.map_eq_some_iff.mp hrevision
        cases hassign
        exact hm id path op v (by rw [hvalue]) hop
  | deleteSurface id => cases ha

namespace Store

/-- All data models of the store nest at most so deep. -/
def NestsWithin (store : Store) (n : Nat) : Prop := ∀ e ∈ store.surfaces, e.2.dataModel.nesting ≤ n

section
variable {settings : Settings} {raw : RawBatch} {store : Store} {longest : Nat}

/-- A batch keeps data models within the limit and the longest path together, less two levels. -/
theorem NestsWithin.applyBatch (h : store.NestsWithin (settings.maxJsonDepth + longest - 2))
    (hwrites : ∀ messages, (Batch.parse settings raw).result = .ok messages →
      ∀ m ∈ messages, m.WritesWithin longest) :
    (store.applyBatch settings raw).1.NestsWithin (settings.maxJsonDepth + longest - 2) := by
  obtain ⟨messages, ha, hparsed⟩ := exists_after?_applyBatch settings store raw
  refine after?_induct (P := (NestsWithin · (settings.maxJsonDepth + longest - 2))) ?_ h ha
  intro store m s? hm hstore hact e he
  obtain ⟨parsed, hparse, hmem⟩ := hparsed m hm
  obtain ⟨hroom, hvalue⟩ := Batch.limit_of_mem_parse hparse hmem
  rcases mem_place he with he | ⟨s', rfl, rfl⟩
  · exact hstore e he
  · refine Message.act_nesting_le hact (fun s hs => hstore _ (Entries.mem_of_get? hs)) ?_ (by omega)
    intro id path op v hupdate hop
    have hpath := hwrites parsed hparse m hmem id path op v hupdate hop
    have hnests := hvalue id path op v hupdate
    omega

end

/-- **How deep data models nest.** After batches that write at the end of at most so many segments each, every data
model nests at most as deep as the limit and the longest path together allow, less two levels. -/
theorem nesting_applyBatches (settings : Settings) (raws : List RawBatch) (longest : Nat)
    (h : ∀ raw ∈ raws, ∀ messages, (Batch.parse settings raw).result = .ok messages →
      ∀ m ∈ messages, m.WritesWithin longest) :
    ∀ e ∈ (Store.empty.applyBatches settings raws).1.surfaces,
      e.2.dataModel.nesting ≤ settings.maxJsonDepth + longest - 2 := by
  have hrun : ∀ store : Store, store.NestsWithin (settings.maxJsonDepth + longest - 2) →
      (store.applyBatches settings raws).1.NestsWithin (settings.maxJsonDepth + longest - 2) := by
    induction raws with
    | nil => exact fun store hstore => hstore
    | cons raw rest ih =>
      intro store hstore
      obtain ⟨hraw, hrest⟩ := List.forall_mem_cons.mp h
      exact ih hrest _ (hstore.applyBatch hraw)
  exact hrun Store.empty fun e he => nomatch he

end Store

/-! ## Batches that write at the end of a path -/

/-- A path of so many segments. -/
def Path.deep : Nat → String
  | 0 => ""
  | n + 1 => "/a" ++ deep n

theorem Path.length_segments_deep (n : Nat) : (segments (deep n)).length = n := by
  induction n with
  | zero => rfl
  | succ n ih =>
    have hslash : deep n = "" ∨ (deep n).toList.head? = some '/' := by
      cases n with
      | zero => exact .inl rfl
      | succ n => exact .inr (by simp [deep])
    have hfirst : segments "/a" = ["a"] := rfl
    rw [deep, segments_append "/a" (deep n) hslash, hfirst, List.length_append, ih, List.length_singleton]
    omega

namespace Batch

/-- The elements of a batch that creates a surface and writes a value at the end of a path. -/
def writeElements (path : String) (v : Json) : List Json :=
  [.ofFields [("createSurface", .ofFields [("surfaceId", .str "main")])],
   .ofFields [("updateDataModel", .ofFields [("surfaceId", .str "main"), ("path", .str path), ("value", v)])]]

/-- The batch of these elements. -/
def writing (path : String) (v : Json) : RawBatch := .decoded (.arr (writeElements path v))

/-- The messages of these elements. -/
def writeMessages (path : String) (v : Json) : List Message :=
  [.createSurface "main" none, .updateDataModel "main" (some path) none (some v)]

/-- Nothing but the value can make the batch nest too deep. -/
theorem parse_writing {settings : Settings} (hmessages : 2 ≤ settings.maxMessages) (path : String) {v : Json}
    (hv : v.exceedsDepth settings.maxJsonDepth 3 = false) :
    (parse settings (writing path v)).result = .ok (writeMessages path v) := by
  have hlong : ¬settings.maxMessages < (writeElements path v).length := Nat.not_lt.mpr hmessages
  have hroom := Json.le_of_not_exceedsDepth hv
  have hdeep : (Json.arr (writeElements path v)).exceedsDepth settings.maxJsonDepth 0 = false := by
    simp [writeElements, Json.ofFields, Json.exceedsDepth, Json.anyItemExceeds, Json.anyFieldExceeds, hv]
    omega
  have hdecoded : parse settings (writing path v) =
      parseValue settings (.arr (writeElements path v)) := by
    simp only [parse, writing, value, pure_bind]
  rw [hdecoded, parseValue, if_neg hlong, hdeep]
  rfl

end Batch

namespace Store

/-- **In an empty store a write nests as deep as its path and its value together**, whatever the limit. -/
theorem exists_nesting_eq {settings : Settings} (hmessages : 2 ≤ settings.maxMessages) (path : String) {v : Json}
    (hv : v.exceedsDepth settings.maxJsonDepth 3 = false) :
    ∃ e ∈ (Store.empty.applyBatch settings (Batch.writing path v)).1.surfaces,
      e.2.dataModel.nesting = (Path.segments path).length + v.nesting := by
  obtain ⟨data, hdata, hnesting⟩ := Json.exists_assign_empty path v
  have hafter : Store.empty.after? settings (Batch.writeMessages path v) =
      .ok ⟨[("main", ⟨"main", settings.defaultCatalogId, [], data⟩)]⟩ := by
    have hassign : (Revision.assign path v).revise (.obj []) = .ok data := hdata
    have hrevision : (Message.updateDataModel "main" (some path) none (some v)).act settings
        (some (.empty "main" settings.defaultCatalogId)) =
          .ok (some ⟨"main", settings.defaultCatalogId, [], data⟩) := by
      simp [Message.act, Revision.ofUpdate?, Surface.empty, hassign, Except.map]
    have hcreated : Store.empty.after? settings (Batch.writeMessages path v) =
        Store.after? settings ⟨[("main", .empty "main" settings.defaultCatalogId)]⟩
          [.updateDataModel "main" (some path) none (some v)] := rfl
    have hfound : (Store.mk [("main", .empty "main" settings.defaultCatalogId)]).surface? "main" =
        some (.empty "main" settings.defaultCatalogId) := rfl
    rw [hcreated, after?_cons, Message.surface, hfound, hrevision]
    rfl
  have happlied := (applyBatch_of_parse_ok Store.empty (Batch.parse_writing hmessages path hv)).1
  have hlast := ((applyAll_ok_iff settings Store.empty _ _).mpr hafter).2
  rw [happlied, ← applyAll_fst, hlast]
  exact ⟨_, List.mem_singleton_self _, hnesting⟩

/-- **Counterexample**: a batch of three containers one inside the other, under a limit of 32, makes a data model of 33.
-/
theorem applyBatches_not_within : ¬∀ (settings : Settings) (raws : List RawBatch),
    (∀ raw ∈ raws, ∃ messages, (Batch.parse settings raw).result = .ok messages) →
      ∀ e ∈ (Store.empty.applyBatches settings raws).1.surfaces, e.2.dataModel.nesting ≤ settings.maxJsonDepth := by
  intro hwithin
  have hmessages : 2 ≤ ({} : Settings).maxMessages := by decide
  have hv : Json.null.exceedsDepth ({} : Settings).maxJsonDepth 3 = false := rfl
  have hparse := Batch.parse_writing hmessages (Path.deep 33) hv
  obtain ⟨e, he, hnesting⟩ := exists_nesting_eq hmessages (Path.deep 33) hv
  have haccepted : ∀ raw ∈ [Batch.writing (Path.deep 33) .null],
      ∃ messages, (Batch.parse {} raw).result = .ok messages := by
    intro raw hraw
    rw [List.mem_singleton.mp hraw]
    exact ⟨_, hparse⟩
  have hle := hwithin {} [Batch.writing (Path.deep 33) .null] haccepted e he
  rw [hnesting, Path.length_segments_deep] at hle
  exact absurd hle (by decide)

/-- Three segments and a value of two levels, under a limit of four levels: the data model nests as deep as it may. -/
theorem nesting_applyBatches_attained :
    (∀ raw ∈ [Batch.writing (Path.deep 3) (.arr [.arr []])],
      ∀ messages, (Batch.parse { maxJsonDepth := 4 } raw).result = .ok messages →
        ∀ m ∈ messages, m.WritesWithin 3) ∧
      (∀ e ∈ (Store.empty.applyBatches { maxJsonDepth := 4 }
          [Batch.writing (Path.deep 3) (.arr [.arr []])]).1.surfaces,
        e.2.dataModel.nesting ≤ 5) ∧
      ∃ e ∈ (Store.empty.applyBatches { maxJsonDepth := 4 }
          [Batch.writing (Path.deep 3) (.arr [.arr []])]).1.surfaces,
        e.2.dataModel.nesting = 5 := by
  have hmessages : 2 ≤ ({ maxJsonDepth := 4 } : Settings).maxMessages := by decide
  have hv : (Json.arr [.arr []]).exceedsDepth ({ maxJsonDepth := 4 } : Settings).maxJsonDepth 3 = false := rfl
  have hwrites : ∀ raw ∈ [Batch.writing (Path.deep 3) (.arr [.arr []])],
      ∀ messages, (Batch.parse { maxJsonDepth := 4 } raw).result = .ok messages →
        ∀ m ∈ messages, m.WritesWithin 3 := by
    intro raw hraw messages hparse m hm id path op v hupdate hop
    rw [List.mem_singleton.mp hraw, Batch.parse_writing hmessages _ hv] at hparse
    cases hparse
    rcases List.mem_cons.mp hm with rfl | hm
    · cases hupdate
    · cases (List.mem_singleton.mp hm).symm.trans hupdate
      exact Nat.le_of_eq (Path.length_segments_deep 3)
  refine ⟨hwrites, nesting_applyBatches _ _ 3 hwrites, ?_⟩
  obtain ⟨e, he, hnesting⟩ := exists_nesting_eq hmessages (Path.deep 3) hv
  exact ⟨e, he, hnesting⟩

end Store

end LiveSurface
