import LiveSurface.Proofs.Surface.Keyed
/-!
# The store as the history of its log

A store is fully said by the messages that made it. A surface is live if it was created and not deleted since;
it holds what was sent since its last creation, where the last record of an id wins and the data model went
through the changes in order. Creating a live surface again resets it, but it keeps its place: the surfaces are
listed by their births, the earliest creations after their last deletions.

The induction goes over the log from the front. One message at the end of a log is `Store.IsHistoryOf.act`,
which takes the parts of the history one by one.

Results:
* `Component.Collected.upsert`: the components after some records are put.
* `Surface.IsBuiltFrom.act`: a surface follows the messages after its creation.
* `IsBirth.snoc`, `isBirth_new`: what a message makes of the births.
* `Store.applyAll_isHistoryOf`: the store that a list of messages makes of the empty one is their history.
-/
namespace LiveSurface

/-! ## What a log says about a surface -/

namespace Message

/-- The records that a message brings for a surface. -/
def records (id : String) : Message → List Component
  | .updateComponents surface components => if surface = id then components else []
  | _ => []

/-- The change of the data model that a message asks of a surface, if it does. -/
def revision? (id : String) : Message → Option Revision
  | .updateDataModel surface path op value => if surface = id then Revision.ofUpdate? path op value else none
  | _ => none

/-- The message creates the surface. -/
def Creates (m : Message) (id : String) : Prop := ∃ catalog, m = .createSurface id catalog

theorem Creates.surface {m : Message} {id : String} (h : m.Creates id) : m.surface = id := by
  obtain ⟨catalog, rfl⟩ := h
  rfl

theorem Creates.ne_delete {m : Message} {id : String} (h : m.Creates id) (other : String) :
    m ≠ .deleteSurface other := by
  obtain ⟨catalog, rfl⟩ := h
  exact Message.noConfusion

/-- The surface of a message is there afterwards if the message creates it, or leaves it there. -/
theorem act_isSome {settings : Settings} {m : Message} {s? s'? : Option Surface}
    (ha : m.act settings s? = .ok s'?) :
    s'?.isSome ↔ m.Creates m.surface ∨ (s?.isSome ∧ m ≠ .deleteSurface m.surface) := by
  cases m with
  | createSurface id catalog =>
    cases ha
    exact ⟨fun _ => .inl ⟨catalog, rfl⟩, fun _ => rfl⟩
  | updateComponents id components =>
    cases ha
    simp [Creates, Message.surface]
  | updateDataModel id path op value =>
    have hsome : s'?.isSome = s?.isSome := by
      rcases act_update_cases ha with ⟨-, rfl⟩ | ⟨s, r, data, rfl, -, -, rfl⟩
      · rfl
      · rfl
    simp [Creates, hsome]
  | deleteSurface id =>
    cases ha
    simp [Creates, Message.surface]

theorem records_of_ne {m : Message} {id : String} (h : m.surface ≠ id) : m.records id = [] := by
  cases m with
  | updateComponents surface components => exact if_neg h
  | _ => rfl

theorem revision?_of_ne {m : Message} {id : String} (h : m.surface ≠ id) : m.revision? id = none := by
  cases m with
  | updateDataModel surface path op value => exact if_neg h
  | _ => rfl

end Message

/-- A creation of the surface is followed by no deletion of it. -/
def IsLive (log : List Message) (id : String) : Prop :=
  ∃ front catalog rest, log = front ++ .createSurface id catalog :: rest ∧ .deleteSurface id ∉ rest

/-- The place in a log of the earliest creation of a surface after its last deletion. -/
structure IsBirth (log : List Message) (id : String) (i : Nat) : Prop where
  creates : ∃ m, log[i]? = some m ∧ m.Creates id
  stays : ∀ j, i < j → log[j]? ≠ some (.deleteSurface id)
  earliest : ∀ j m, j < i → log[j]? = some m → m.Creates id →
    ∃ k, j < k ∧ log[k]? = some (.deleteSurface id)

/-- The one surface was born before the other. -/
def Older (log : List Message) (a b : String) : Prop := ∃ i j, IsBirth log a i ∧ IsBirth log b j ∧ i < j

/-- Components by id as records make them: the ids in the order of their first records, each with its last. -/
structure Component.Collected (records : List Component) (m : Entries String Component) : Prop where
  keys : m.keys = (records.map (·.id)).eraseDups
  get? : ∀ id, m.get? id = records.reverse.find? (·.id = id)

/-- A surface as its creation and the messages after that make it. -/
structure Surface.IsBuiltFrom (settings : Settings) (id : String) (catalog : Option String)
    (later : List Message) (s : Surface) : Prop where
  own : s.id = id
  named : ∀ name, catalog = some name → name ≠ "" → s.catalog = name
  unnamed : catalog.getD "" = "" → s.catalog = settings.defaultCatalogId
  components : Component.Collected (later.flatMap (·.records id)) s.components
  dataModel : (later.filterMap (·.revision? id)).foldlM Revision.revise (.obj []) = .ok s.dataModel

/-- A store as the messages of a log make it of the empty one. -/
structure Store.IsHistoryOf (settings : Settings) (log : List Message) (store : Store) : Prop where
  keyed : store.Keyed
  live : ∀ id, (store.surface? id).isSome ↔ IsLive log id
  built : ∀ front id catalog later, log = front ++ .createSurface id catalog :: later →
    (∀ m ∈ later, m ≠ .deleteSurface id ∧ ¬m.Creates id) →
    ∃ s, store.surface? id = some s ∧ s.IsBuiltFrom settings id catalog later
  listed : ∀ id, id ∈ store.surfaces.map (·.2.id) ↔ IsLive log id
  born : ∀ id, IsLive log id → ∃ i, IsBirth log id i
  order : (store.surfaces.map (·.2.id)).Pairwise (Older log)

/-! ## Components -/

theorem Component.Collected.put {records : List Component} {m : Entries String Component}
    (h : Collected records m) (c : Component) : Collected (records ++ [c]) (m.put c.id c) where
  keys := by
    have hmem : c.id ∈ m.keys ↔ ∃ r ∈ records, r.id = c.id := by rw [h.keys, List.mem_eraseDups, List.mem_map]
    rw [Entries.keys_put, List.map_append, List.eraseDups_append, ← h.keys]
    by_cases hc : c.id ∈ m.keys
    · have hold := hmem.mp hc
      simp [hc, List.removeAll, hold]
    · have hnew : ∀ r ∈ records, r.id ≠ c.id := fun r hr h => hc (hmem.mpr ⟨r, hr, h⟩)
      have hkept : [c.id].removeAll (records.map (·.id)) = [c.id] := by simpa [List.removeAll] using hnew
      simp [hc, hkept, List.eraseDups_cons]
  get? id := by
    rw [List.reverse_append, List.reverse_singleton, List.singleton_append, List.find?_cons]
    by_cases hid : c.id = id
    · subst hid; simp
    · rw [Entries.get?_put_of_ne _ _ (Ne.symm hid), h.get? id]
      simp [hid]

theorem Component.Collected.upsert {records : List Component} {s : Surface}
    (h : Collected records s.components) (components : List Component) :
    Collected (records ++ components) (s.upsert components).components := by
  unfold Surface.upsert
  induction components generalizing records s with
  | nil => simpa using h
  | cons c rest ih =>
    have hput : Collected (records ++ [c]) { s with components := s.components.put c.id c }.components := h.put c
    simpa using ih hput

/-! ## One surface -/

namespace Surface.IsBuiltFrom

variable {settings : Settings} {id : String} {catalog : Option String} {later : List Message} {s : Surface}

theorem empty (settings : Settings) (id : String) (catalog : Option String) :
    (Surface.empty id ((catalog.filter (· ≠ "")).getD settings.defaultCatalogId)).IsBuiltFrom settings id
      catalog [] where
  own := rfl
  named name hname hne := by simp [Surface.empty, hname, Option.filter, hne]
  unnamed h := by
    cases catalog with
    | none => rfl
    | some name =>
      obtain rfl : name = "" := h
      rfl
  components := ⟨rfl, fun _ => rfl⟩
  dataModel := rfl

/-- A message that brings records and asks for a change, or does neither. -/
theorem snoc (h : s.IsBuiltFrom settings id catalog later) (m : Message) {data : Json}
    (hdata : (m.revision? id).elim (.ok s.dataModel) (·.revise s.dataModel) = .ok data) :
    { s.upsert (m.records id) with dataModel := data }.IsBuiltFrom settings id catalog (later ++ [m]) where
  own := h.own
  named := h.named
  unnamed := h.unnamed
  components := by
    rw [List.flatMap_append, List.flatMap_singleton]
    exact h.components.upsert (m.records id)
  dataModel := by
    rw [List.filterMap_append, List.foldlM_append, h.dataModel]
    cases hr : m.revision? id with
    | none => simpa [hr, bind, Except.bind, pure, Except.pure] using hdata
    | some r =>
      have hrev : r.revise s.dataModel = .ok data := by simpa [hr] using hdata
      simp [hr, hrev, bind, Except.bind, pure, Except.pure]

/-- A message about another surface. -/
theorem other (h : s.IsBuiltFrom settings id catalog later) {m : Message} (hm : m.surface ≠ id) :
    s.IsBuiltFrom settings id catalog (later ++ [m]) := by
  have hdata : (m.revision? id).elim (.ok s.dataModel) (·.revise s.dataModel) = .ok s.dataModel := by
    rw [Message.revision?_of_ne hm]; rfl
  have hsnoc := h.snoc m hdata
  rwa [Message.records_of_ne hm] at hsnoc

/-- A message about the surface that neither deletes nor creates it. -/
theorem act {m : Message} {s? : Option Surface} (h : s.IsBuiltFrom settings id catalog later)
    (hm : m.surface = id) (hd : m ≠ .deleteSurface id) (hc : ¬m.Creates id)
    (ha : m.act settings (some s) = .ok s?) :
    ∃ s', s? = some s' ∧ s'.IsBuiltFrom settings id catalog (later ++ [m]) := by
  cases m with
  | createSurface surface named => exact absurd ⟨named, hm ▸ rfl⟩ hc
  | deleteSurface surface => exact absurd (hm ▸ rfl) hd
  | updateComponents surface components =>
    obtain rfl : surface = id := hm
    cases ha
    have hsnoc := h.snoc (.updateComponents surface components) rfl
    simp only [Message.records, if_true] at hsnoc
    exact ⟨_, rfl, hsnoc⟩
  | updateDataModel surface path op value =>
    obtain rfl : surface = id := hm
    have hrev : (Message.updateDataModel surface path op value).revision? surface =
        Revision.ofUpdate? path op value := if_pos rfl
    rcases Message.act_update_cases ha with ⟨hnone, rfl⟩ | ⟨_, r, data, ⟨⟩, hr, hnew, rfl⟩
    · have hr := hnone.resolve_left (Option.some_ne_none s)
      exact ⟨s, rfl, h.snoc (.updateDataModel surface path op value) (by rw [hrev, hr]; rfl)⟩
    · exact ⟨_, rfl, h.snoc (.updateDataModel surface path op value) (by rw [hrev, hr]; exact hnew)⟩

end Surface.IsBuiltFrom

/-! ## Lives and births -/

section
variable {log : List Message} {id : String} {m : Message}

/-- A split of a longer log: at its new end, or at the same place as before. -/
theorem snoc_eq_split {m x : Message} {front rest : List Message} (h : log ++ [m] = front ++ x :: rest) :
    (rest = [] ∧ log = front ∧ m = x) ∨ ∃ rest', rest = rest' ++ [m] ∧ log = front ++ x :: rest' := by
  rcases List.eq_nil_or_concat rest with rfl | ⟨rest, last, rfl⟩
  · obtain ⟨hlog, hm⟩ := List.append_inj' h rfl
    exact .inl ⟨rfl, hlog, by simpa using hm⟩
  · rw [List.concat_eq_append, ← List.cons_append, ← List.append_assoc] at h
    obtain ⟨hlog, hm⟩ := List.append_inj' h rfl
    obtain rfl : m = last := by simpa using hm
    exact .inr ⟨rest, List.concat_eq_append .., hlog⟩

theorem isLive_snoc : IsLive (log ++ [m]) id ↔ m.Creates id ∨ (IsLive log id ∧ m ≠ .deleteSurface id) := by
  constructor
  · rintro ⟨front, catalog, rest, hlog, hrest⟩
    rcases snoc_eq_split hlog with ⟨-, -, rfl⟩ | ⟨rest, rfl, rfl⟩
    · exact .inl ⟨catalog, rfl⟩
    · simp only [List.mem_append, List.mem_singleton, not_or] at hrest
      exact .inr ⟨⟨front, catalog, rest, rfl, hrest.1⟩, fun h => hrest.2 h.symm⟩
  · rintro (⟨catalog, rfl⟩ | ⟨⟨front, catalog, rest, rfl, hrest⟩, hm⟩)
    · exact ⟨log, catalog, [], rfl, by simp⟩
    · refine ⟨front, catalog, rest ++ [m], by simp, ?_⟩
      simp only [List.mem_append, List.mem_singleton, not_or]
      exact ⟨hrest, fun h => hm h.symm⟩

theorem not_isLive_nil (id : String) : ¬IsLive [] id := by
  rintro ⟨front, catalog, rest, hlog, -⟩
  cases front <;> cases hlog

theorem IsBirth.lt_length {i : Nat} (h : IsBirth log id i) : i < log.length := by
  obtain ⟨m, hm, -⟩ := h.creates
  exact (List.getElem?_eq_some_iff.mp hm).1

/-- A birth stays one until the surface is deleted. -/
theorem IsBirth.snoc {i : Nat} (h : IsBirth log id i) (hm : m ≠ .deleteSurface id) :
    IsBirth (log ++ [m]) id i := by
  have hi := h.lt_length
  refine ⟨?_, ?_, ?_⟩
  · obtain ⟨c, hc, hid⟩ := h.creates
    exact ⟨c, by rw [List.getElem?_append_left hi, hc], hid⟩
  · intro j hij hj
    rw [List.getElem?_append] at hj
    split at hj
    · exact h.stays j hij hj
    · have hmem := List.mem_of_getElem? hj
      rw [List.mem_singleton] at hmem
      exact hm hmem.symm
  · intro j c hji hj hid
    rw [List.getElem?_append_left (by omega)] at hj
    obtain ⟨k, hjk, hk⟩ := h.earliest j c hji hj hid
    refine ⟨k, hjk, ?_⟩
    rw [List.getElem?_append_left (List.getElem?_eq_some_iff.mp hk).1, hk]

/-- A surface that was not live is born where it is created. -/
theorem isBirth_new (hlive : ¬IsLive log id) (hm : m.Creates id) : IsBirth (log ++ [m]) id log.length := by
  refine ⟨⟨m, by simp, hm⟩, ?_, ?_⟩
  · intro j hj h
    rw [List.getElem?_eq_none (by simp; omega)] at h
    cases h
  · intro j c hj hc hid
    rw [List.getElem?_append_left hj] at hc
    obtain ⟨catalog, rfl⟩ := hid
    -- Had no deletion followed, the creation at `j` would have kept the surface live.
    obtain ⟨hlt, hget⟩ := List.getElem?_eq_some_iff.mp hc
    have hsplit : log = log.take j ++ .createSurface id catalog :: log.drop (j + 1) := by
      rw [← hget, ← List.drop_eq_getElem_cons hlt, List.take_append_drop]
    have hdel : .deleteSurface id ∈ log.drop (j + 1) :=
      Classical.byContradiction fun hnot => hlive ⟨_, _, _, hsplit, hnot⟩
    obtain ⟨k, hk⟩ := List.mem_iff_getElem?.mp hdel
    rw [List.getElem?_drop] at hk
    have hlt := (List.getElem?_eq_some_iff.mp hk).1
    exact ⟨j + 1 + k, by omega, by rw [List.getElem?_append_left hlt, hk]⟩

theorem Older.snoc {other : String} (h : Older log id other) (h1 : m ≠ .deleteSurface id)
    (h2 : m ≠ .deleteSurface other) : Older (log ++ [m]) id other := by
  obtain ⟨i, j, hi, hj, hij⟩ := h
  exact ⟨i, j, hi.snoc h1, hj.snoc h2, hij⟩

/-- Surfaces in the order of their births stay so until one of them is deleted. -/
theorem pairwise_older_snoc {ids : List String} (h : ids.Pairwise (Older log))
    (hm : ∀ id ∈ ids, m ≠ .deleteSurface id) : ids.Pairwise (Older (log ++ [m])) := by
  refine h.imp_of_mem ?_
  intro a b ha hb hab
  exact hab.snoc (hm a ha) (hm b hb)

end

/-! ## Whole logs -/

theorem Store.Keyed.map_id {store : Store} (h : store.Keyed) : store.surfaces.map (·.2.id) = store.ids :=
  List.map_congr_left h.own

namespace Store.IsHistoryOf

variable {settings : Settings} {log : List Message} {store : Store} {m : Message} {s? : Option Surface}

theorem empty (settings : Settings) : Store.empty.IsHistoryOf settings [] where
  keyed := keyed_empty
  live id := ⟨fun h => (nomatch h), fun h => absurd h (not_isLive_nil id)⟩
  built front id catalog later hlog := by cases front <;> cases hlog
  listed id := ⟨fun h => (nomatch h), fun h => absurd h (not_isLive_nil id)⟩
  born id hid := absurd hid (not_isLive_nil id)
  order := .nil

theorem act_live (h : store.IsHistoryOf settings log)
    (ha : m.act settings (store.surface? m.surface) = .ok s?) (id : String) :
    ((store.place m.surface s?).surface? id).isSome ↔ IsLive (log ++ [m]) id := by
  rw [surface?_place, isLive_snoc, ← h.live]
  by_cases hid : id = m.surface
  · subst hid
    rw [if_pos rfl]
    exact Message.act_isSome ha
  · rw [if_neg hid]
    have hc : ¬m.Creates id := fun hc => hid hc.surface.symm
    have hd : m ≠ .deleteSurface id := by rintro rfl; exact hid rfl
    simp [hc, hd]

theorem act_built (h : store.IsHistoryOf settings log)
    (ha : m.act settings (store.surface? m.surface) = .ok s?) {front : List Message} {id : String}
    {catalog : Option String} {later : List Message}
    (hlog : log ++ [m] = front ++ .createSurface id catalog :: later)
    (hlater : ∀ m ∈ later, m ≠ .deleteSurface id ∧ ¬m.Creates id) :
    ∃ s, (store.place m.surface s?).surface? id = some s ∧ s.IsBuiltFrom settings id catalog later := by
  rw [surface?_place]
  rcases snoc_eq_split hlog with ⟨rfl, -, rfl⟩ | ⟨later, rfl, rfl⟩
  · cases ha
    exact ⟨_, if_pos rfl, Surface.IsBuiltFrom.empty settings id catalog⟩
  · obtain ⟨hd, hc⟩ := hlater m (by simp)
    obtain ⟨s, hs, hbuilt⟩ := h.built front id catalog later rfl fun m hm => hlater m (by simp [hm])
    by_cases hid : m.surface = id
    · subst hid
      rw [hs] at ha
      obtain ⟨s', rfl, hbuilt'⟩ := hbuilt.act rfl hd hc ha
      exact ⟨s', if_pos rfl, hbuilt'⟩
    · exact ⟨s, by rw [if_neg (Ne.symm hid), hs], hbuilt.other hid⟩

theorem act_born (h : store.IsHistoryOf settings log) {id : String} (hid : IsLive (log ++ [m]) id) :
    ∃ i, IsBirth (log ++ [m]) id i := by
  by_cases hlive : IsLive log id
  · obtain ⟨i, hi⟩ := h.born id hlive
    rcases isLive_snoc.mp hid with hc | ⟨-, hd⟩
    · exact ⟨i, hi.snoc (hc.ne_delete id)⟩
    · exact ⟨i, hi.snoc hd⟩
  · rcases isLive_snoc.mp hid with hc | ⟨hold, -⟩
    · exact ⟨log.length, isBirth_new hlive hc⟩
    · exact absurd hold hlive

theorem act_order (h : store.IsHistoryOf settings log)
    (ha : m.act settings (store.surface? m.surface) = .ok s?) :
    (store.place m.surface s?).ids.Pairwise (Older (log ++ [m])) := by
  have hold : store.ids.Pairwise (Older log) := by rw [← h.keyed.map_id]; exact h.order
  have hlive : ∀ id ∈ (store.place m.surface s?).ids, m ≠ .deleteSurface id := by
    intro id hid
    rw [mem_ids_iff, act_live h ha, isLive_snoc] at hid
    rcases hid with hc | ⟨-, hd⟩
    · exact hc.ne_delete id
    · exact hd
  cases s? with
  | none =>
    rw [ids_place_none] at hlive ⊢
    exact pairwise_older_snoc (hold.sublist List.filter_sublist) hlive
  | some s =>
    rw [ids_place_some] at hlive ⊢
    by_cases hmem : m.surface ∈ store.ids
    · rw [if_pos hmem] at hlive ⊢
      exact pairwise_older_snoc hold hlive
    · rw [if_neg hmem] at hlive ⊢
      -- A surface that comes new to the end of the list is born last.
      have hnot : ¬IsLive log m.surface := by rwa [← h.live, ← mem_ids_iff]
      have hc : m.Creates m.surface := by
        rcases (Message.act_isSome ha).mp rfl with hc | ⟨hs, -⟩
        · exact hc
        · exact absurd (mem_ids_iff.mpr hs) hmem
      rw [List.pairwise_append]
      refine ⟨pairwise_older_snoc hold fun id hid => hlive id (by simp [hid]), by simp, ?_⟩
      intro a ha b hb
      rw [List.mem_singleton] at hb
      subst hb
      obtain ⟨i, hi⟩ := h.born a ((h.live a).mp (mem_ids_iff.mp ha))
      exact ⟨i, log.length, hi.snoc (hc.ne_delete a), isBirth_new hnot hc, hi.lt_length⟩

/-- One more message makes the history one message longer. -/
theorem act (h : store.IsHistoryOf settings log)
    (ha : m.act settings (store.surface? m.surface) = .ok s?) :
    (store.place m.surface s?).IsHistoryOf settings (log ++ [m]) where
  keyed := h.keyed.act ha
  live := act_live h ha
  built _ _ _ _ := act_built h ha
  listed id := by rw [(h.keyed.act ha).map_id, mem_ids_iff, act_live h ha]
  born _ := act_born h
  order := by rw [(h.keyed.act ha).map_id]; exact act_order h ha

theorem after? (h : store.IsHistoryOf settings log) {messages : List Message} {last : Store}
    (ha : store.after? settings messages = .ok last) : last.IsHistoryOf settings (log ++ messages) := by
  induction messages generalizing log store with
  | nil =>
    obtain rfl : store = last := by simpa [Store.after?, pure, Except.pure] using ha
    rwa [List.append_nil]
  | cons m rest ih =>
    rw [after?_cons] at ha
    cases hact : m.act settings (store.surface? m.surface) with
    | error e => rw [hact] at ha; cases ha
    | ok s? =>
      rw [hact] at ha
      have hrest := ih (h.act hact) ha
      rwa [List.append_assoc, List.singleton_append] at hrest

end Store.IsHistoryOf

/-- **The store is the history of its log.** If a list of messages goes through on the empty store, then the
store is afterwards what the log says: who is live, what each surface holds, and in which order they are
listed. -/
theorem Store.applyAll_isHistoryOf (settings : Settings) (log : List Message) {r : BatchResult}
    (h : (Store.empty.applyAll settings log).2.result = .ok r) :
    (Store.empty.applyAll settings log).1.IsHistoryOf settings log := by
  rcases applyFrom_cases settings .empty {} log with ⟨_, -, ha⟩ | ⟨_, _, _, e, -, -, -, he⟩
  · rw [applyAll_fst]
    exact (IsHistoryOf.empty settings).after? ha
  · rw [(applyAll_error_iff settings .empty log e).mpr he] at h
    cases h

/-- One surface is deleted and comes back behind the one that stayed, which is reset and keeps its place. -/
theorem Store.applyAll_isHistoryOf_of_recreated :
    let log : List Message :=
      [.updateComponents "a" [⟨"root", .unknown "early", []⟩], .createSurface "a" (some ""),
       .createSurface "b" none, .updateDataModel "a" (some "/n") none (some .null), .deleteSurface "a",
       .updateDataModel "a" none none (some .null), .createSurface "c" none, .createSurface "a" (some "plain"),
       .createSurface "b" (some "plain"), .updateDataModel "b" (some "/k") (some "add") (some (.bool true)),
       .updateDataModel "b" (some "/k") none none,
       .updateComponents "b" [⟨"x", .unknown "1", []⟩, ⟨"y", .unknown "2", []⟩, ⟨"x", .unknown "3", []⟩]]
    (Store.empty.applyAll {} log).1.IsHistoryOf {} log ∧ (Store.empty.applyAll {} log).1.ids = ["b", "c", "a"] :=
  ⟨applyAll_isHistoryOf {} _ (r := ⟨9, 3, ["a", "b", "c"]⟩) rfl, rfl⟩

end LiveSurface
