import LiveSurface.Proofs.Surface.Run
import Mathlib.Algebra.GroupWithZero.Nat
/-!
# Batches and the replay of their log

A store that was built batch by batch can be built again from the log of its messages: those of the batches that
went through, one after the other. Refused batches leave no trace in the store and have none in the log.

Each message that goes through is marked with the surface that it names and with whether it had an effect there.
`BatchResult.ofMarks` says what a list of marks counts up to. Marks of runs that follow each other are appended,
so that it remains to see that counting takes the marks of two runs to the sum of their results.

Results:
* `BatchResult.count_ofMarks`: one more message is counted by one more mark.
* `Store.applyAll_ok_iff_run`: a list of messages goes through exactly if it has a run, whose marks it counts.
* `BatchResult.IsTotalOf.cons`: the marks of two runs count up to the results of both.
* `Store.replay_applyBatches`: replaying the log of batches gives their store and the total of their results.
-/
namespace LiveSurface

/-! ## Repetitions -/

section
variable {α : Type} [BEq α] [LawfulBEq α]

theorem eraseDups_filter (p : α → Bool) (l : List α) : (l.filter p).eraseDups = l.eraseDups.filter p := by
  cases l with
  | nil => rfl
  | cons a rest =>
    have ih := eraseDups_filter p (rest.filter fun b => !b == a)
    rw [List.filter_filter] at ih
    rw [List.eraseDups_cons, List.filter_cons, List.filter_cons]
    by_cases hp : p a = true
    · rw [if_pos hp, if_pos hp, List.eraseDups_cons, List.filter_filter, ← ih]
      simp only [Bool.and_comm]
    · -- What is dropped with `a` fails `p` as well.
      rw [if_neg hp, if_neg hp, ← ih]
      refine congrArg List.eraseDups (List.filter_congr fun b _ => ?_)
      by_cases hb : b = a
      · subst hb; simp [hp]
      · simp [hb]
termination_by l.length
decreasing_by exact Nat.lt_succ_of_le (List.length_filter_le _ _)

theorem nodup_eraseDups (l : List α) : l.eraseDups.Nodup := by
  cases l with
  | nil => exact .nil
  | cons a rest =>
    rw [List.eraseDups_cons, List.nodup_cons]
    exact ⟨by simp, nodup_eraseDups _⟩
termination_by l.length
decreasing_by exact Nat.lt_succ_of_le (List.length_filter_le _ _)

theorem eraseDups_of_nodup {l : List α} (h : l.Nodup) : l.eraseDups = l := by
  induction h with
  | nil => rfl
  | @cons a rest ha _ ih =>
    have hrest : (rest.filter fun b => !b == a) = rest :=
      List.filter_eq_self.mpr fun b hb => by simpa using (ha b hb).symm
    rw [List.eraseDups_cons, hrest, ih]

/-- Repetitions on either side can be dropped first. -/
theorem eraseDups_append_eraseDups (a b : List α) :
    (a.eraseDups ++ b.eraseDups).eraseDups = (a ++ b).eraseDups := by
  have hremove : b.eraseDups.removeAll a.eraseDups = (b.removeAll a).eraseDups := by
    unfold List.removeAll
    rw [eraseDups_filter]
    refine List.filter_congr fun x _ => ?_
    rw [Bool.eq_iff_iff]
    simp
  rw [List.eraseDups_append, List.eraseDups_append, hremove, eraseDups_of_nodup (nodup_eraseDups a),
    eraseDups_of_nodup (nodup_eraseDups _)]

end

/-! ## Counting marks -/

namespace BatchResult

/-- What messages count up to whose surfaces and effects are marked. -/
def ofMarks (marks : List (String × Bool)) : BatchResult where
  applied := marks.countP fun mark => mark.2
  ignored := marks.countP fun mark => !mark.2
  surfaces := ((marks.filter fun mark => mark.2).map Prod.fst).eraseDups

theorem count_ofMarks (marks : List (String × Bool)) (surface : String) (effective : Bool) :
    (ofMarks marks).count surface effective = ofMarks (marks ++ [(surface, effective)]) := by
  cases effective with
  | false => simp [count, ofMarks, List.countP_append]
  | true =>
    have htouch : ∀ touched : List String, (touched ++ [surface]).eraseDups =
        if surface ∈ touched.eraseDups then touched.eraseDups else touched.eraseDups ++ [surface] := by
      intro touched
      rw [List.eraseDups_append]
      by_cases hs : surface ∈ touched
      · rw [if_pos (List.mem_eraseDups.mpr hs)]
        simp [List.removeAll, hs]
      · rw [if_neg fun h => hs (List.mem_eraseDups.mp h)]
        simp [List.removeAll, hs, List.eraseDups_cons]
    simp only [count, ofMarks, if_true, List.countP_append, List.filter_append, List.map_append]
    rw [show ([(surface, true)].filter fun mark => mark.2).map Prod.fst = [surface] from rfl, htouch]
    simp

/-- A result that several results add up to: the counts are summed, and the surfaces are those of all parts in the
order in which they first come up. -/
structure IsTotalOf (r : BatchResult) (parts : List BatchResult) : Prop where
  applied : r.applied = (parts.map (·.applied)).sum
  ignored : r.ignored = (parts.map (·.ignored)).sum
  surfaces : r.surfaces = (parts.flatMap (·.surfaces)).eraseDups
  nodup : r.surfaces.Nodup

theorem isTotalOf_nil : (ofMarks []).IsTotalOf [] := ⟨rfl, rfl, rfl, .nil⟩

theorem IsTotalOf.cons {marks : List (String × Bool)} {parts : List BatchResult}
    (h : (ofMarks marks).IsTotalOf parts) (front : List (String × Bool)) :
    (ofMarks (front ++ marks)).IsTotalOf (ofMarks front :: parts) where
  applied := by
    rw [List.map_cons, List.sum_cons, ← h.applied]
    exact List.countP_append
  ignored := by
    rw [List.map_cons, List.sum_cons, ← h.ignored]
    exact List.countP_append
  surfaces := by
    have hsplit : (ofMarks (front ++ marks)).surfaces =
        ((ofMarks front).surfaces ++ (ofMarks marks).surfaces).eraseDups := by
      simp only [ofMarks, eraseDups_append_eraseDups, List.filter_append, List.map_append]
    have hfront : (ofMarks front).surfaces.eraseDups = (ofMarks front).surfaces :=
      eraseDups_of_nodup (nodup_eraseDups _)
    rw [hsplit, h.surfaces, List.flatMap_cons, ← hfront, eraseDups_append_eraseDups, hfront]
  nodup := nodup_eraseDups _

end BatchResult

/-! ## Runs of messages -/

namespace Store

/-- Messages that go through one after the other, each with its mark. -/
inductive Run (settings : Settings) : Store → List Message → List (String × Bool) → Store → Prop
  | nil (store : Store) : Run settings store [] [] store
  | cons {store next last : Store} {m : Message} {effective : Bool} {rest : List Message}
    {marks : List (String × Bool)} (h : (store.applyOne settings m).result = .ok (next, effective))
    (hrest : Run settings next rest marks last) :
    Run settings store (m :: rest) ((m.surface, effective) :: marks) last

section
variable {settings : Settings} {store mid last : Store} {messages rest : List Message}
  {marks marks' : List (String × Bool)}

theorem Run.append (h : Run settings store messages marks mid) (h' : Run settings mid rest marks' last) :
    Run settings store (messages ++ rest) (marks ++ marks') last := by
  induction h with
  | nil => exact h'
  | cons hm _ ih => exact .cons hm (ih h')

/-- A run of two lists is a run of each. -/
theorem Run.split (h : Run settings store (messages ++ rest) marks last) :
    ∃ front back mid, marks = front ++ back ∧ Run settings store messages front mid ∧ Run settings mid rest back last := by
  induction messages generalizing store marks with
  | nil => exact ⟨[], marks, store, rfl, .nil store, h⟩
  | cons m messages ih =>
    cases h with
    | cons hm hrest =>
      obtain ⟨front, back, mid, rfl, hfront, hback⟩ := ih hrest
      exact ⟨_ :: front, back, mid, rfl, .cons hm hfront, hback⟩

theorem Run.length_eq (h : Run settings store messages marks last) : marks.length = messages.length := by
  induction h with
  | nil => rfl
  | cons _ _ ih => rw [List.length_cons, List.length_cons, ih]

/-- A run is what applying its messages does, whatever was counted before. -/
theorem Run.applyFrom (h : Run settings store messages marks last) (front : List (String × Bool)) :
    (store.applyFrom settings (.ofMarks front) messages).1 = last ∧
      (store.applyFrom settings (.ofMarks front) messages).2.result = .ok (.ofMarks (front ++ marks)) := by
  induction h generalizing front with
  | nil => exact ⟨rfl, by rw [List.append_nil]; rfl⟩
  | @cons store next last m effective rest marks hm _ ih =>
    rcases hone : store.applyOne settings m with ⟨events, result⟩
    obtain rfl : result = .ok (next, effective) := by rw [hone] at hm; exact hm
    obtain ⟨hlast, hresult⟩ := ih (front ++ [(m.surface, effective)])
    rw [← BatchResult.count_ofMarks] at hlast hresult
    simp only [Store.applyFrom, hone]
    exact ⟨hlast, by rw [hresult, List.append_assoc, List.singleton_append]⟩

theorem exists_run {r r' : BatchResult} (h : (store.applyFrom settings r messages).2.result = .ok r') :
    ∃ marks, Run settings store messages marks (store.applyFrom settings r messages).1 := by
  induction messages generalizing store r with
  | nil => exact ⟨[], .nil store⟩
  | cons m rest ih =>
    rcases hone : store.applyOne settings m with ⟨events, e | ⟨next, effective⟩⟩
    · simp only [Store.applyFrom, hone] at h
      cases h
    · simp only [Store.applyFrom, hone] at h ⊢
      obtain ⟨marks, hrun⟩ := ih h
      exact ⟨_, .cons (by rw [hone]) hrun⟩

/-- A list of messages goes through exactly if it has a run, and its result counts the marks. -/
theorem applyAll_ok_iff_run {r : BatchResult} :
    ((store.applyAll settings messages).2.result = .ok r ∧ (store.applyAll settings messages).1 = last) ↔
      ∃ marks, Run settings store messages marks last ∧ r = .ofMarks marks := by
  have hresult : (store.applyAll settings messages).2.result = (store.applyFrom settings {} messages).2.result := by
    simp only [applyAll, Logged.result_bind]
    cases (store.applyFrom settings {} messages).2.result <;> rfl
  rw [hresult, applyAll_fst]
  constructor
  · rintro ⟨hr, rfl⟩
    obtain ⟨marks, hrun⟩ := exists_run hr
    exact ⟨marks, hrun, Except.ok.inj (hr.symm.trans (hrun.applyFrom []).2)⟩
  · rintro ⟨marks, hrun, rfl⟩
    exact ⟨(hrun.applyFrom []).2, (hrun.applyFrom []).1⟩

theorem Run.after?_eq (h : Run settings store messages marks last) : store.after? settings messages = .ok last := by
  obtain ⟨hresult, hlast⟩ := applyAll_ok_iff_run.2 ⟨marks, h, rfl⟩
  exact (applyAll_ok_iff settings store last messages).mp ⟨⟨_, hresult⟩, hlast⟩

end

end Store

/-! ## Calls -/

/-- A call that applies a batch, and how it ended. -/
structure Call where
  raw : RawBatch
  outcome : Except BatchError BatchResult

namespace Call

/-- The call went through, or its batch was refused as unprocessable. -/
def IsRegular (c : Call) : Prop :=
  (∃ r, c.outcome = .ok r) ∨ ∃ fault, c.outcome = .error (.unprocessable fault)

/-- The result of a call that went through. -/
def result? (c : Call) : Option BatchResult := c.outcome.toOption

/-- The messages that a call brought to the store: those of its batch, if it went through. -/
def messages (settings : Settings) (c : Call) : List Message :=
  match c.outcome, (Batch.parse settings c.raw).result with
  | .ok _, .ok messages => messages
  | _, _ => []

end Call

namespace Store

/-- Applies batches one after the other, each to the store that the ones before it left. -/
def applyBatches (settings : Settings) : Store → List RawBatch → Store × List Call
  | store, [] => (store, [])
  | store, raw :: rest =>
    let (next, outcome) := store.applyBatch settings raw
    let (last, calls) := applyBatches settings next rest
    (last, ⟨raw, outcome.result⟩ :: calls)

/-- A regular call is a run of its messages: of all of them if it went through, of none if it was refused. -/
theorem run_of_isRegular {settings : Settings} {store : Store} {raw : RawBatch} {c : Call}
    (hc : c = ⟨raw, (store.applyBatch settings raw).2.result⟩) (h : c.IsRegular) :
    ∃ marks, Run settings store (c.messages settings) marks (store.applyBatch settings raw).1 ∧
      (c.result? = some (.ofMarks marks) ∨ (c.result? = none ∧ marks = [])) := by
  subst hc
  simp only [applyBatch, Call.IsRegular, Call.messages, Call.result?] at h ⊢
  cases hp : (Batch.parse settings raw).result with
  | error e => exact ⟨[], .nil store, .inr ⟨rfl, rfl⟩⟩
  | ok messages =>
    simp only [hp] at h ⊢
    cases hr : (store.applyAll settings messages).2.result with
    | error e =>
      rw [hr] at h
      rcases h with ⟨_, h⟩ | ⟨_, h⟩ <;> cases h
    | ok r =>
      obtain ⟨marks, hrun, rfl⟩ := applyAll_ok_iff_run.1 ⟨hr, rfl⟩
      exact ⟨marks, hrun, .inl rfl⟩

/-- Regular calls are one run of their messages, which counts up to the total of their results. -/
theorem run_applyBatches {settings : Settings} {store : Store} {raws : List RawBatch}
    (h : ∀ c ∈ (store.applyBatches settings raws).2, c.IsRegular) :
    ∃ marks, Run settings store ((store.applyBatches settings raws).2.flatMap (·.messages settings)) marks
        (store.applyBatches settings raws).1 ∧
      (BatchResult.ofMarks marks).IsTotalOf ((store.applyBatches settings raws).2.filterMap (·.result?)) := by
  induction raws generalizing store with
  | nil => exact ⟨[], .nil store, BatchResult.isTotalOf_nil⟩
  | cons raw rest ih =>
    simp only [applyBatches, List.forall_mem_cons] at h ⊢
    obtain ⟨hhead, hrest⟩ := h
    obtain ⟨front, hfront, hresult⟩ := run_of_isRegular rfl hhead
    obtain ⟨marks, hrun, htotal⟩ := ih hrest
    refine ⟨front ++ marks, hfront.append hrun, ?_⟩
    rw [List.filterMap_cons]
    rcases hresult with hsome | ⟨hnone, rfl⟩
    · rw [hsome]
      exact htotal.cons front
    · rw [hnone]
      exact htotal

/-- **Replay agreement.** Take batches that were applied to the empty store, where each went through or was refused
as unprocessable. The replay of their messages goes through, gives the same store, counts every message once, and
its result is the total of theirs. -/
theorem replay_applyBatches (settings : Settings) (raws : List RawBatch)
    (h : ∀ c ∈ (Store.empty.applyBatches settings raws).2, c.IsRegular) :
    ∃ r, (replay settings ((Store.empty.applyBatches settings raws).2.flatMap (·.messages settings))).2.result =
        .ok r ∧
      (replay settings ((Store.empty.applyBatches settings raws).2.flatMap (·.messages settings))).1 =
        (Store.empty.applyBatches settings raws).1 ∧
      r.IsTotalOf ((Store.empty.applyBatches settings raws).2.filterMap (·.result?)) ∧
      r.applied + r.ignored =
        ((Store.empty.applyBatches settings raws).2.flatMap (·.messages settings)).length := by
  obtain ⟨marks, hrun, htotal⟩ := run_applyBatches h
  obtain ⟨hresult, hlast⟩ := applyAll_ok_iff_run.2 ⟨marks, hrun, rfl⟩
  refine ⟨.ofMarks marks, hresult, hlast, htotal, ?_⟩
  rw [← hrun.length_eq, List.length_eq_countP_add_countP fun mark => mark.2]
  simp [BatchResult.ofMarks]

/-! ## Batches with refused ones among them -/

/-- A batch that updates two surfaces, one of them too early; a text that is no array; a batch with an element of
no kind; and one that touches the surfaces in the other order. -/
def mixedBatches : List RawBatch :=
  [.decoded (.arr
    [.ofFields [("createSurface", .ofFields [("surfaceId", .str "b")])],
     .ofFields [("updateDataModel", .ofFields [("surfaceId", .str "a"), ("value", .null)])],
     .ofFields [("createSurface", .ofFields [("surfaceId", .str "a"), ("catalogId", .str "plain")])]]),
   .text "null",
   .decoded (.arr [.ofFields [("deleteSurface", .ofFields [("surfaceId", .str "b")])], .ofFields []]),
   .decoded (.arr
    [.ofFields [("deleteSurface", .ofFields [("surfaceId", .str "a")])],
     .ofFields [("deleteSurface", .ofFields [("surfaceId", .str "a")])],
     .ofFields [("updateDataModel", .ofFields [("surfaceId", .str "b"), ("value", .bool true)])],
     .ofFields [("createSurface", .ofFields [("surfaceId", .str "c")])]])]

theorem applyBatches_mixedBatches : (Store.empty.applyBatches {} mixedBatches).2.map (·.outcome) =
    [.ok ⟨2, 1, ["b", "a"]⟩, .error (.unprocessable (.notAnArray .null)),
     .error (.unprocessable (.element 1 .noKind)), .ok ⟨3, 1, ["a", "b", "c"]⟩] := rfl

/-- Two batches go through and two are refused. The log has seven messages, and its replay touches three surfaces. -/
theorem replay_applyBatches_mixed :
    (∀ c ∈ (Store.empty.applyBatches {} mixedBatches).2, c.IsRegular) ∧
      ∃ r, (replay {} ((Store.empty.applyBatches {} mixedBatches).2.flatMap (·.messages {}))).2.result = .ok r ∧
        (replay {} ((Store.empty.applyBatches {} mixedBatches).2.flatMap (·.messages {}))).1 =
          (Store.empty.applyBatches {} mixedBatches).1 ∧
        r.IsTotalOf [⟨2, 1, ["b", "a"]⟩, ⟨3, 1, ["a", "b", "c"]⟩] ∧ r.applied + r.ignored = 7 := by
  have hregular : ∀ c ∈ (Store.empty.applyBatches {} mixedBatches).2, c.IsRegular := by
    intro c hc
    have hmem : c.outcome ∈ (Store.empty.applyBatches {} mixedBatches).2.map (·.outcome) :=
      List.mem_map_of_mem hc
    rw [applyBatches_mixedBatches] at hmem
    simp only [List.mem_cons, List.not_mem_nil, or_false] at hmem
    rcases hmem with h | h | h | h
    · exact .inl ⟨_, h⟩
    · exact .inr ⟨_, h⟩
    · exact .inr ⟨_, h⟩
    · exact .inl ⟨_, h⟩
  exact ⟨hregular, replay_applyBatches {} mixedBatches hregular⟩

end Store

end LiveSurface
