import Mathlib.Data.List.DropRight
import LiveSurface.Session.Basic
import LiveSurface.Proofs.Surface.Atomicity
import LiveSurface.Proofs.Surface.Replay
/-!
# What sends leave as it was

A send ends in one of four ways: its prompt is refused, the source fails, the batch that came back is refused, or the
batch is applied. Only the last one may touch the store, and none of them leaves a trace in the log context. The source
hears exactly of the prompts that are not refused.

An index too long to be read is the exception: it breaks a batch off while it is being applied, and what was applied
before stays.

Results:
* `Prompt.textWithin?`: which prompts are sent, and as which texts.
* `Session.send_cases`: all that a send does.
* `Session.send_congr`: a source is asked for nothing but that text.
* `Session.isSound_send`: what one send keeps to.
* `Session.sendAll_isSound`: what the source hears over a run of sends, and what each of them keeps to.
* `Session.store_sendAll`: after a run the store is what the source's batches make of it.
-/
namespace LiveSurface

theorem Text.strip_eq_empty_iff {s : String} : Text.strip s = "" ↔ ∀ c ∈ s.toList, Text.isBlank c = true := by
  have hstrip : Text.strip s = "" ↔ (s.toList.dropWhile Text.isBlank).rdropWhile Text.isBlank = [] := by
    rw [Text.strip, ← String.toList_inj, String.toList_ofList]
    exact Iff.rfl
  rw [hstrip, List.rdropWhile_eq_nil_iff]
  constructor
  · intro h c hc
    rw [← List.takeWhile_append_dropWhile (p := Text.isBlank) (l := s.toList)] at hc
    rcases List.mem_append.mp hc with hc | hc
    · exact List.mem_takeWhile_imp hc
    · exact h c hc
  · intro h c hc
    exact h c ((List.dropWhile_suffix Text.isBlank).subset hc)

/-! ## Prompts -/

/-- The text in which a prompt is sent: the prompt without the blanks around it. Values that are no texts are not sent,
and neither are blank texts and texts over the limit. -/
def Prompt.textWithin? (limit : Nat) : Json → Option String
  | .str s =>
    if s.toList.any (!Text.isBlank ·) ∧ (Text.strip s).length ≤ limit then some (Text.strip s) else none
  | _ => none

theorem Prompt.textWithin?_eq_some_iff {limit : Nat} {prompt : Json} {text : String} :
    textWithin? limit prompt = some text ↔ ofJson prompt = .ok text ∧ text.length ≤ limit := by
  rw [ofJson_eq_ok_iff]
  cases prompt with
  | str s =>
    have hblank : s.toList.any (!Text.isBlank ·) = true ↔ Text.strip s ≠ "" := by
      rw [Ne, Text.strip_eq_empty_iff]
      simp
    simp only [textWithin?, hblank, Option.ite_none_right_eq_some, Option.some.injEq, Json.str.injEq, exists_eq_left']
    constructor
    · intro ⟨⟨hne, hlen⟩, htext⟩
      subst htext
      exact ⟨⟨rfl, hne⟩, hlen⟩
    · intro ⟨⟨htext, hne⟩, hlen⟩
      subst htext
      exact ⟨⟨hne, hlen⟩, rfl⟩
  | _ => simp [textWithin?]

namespace Session

/-- A prompt is accepted as the text in which it is sent; one that is not sent is refused, or too long. -/
theorem accept_cases (settings : Settings) (prompt : Json) :
    (∃ text, Prompt.textWithin? settings.maxPromptLength prompt = some text ∧
      (accept settings prompt).result = .ok text) ∨
    Prompt.textWithin? settings.maxPromptLength prompt = none ∧
      ((∃ fault, (accept settings prompt).result = .error (.refused fault)) ∨
        (accept settings prompt).result = .error (.tooLong settings.maxPromptLength)) := by
  unfold accept
  cases hprompt : Prompt.ofJson prompt with
  | error fault =>
    refine .inr ⟨?_, .inl ⟨fault, rfl⟩⟩
    rw [Option.eq_none_iff_forall_ne_some]
    intro text htext
    have hok := (Prompt.textWithin?_eq_some_iff.mp htext).1
    rw [hprompt] at hok
    cases hok
  | ok text =>
    by_cases hlong : settings.maxPromptLength < text.length
    · refine .inr ⟨?_, .inr ?_⟩
      · rw [Option.eq_none_iff_forall_ne_some]
        intro other hother
        obtain ⟨hok, hlen⟩ := Prompt.textWithin?_eq_some_iff.mp hother
        rw [hprompt] at hok
        cases hok
        omega
      · simp only [hlong, if_true]
        rfl
    · refine .inl ⟨text, Prompt.textWithin?_eq_some_iff.mpr ⟨hprompt, Nat.le_of_not_lt hlong⟩, ?_⟩
      simp only [hlong, if_false]
      rfl

/-! ## One send -/

section
variable (s : Session) (batchId : String) (prompt : Json) (source : String → Reply)

theorem nodup_keys_bindings : (s.bindings batchId).keys.Nodup := by
  show ["session_id", "batch_id"].Nodup
  decide

theorem result_receive_batch (raw : RawBatch) :
    (s.receive (.batch raw)).2.result = (s.store.applyBatch s.settings raw).2.result.mapError .batch := by
  simp only [receive, Logged.result_bind, Logged.mapError]
  cases (s.store.applyBatch s.settings raw).2.result <;> rfl

/-- **All that a send does.** The prompt is refused, or the source is asked for its text and fails, or it is asked and
its batch is applied. -/
theorem send_cases :
    (Prompt.textWithin? s.settings.maxPromptLength prompt = none ∧ (s.send batchId prompt source).1 = s ∧
      ((∃ fault, (s.send batchId prompt source).2.result = .error (.refused fault)) ∨
        (s.send batchId prompt source).2.result = .error (.tooLong s.settings.maxPromptLength))) ∨
    ∃ text, Prompt.textWithin? s.settings.maxPromptLength prompt = some text ∧
      ((∃ failure, source text = .failed failure ∧
          (s.send batchId prompt source).1 = { s with sent := s.sent ++ [text] } ∧
          (s.send batchId prompt source).2.result = .error (.source failure)) ∨
        ∃ raw, source text = .batch raw ∧
          (s.send batchId prompt source).1 =
            { s with sent := s.sent ++ [text], store := (s.store.applyBatch s.settings raw).1 } ∧
          (s.send batchId prompt source).2.result =
            (s.store.applyBatch s.settings raw).2.result.mapError .batch) := by
  have hleave := LogContext.leave_enter s.context (s.bindings batchId) (s.nodup_keys_bindings batchId)
  rcases accept_cases s.settings prompt with ⟨text, htext, haccept⟩ | ⟨hnone, hrefused⟩
  · refine .inr ⟨text, htext, ?_⟩
    unfold send
    simp only [haccept]
    cases hreply : source text with
    | failed failure =>
      refine .inl ⟨failure, rfl, ?_, rfl⟩
      simp only [receive, hleave]
    | batch raw =>
      refine .inr ⟨raw, rfl, ?_, ?_⟩
      · simp only [receive, hleave]
      · rw [Logged.result_bind, result_receive_batch]
        rfl
  · refine .inl ⟨hnone, ?_⟩
    unfold send
    rcases hrefused with ⟨fault, hfault⟩ | hlong
    · simp [hfault]
    · simp [hlong]

/-- **A source is asked for nothing but the text in which the prompt is sent.** -/
theorem send_congr {source' : String → Reply}
    (h : ∀ text, Prompt.textWithin? s.settings.maxPromptLength prompt = some text → source text = source' text) :
    s.send batchId prompt source = s.send batchId prompt source' := by
  unfold send
  rcases accept_cases s.settings prompt with ⟨text, htext, haccept⟩ | ⟨-, ⟨fault, hfault⟩ | hlong⟩
  · simp only [haccept, h text htext]
  · simp only [hfault]
  · simp only [hlong]

end

end Session

/-! ## Runs of sends -/

/-- A prompt to be sent, with what its source makes of the text that it is asked for. -/
structure Sending where
  batchId : String
  prompt : Json
  source : String → Reply

/-- A send that took place: the session before and after it, and how it ended. -/
structure Exchange where
  before : Session
  sending : Sending
  after : Session
  outcome : Except SendError BatchResult

namespace Session

/-- Sends prompts one after the other, and keeps what took place. -/
def sendAll : Session → List Sending → Session × List Exchange
  | s, [] => (s, [])
  | s, x :: rest =>
    let (next, outcome) := s.send x.batchId x.prompt x.source
    let (last, exchanges) := sendAll next rest
    (last, ⟨s, x, next, outcome.result⟩ :: exchanges)

end Session

/-- The batch that is applied: the reply to the prompt, if it is sent and answered. -/
def Sending.batch? (limit : Nat) (x : Sending) : Option RawBatch :=
  match (Prompt.textWithin? limit x.prompt).map x.source with
  | some (.batch raw) => some raw
  | _ => none

/-- What every send keeps to. The log context is as it was. If the send failed, so is the store, unless an index too long
to be read broke its batch off. An error of the source comes back as it is, and a batch of the source is applied. What the
source would make of other texts than the one in which the prompt is sent makes no difference. -/
structure Exchange.IsSound (x : Exchange) : Prop where
  context : x.after.context = x.before.context
  store : ∀ e, x.outcome = .error e → (∀ n, e ≠ .batch (.longNumeral n)) → x.after.store = x.before.store
  error : ∀ text failure,
    Prompt.textWithin? x.before.settings.maxPromptLength x.sending.prompt = some text →
      x.sending.source text = .failed failure → x.outcome = .error (.source failure)
  applied : ∀ text raw,
    Prompt.textWithin? x.before.settings.maxPromptLength x.sending.prompt = some text →
      x.sending.source text = .batch raw → x.after.store = (x.before.store.applyBatch x.before.settings raw).1
  heard : ∀ source' : String → Reply,
    (∀ text, Prompt.textWithin? x.before.settings.maxPromptLength x.sending.prompt = some text →
      x.sending.source text = source' text) →
        (x.before.send x.sending.batchId x.sending.prompt source').1 = x.after ∧
          (x.before.send x.sending.batchId x.sending.prompt source').2.result = x.outcome

/-- A batch that fails changes nothing, unless it was broken off while it was applied. -/
theorem Store.applyBatch_of_error {settings : Settings} {store : Store} {raw : RawBatch} {e : BatchError}
    (h : (store.applyBatch settings raw).2.result = .error e) (hne : ∀ n, e ≠ .longNumeral n) :
    (store.applyBatch settings raw).1 = store := by
  cases hparse : (Batch.parse settings raw).result with
  | error e => exact applyBatch_of_parse_error store hparse
  | ok messages =>
    simp only [applyBatch, hparse] at h
    cases happlied : (store.applyAll settings messages).2.result with
    | error n =>
      rw [happlied] at h
      cases h
      exact absurd rfl (hne n)
    | ok r =>
      rw [happlied] at h
      cases h

namespace Session

theorem isSound_send (s : Session) (x : Sending) : Exchange.IsSound
    ⟨s, x, (s.send x.batchId x.prompt x.source).1, (s.send x.batchId x.prompt x.source).2.result⟩ := by
  have hheard : ∀ source' : String → Reply,
      (∀ text, Prompt.textWithin? s.settings.maxPromptLength x.prompt = some text → x.source text = source' text) →
        (s.send x.batchId x.prompt source').1 = (s.send x.batchId x.prompt x.source).1 ∧
          (s.send x.batchId x.prompt source').2.result = (s.send x.batchId x.prompt x.source).2.result := by
    intro source' h
    rw [s.send_congr x.batchId x.prompt x.source h]
    exact ⟨rfl, rfl⟩
  -- The source has one reply to the one text that it is asked for.
  have hreplies : ∀ text other, Prompt.textWithin? s.settings.maxPromptLength x.prompt = some text →
      Prompt.textWithin? s.settings.maxPromptLength x.prompt = some other → x.source text = x.source other := by
    intro text other htext hother
    rw [Option.some.inj (htext.symm.trans hother)]
  rcases s.send_cases x.batchId x.prompt x.source with
    ⟨hnone, hsession, -⟩ | ⟨text, htext, ⟨failure, hreply, hsession, hresult⟩ | ⟨raw, hreply, hsession, hresult⟩⟩
  · have hnever : ∀ text, Prompt.textWithin? s.settings.maxPromptLength x.prompt ≠ some text := by
      intro text htext
      rw [hnone] at htext
      cases htext
    exact {
      context := by rw [hsession]
      store := fun _ _ _ => by rw [hsession]
      error := fun text _ htext => absurd htext (hnever text)
      applied := fun text _ htext => absurd htext (hnever text)
      heard := hheard }
  · refine ⟨by rw [hsession], fun _ _ _ => by rw [hsession], fun other failure' hother hfailed => ?_,
      fun other raw hother hbatch => ?_, hheard⟩
    · cases hreply.symm.trans ((hreplies text other htext hother).trans hfailed)
      exact hresult
    · cases hreply.symm.trans ((hreplies text other htext hother).trans hbatch)
  · refine ⟨by rw [hsession], fun e he hne => ?_, fun other failure hother hfailed => ?_,
      fun other raw' hother hbatch => ?_, hheard⟩
    · rw [hsession]
      rw [hresult] at he
      cases happlied : (s.store.applyBatch s.settings raw).2.result with
      | ok r =>
        rw [happlied] at he
        cases he
      | error e' =>
        rw [happlied] at he
        cases he
        exact Store.applyBatch_of_error happlied fun n hn => hne n (by rw [hn])
    · cases hreply.symm.trans ((hreplies text other htext hother).trans hfailed)
    · cases hreply.symm.trans ((hreplies text other htext hother).trans hbatch)
      rw [hsession]

theorem settings_send (s : Session) (x : Sending) :
    (s.send x.batchId x.prompt x.source).1.settings = s.settings := by
  rcases s.send_cases x.batchId x.prompt x.source with
    ⟨-, hsession, -⟩ | ⟨text, -, ⟨failure, -, hsession, -⟩ | ⟨raw, -, hsession, -⟩⟩ <;> rw [hsession]

theorem sent_send (s : Session) (x : Sending) : (s.send x.batchId x.prompt x.source).1.sent =
    s.sent ++ (Prompt.textWithin? s.settings.maxPromptLength x.prompt).toList := by
  rcases s.send_cases x.batchId x.prompt x.source with
    ⟨hnone, hsession, -⟩ | ⟨text, htext, ⟨failure, -, hsession, -⟩ | ⟨raw, -, hsession, -⟩⟩
  · rw [hsession, hnone, Option.toList_none, List.append_nil]
  · rw [hsession, htext, Option.toList_some]
  · rw [hsession, htext, Option.toList_some]

theorem store_send (s : Session) (x : Sending) : (s.send x.batchId x.prompt x.source).1.store =
    (s.store.applyBatches s.settings (x.batch? s.settings.maxPromptLength).toList).1 := by
  unfold Sending.batch?
  rcases s.send_cases x.batchId x.prompt x.source with
    ⟨hnone, hsession, -⟩ | ⟨text, htext, ⟨failure, hreply, hsession, -⟩ | ⟨raw, hreply, hsession, -⟩⟩
  · rw [hsession, hnone]
    rfl
  · rw [hsession, htext, Option.map_some, hreply]
    rfl
  · rw [hsession, htext, Option.map_some, hreply]
    rfl

/-- **What the source hears over a run of sends** are the texts of the prompts that are sent, in order, and every send is
sound, whatever the ones before it did. -/
theorem sendAll_isSound (s : Session) (sends : List Sending) :
    (s.sendAll sends).1.sent =
        s.sent ++ sends.filterMap (fun x => Prompt.textWithin? s.settings.maxPromptLength x.prompt) ∧
      (s.sendAll sends).2.map (·.sending) = sends ∧ ∀ x ∈ (s.sendAll sends).2, x.IsSound := by
  induction sends generalizing s with
  | nil => exact ⟨(List.append_nil s.sent).symm, rfl, fun _ hx => nomatch hx⟩
  | cons x rest ih =>
    obtain ⟨hsent, hsends, hsound⟩ := ih (s.send x.batchId x.prompt x.source).1
    refine ⟨?_, congrArg (x :: ·) hsends, List.forall_mem_cons.mpr ⟨s.isSound_send x, hsound⟩⟩
    rw [sent_send, settings_send] at hsent
    rw [List.filterMap_cons]
    cases htext : Prompt.textWithin? s.settings.maxPromptLength x.prompt with
    | none =>
      rw [htext, Option.toList_none, List.append_nil] at hsent
      exact hsent
    | some text =>
      rw [htext, Option.toList_some, List.append_assoc] at hsent
      exact hsent

/-- **After a run the store is what the batches make of it that the source replied.** -/
theorem store_sendAll (s : Session) (sends : List Sending) : (s.sendAll sends).1.store =
    (s.store.applyBatches s.settings (sends.filterMap (·.batch? s.settings.maxPromptLength))).1 := by
  induction sends generalizing s with
  | nil => rfl
  | cons x rest ih =>
    have hrest := ih (s.send x.batchId x.prompt x.source).1
    rw [store_send, settings_send] at hrest
    rw [List.filterMap_cons]
    cases hbatch : x.batch? s.settings.maxPromptLength with
    | none =>
      rw [hbatch] at hrest
      exact hrest
    | some raw =>
      rw [hbatch] at hrest
      exact hrest

end Session

end LiveSurface
