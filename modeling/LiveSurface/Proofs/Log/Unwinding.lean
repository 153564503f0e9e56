import LiveSurface.Log.Context
/-!
# How contexts unwind

A run enters contexts and leaves them again, the innermost one first. What a name is bound to is kept in one place for
all open contexts: each of them only remembers, for its own names, what it has covered up. The invariant of a run is
that nothing else is left of the past: after any step the log context is the one at the start with the contexts entered
that are still open, as if those that were left had never been entered. So the innermost open context that has a name
gives it its value.

Results:
* `get?_enter`: what a context binds, and what shows through.
* `act_enterAll`, `run_enterAll`: one step, and a whole run, keeps to the contexts that are open.
* `unwinds`: what the names are bound to at any time, and that nothing is left behind at the end.
-/
namespace LiveSurface.LogContext

/-- A step of a run: a context is entered, or the innermost one is left. -/
inductive Step
  | enter (bindings : Entries String Json)
  | leave

/-- The log context after a step. -/
def act (c : LogContext) : Step → LogContext
  | .enter bindings => c.enter bindings
  | .leave => c.leave

/-- The log context after a run. -/
def run (c : LogContext) (steps : List Step) : LogContext := steps.foldl act c

/-! ## Open contexts -/

/-- The bindings of the open contexts after one more step, innermost first. There is none to leave if none is open. -/
def openStep : List (Entries String Json) → Step → Option (List (Entries String Json))
  | opened, .enter bindings => some (bindings :: opened)
  | _ :: outer, .leave => some outer
  | [], .leave => none

/-- The bindings of the contexts that were entered in a run and not left, innermost first. -/
def openAfter (steps : List Step) : Option (List (Entries String Json)) := steps.foldlM openStep []

/-- Whether a run leaves only contexts that it has entered. -/
def IsNested (steps : List Step) : Prop := ∃ opened, openAfter steps = some opened

/-- Whether the contexts that a run enters bind each name once. -/
def BindsOnce (steps : List Step) : Prop := ∀ bindings, Step.enter bindings ∈ steps → bindings.keys.Nodup

/-- The value that the innermost of some contexts gives to a name, of those that bind it. -/
def innermost? (opened : List (Entries String Json)) (name : String) : Option Json :=
  opened.findSome? fun bindings => bindings.get? name

theorem innermost?_cons (bindings : Entries String Json) (outer : List (Entries String Json)) (name : String) :
    innermost? (bindings :: outer) name = (bindings.get? name).or (innermost? outer name) := by
  unfold innermost?
  rw [List.findSome?_cons]
  cases bindings.get? name <;> rfl

/-- The log context with contexts entered, the last of the list first. -/
def enterAll (c : LogContext) (opened : List (Entries String Json)) : LogContext :=
  opened.foldr (fun bindings inner => inner.enter bindings) c

@[simp] theorem enterAll_nil (c : LogContext) : c.enterAll [] = c := rfl

@[simp] theorem enterAll_cons (c : LogContext) (bindings : Entries String Json) (outer : List (Entries String Json)) :
    c.enterAll (bindings :: outer) = (c.enterAll outer).enter bindings := rfl

/-! ## What is bound -/

theorem get?_putAll (m : Entries String Json) {bindings : Entries String Json} (h : bindings.keys.Nodup)
    (name : String) : (m.putAll bindings).get? name = (bindings.get? name).or (m.get? name) := by
  induction bindings generalizing m with
  | nil => rfl
  | cons e rest ih =>
    obtain ⟨key, value⟩ := e
    obtain ⟨hkey, hrest⟩ := List.nodup_cons.mp h
    show ((m.put key value).putAll rest).get? name = _
    by_cases hname : key = name
    · subst hname
      rw [get?_putAll_of_not_mem _ _ hkey]
      simp [Entries.get?_cons]
    · rw [ih (m.put key value) hrest, Entries.get?_put_of_ne m value (Ne.symm hname)]
      simp [Entries.get?_cons, hname]

/-- Inside a context its own names have its values, and the others those from outside. -/
theorem get?_enter (c : LogContext) {bindings : Entries String Json} (h : bindings.keys.Nodup) (name : String) :
    (c.enter bindings).bound.get? name = (bindings.get? name).or (c.bound.get? name) :=
  get?_putAll c.bound h name

theorem get?_enterAll (c : LogContext) {opened : List (Entries String Json)}
    (h : ∀ bindings ∈ opened, bindings.keys.Nodup) (name : String) :
    (c.enterAll opened).bound.get? name = (innermost? opened name).or (c.bound.get? name) := by
  induction opened with
  | nil => rfl
  | cons bindings outer ih =>
    obtain ⟨hbindings, houter⟩ := List.forall_mem_cons.mp h
    rw [enterAll_cons, get?_enter _ hbindings, ih houter, innermost?_cons, Option.or_assoc]

/-! ## Runs -/

/-- One step keeps to the contexts that are open: the last one to be entered is the one that is left. -/
theorem act_enterAll (c : LogContext) {opened opened' : List (Entries String Json)} {s : Step}
    (hopened : ∀ bindings ∈ opened, bindings.keys.Nodup) (hstep : openStep opened s = some opened') :
    (c.enterAll opened).act s = c.enterAll opened' := by
  cases s with
  | enter bindings =>
    cases hstep
    rfl
  | leave =>
    cases opened with
    | nil => cases hstep
    | cons bindings outer =>
      cases hstep
      exact leave_enter _ bindings (hopened bindings List.mem_cons_self)

theorem nodup_of_openStep {opened opened' : List (Entries String Json)} {s : Step}
    (hopened : ∀ bindings ∈ opened, bindings.keys.Nodup) (hs : ∀ bindings, s = .enter bindings → bindings.keys.Nodup)
    (hstep : openStep opened s = some opened') : ∀ bindings ∈ opened', bindings.keys.Nodup := by
  cases s with
  | enter bindings =>
    cases hstep
    exact List.forall_mem_cons.mpr ⟨hs bindings rfl, hopened⟩
  | leave =>
    cases opened with
    | nil => cases hstep
    | cons bindings outer =>
      cases hstep
      exact fun b hb => hopened b (List.mem_cons_of_mem _ hb)

/-- A run leads from open contexts to open contexts, and leaves no other trace. -/
theorem run_enterAll (c : LogContext) {steps : List Step} (hsteps : BindsOnce steps)
    {opened opened' : List (Entries String Json)} (hopened : ∀ bindings ∈ opened, bindings.keys.Nodup)
    (hrun : steps.foldlM openStep opened = some opened') :
    (c.enterAll opened).run steps = c.enterAll opened' ∧ ∀ bindings ∈ opened', bindings.keys.Nodup := by
  induction steps generalizing opened with
  | nil =>
    cases hrun
    exact ⟨rfl, hopened⟩
  | cons s rest ih =>
    rw [List.foldlM_cons] at hrun
    obtain ⟨mid, hstep, hrest⟩ := Option.bind_eq_some_iff.mp hrun
    have hmid : ∀ bindings ∈ mid, bindings.keys.Nodup :=
      nodup_of_openStep hopened (fun b hb => hsteps b (hb ▸ List.mem_cons_self)) hstep
    have htail : BindsOnce rest := fun b hb => hsteps b (List.mem_cons_of_mem _ hb)
    show ((c.enterAll opened).act s).run rest = _ ∧ _
    rw [act_enterAll c hopened hstep]
    exact ih htail hmid hrest

/-- What begins a nested run is nested. -/
theorem IsNested.front {front steps : List Step} (h : IsNested steps) (hfront : front <+: steps) : IsNested front := by
  obtain ⟨back, rfl⟩ := hfront
  obtain ⟨opened, hopened⟩ := h
  rw [openAfter, List.foldlM_append] at hopened
  obtain ⟨mid, hmid, -⟩ := Option.bind_eq_some_iff.mp hopened
  exact ⟨mid, hmid⟩

/-- **Contexts unwind.** In a run that leaves only contexts it has entered, after every step a name is bound to the
value of the innermost open context that binds it, and if there is none, to what it was bound to at the start. Once no
context is open any more, the log context is the one at the start. -/
theorem unwinds (c : LogContext) {steps : List Step} (hsteps : BindsOnce steps) (hnested : IsNested steps) :
    (∀ front, front <+: steps → ∃ opened, openAfter front = some opened ∧
      ∀ name, (c.run front).bound.get? name = (innermost? opened name).or (c.bound.get? name)) ∧
    (openAfter steps = some [] → c.run steps = c) := by
  have hnone : ∀ bindings ∈ ([] : List (Entries String Json)), bindings.keys.Nodup := nofun
  refine ⟨?_, ?_⟩
  · intro front hfront
    obtain ⟨opened, hopened⟩ := hnested.front hfront
    have honce : BindsOnce front := fun b hb => hsteps b (hfront.subset hb)
    obtain ⟨hrun, hnodup⟩ := run_enterAll c honce hnone hopened
    refine ⟨opened, hopened, fun name => ?_⟩
    rw [enterAll_nil] at hrun
    rw [hrun, get?_enterAll c hnodup]
  · intro hclosed
    exact (run_enterAll c hsteps hnone hclosed).1

/-- The log context of a user who has not given a name. -/
def guest : LogContext := { bound := [("user", .str "guest")] }

/-- A session with two batches, each of which takes over some of the names that are bound already. -/
def twoBatches : List Step :=
  [.enter [("session_id", .str "s"), ("batch_id", .str "none")], .enter [("batch_id", .str "a"), ("user", .str "u")],
    .leave, .enter [("user", .null), ("session_id", .str "t")], .leave, .leave]

theorem unwinds_twoBatches : BindsOnce twoBatches ∧ IsNested twoBatches ∧
    (guest.run (twoBatches.take 2)).bound.get? "session_id" = some (.str "s") ∧
    (guest.run (twoBatches.take 3)).bound.get? "user" = some (.str "guest") ∧ guest.run twoBatches = guest := by
  have honce : BindsOnce twoBatches := by
    intro bindings h
    simp only [twoBatches, List.mem_cons, Step.enter.injEq, reduceCtorEq, List.not_mem_nil, or_false, false_or] at h
    rcases h with rfl | rfl | rfl <;> decide
  have hnested : IsNested twoBatches := ⟨[], rfl⟩
  obtain ⟨hsteps, hclosed⟩ := unwinds guest honce hnested
  refine ⟨honce, hnested, ?_, ?_, hclosed rfl⟩
  · obtain ⟨opened, hopened, hbound⟩ := hsteps (twoBatches.take 2) (List.take_prefix _ _)
    cases hopened
    exact hbound "session_id"
  · obtain ⟨opened, hopened, hbound⟩ := hsteps (twoBatches.take 3) (List.take_prefix _ _)
    cases hopened
    exact hbound "user"

end LiveSurface.LogContext
