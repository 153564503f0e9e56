import LiveSurface.Log.Event
/-!
# Computations that report events

A `Logged` computation emits events in order and ends in a result or an error. The events emitted before an
error stay.

Results:
* `Logged.result_bind`, `Logged.events_bind`: the two sides of a sequence of two computations.
* `LawfulMonad (Logged ε)`: sequences obey the monad laws, so that core's lemmas on `List.mapM` apply.
* `Logged.exists_of_mem_mapM`: where the results of a list of computations come from.
* `Logged.fails_bind_iff`, `Logged.fails_mapM_iff`: a sequence fails if one of its parts does.
-/
namespace LiveSurface

/-- The outcome of a computation together with the events it emitted, first one first. -/
structure Logged (ε α : Type) where
  events : List Event
  result : Except ε α

namespace Logged

variable {ε α β : Type}

/-- A result without events. -/
protected def pure (a : α) : Logged ε α := ⟨[], .ok a⟩

/-- One computation after the other; an error ends the sequence. -/
protected def bind (x : Logged ε α) (f : α → Logged ε β) : Logged ε β :=
  match x.result with
  | .error e => ⟨x.events, .error e⟩
  | .ok a => ⟨x.events ++ (f a).events, (f a).result⟩

instance : Monad (Logged ε) where
  pure := Logged.pure
  bind := Logged.bind

/-- Emits an event. -/
def emit (e : Event) : Logged ε Unit := ⟨[e], .ok ()⟩

/-- An error without events. -/
def fail (e : ε) : Logged ε α := ⟨[], .error e⟩

/-- A result or an error without events. -/
def ofExcept (x : Except ε α) : Logged ε α := ⟨[], x⟩

/-- The computation with its error turned into another. -/
def mapError {δ : Type} (f : ε → δ) (x : Logged ε α) : Logged δ α :=
  ⟨x.events, x.result.mapError f⟩

@[simp] theorem result_pure (a : α) : (pure a : Logged ε α).result = .ok a := rfl

@[simp] theorem events_pure (a : α) : (pure a : Logged ε α).events = [] := rfl

@[simp] theorem result_bind (x : Logged ε α) (f : α → Logged ε β) :
    (x >>= f).result = x.result >>= fun a => (f a).result := by
  show (Logged.bind x f).result = _
  unfold Logged.bind
  cases x.result <;> rfl

theorem events_bind (x : Logged ε α) (f : α → Logged ε β) :
    (x >>= f).events = x.events ++ (match x.result with
      | .ok a => (f a).events
      | .error _ => []) := by
  show (Logged.bind x f).events = _
  unfold Logged.bind
  cases x.result <;> simp

theorem exists_ok_of_bind {x : Logged ε α} {f : α → Logged ε β} {b : β} (h : (x >>= f).result = .ok b) :
    ∃ a, x.result = .ok a ∧ (f a).result = .ok b := by
  rw [result_bind] at h
  cases hx : x.result with
  | error e =>
    rw [hx] at h
    cases h
  | ok a =>
    rw [hx] at h
    exact ⟨a, rfl, h⟩

theorem ok_of_ofExcept_mapError {δ : Type} {f : ε → δ} {x : Except ε α} {a : α}
    (h : (ofExcept (x.mapError f)).result = .ok a) : x = .ok a := by
  cases x with
  | error e => cases h
  | ok b =>
    cases h
    rfl

theorem ok_of_mapError {δ : Type} {f : ε → δ} {x : Logged ε α} {a : α} (h : (x.mapError f).result = .ok a) :
    x.result = .ok a := ok_of_ofExcept_mapError h

@[simp] theorem result_emit (e : Event) : (emit e : Logged ε Unit).result = .ok () := rfl

@[simp] theorem events_emit (e : Event) : (emit e : Logged ε Unit).events = [e] := rfl

/-- A report on the way changes nothing about the end. -/
theorem result_ite_emit (p : Prop) [Decidable p] (e : Event) (x : Logged ε α) :
    (if p then (do emit e; x) else x).result = x.result := by
  split
  · rw [result_bind]
    rfl
  · rfl

@[ext] theorem ext {x y : Logged ε α} (he : x.events = y.events) (hr : x.result = y.result) : x = y := by
  cases x; cases y; simp_all

instance : LawfulMonad (Logged ε) := LawfulMonad.mk' (Logged ε)
  (fun x => by
    obtain ⟨events, result⟩ := x
    cases result <;> simp [Functor.map, Logged.bind, Logged.pure])
  (fun a f => by simp [Bind.bind, Logged.bind, Pure.pure, Logged.pure])
  (fun x f g => by
    obtain ⟨events, result⟩ := x
    cases result with
    | error e => rfl
    | ok a =>
      simp only [Bind.bind, Logged.bind]
      cases (f a).result <;> simp)

@[simp] theorem result_map (f : α → β) (x : Logged ε α) : (f <$> x).result = f <$> x.result := by
  rw [← bind_pure_comp, result_bind]
  cases x.result <;> rfl

@[simp] theorem events_map (f : α → β) (x : Logged ε α) : (f <$> x).events = x.events := by
  rw [← bind_pure_comp, events_bind]
  cases x.result <;> simp

/-- All results of a list of computations come from it. -/
theorem exists_of_mem_mapM {xs : List α} {f : α → Logged ε β} {bs : List β} (h : (xs.mapM f).result = .ok bs) :
    ∀ b ∈ bs, ∃ a ∈ xs, (f a).result = .ok b := by
  induction xs generalizing bs with
  | nil =>
    cases h
    exact fun _ hb => nomatch hb
  | cons a rest ih =>
    rw [List.mapM_cons] at h
    obtain ⟨b, hb, h⟩ := exists_ok_of_bind h
    obtain ⟨others, hothers, h⟩ := exists_ok_of_bind h
    cases h
    refine List.forall_mem_cons.mpr ⟨⟨a, List.mem_cons_self, hb⟩, fun c hc => ?_⟩
    obtain ⟨x, hx, hxc⟩ := ih hothers c hc
    exact ⟨x, List.mem_cons_of_mem a hx, hxc⟩

/-! ## Failing -/

/-- The computation ends in an error. -/
def Fails (x : Logged ε α) : Prop := ∃ e, x.result = .error e

theorem not_fails_of_ok {x : Logged ε α} {a : α} (h : x.result = .ok a) : ¬x.Fails := by
  rintro ⟨e, he⟩
  rw [h] at he
  cases he

theorem not_fails_iff {x : Logged ε α} : ¬x.Fails ↔ ∃ a, x.result = .ok a := by
  refine ⟨fun h => ?_, fun ⟨a, ha⟩ => not_fails_of_ok ha⟩
  cases hx : x.result with
  | error e => exact absurd ⟨e, hx⟩ h
  | ok a => exact ⟨a, rfl⟩

@[simp] theorem not_fails_pure (a : α) : ¬(pure a : Logged ε α).Fails := not_fails_of_ok rfl

theorem fails_bind_iff {x : Logged ε α} {f : α → Logged ε β} :
    (x >>= f).Fails ↔ x.Fails ∨ ∃ a, x.result = .ok a ∧ (f a).Fails := by
  unfold Fails
  rw [result_bind]
  cases x.result with
  | error e => simp [Bind.bind, Except.bind]
  | ok a => simp [Bind.bind, Except.bind]

/-- What follows the first computation may fail for a reason that does not depend on its result. -/
theorem fails_bind_iff_or {x : Logged ε α} {f : α → Logged ε β} {P : Prop} (h : ∀ a, (f a).Fails ↔ P) :
    (x >>= f).Fails ↔ x.Fails ∨ P := by
  rw [fails_bind_iff]
  simp only [h]
  constructor
  · rintro (hx | ⟨-, -, hP⟩)
    · exact .inl hx
    · exact .inr hP
  · rintro (hx | hP)
    · exact .inl hx
    · by_cases hx : x.Fails
      · exact .inl hx
      · obtain ⟨a, ha⟩ := not_fails_iff.mp hx
        exact .inr ⟨a, ha, hP⟩

@[simp] theorem fails_bind_pure_iff {x : Logged ε α} {f : α → β} :
    (x >>= fun a => pure (f a)).Fails ↔ x.Fails := by
  rw [fails_bind_iff_or fun a => iff_false_intro (not_fails_pure (f a)), or_false]

@[simp] theorem fails_mapM_iff {xs : List α} {f : α → Logged ε β} :
    (xs.mapM f).Fails ↔ ∃ a ∈ xs, (f a).Fails := by
  induction xs with
  | nil => simp
  | cons a rest ih =>
    rw [List.mapM_cons, fails_bind_iff_or fun _ => fails_bind_pure_iff, ih]
    simp only [List.mem_cons, exists_eq_or_imp]

end Logged

end LiveSurface
