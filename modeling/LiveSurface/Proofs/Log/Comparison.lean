import LiveSurface.Log.Logged
import Mathlib.Data.List.Forall2
/-!
# Comparing computations

A `Comparison` lifts a relation between results to computations, so that it can be shown of a sequence of
computations step by step. `Comparison.results` compares how computations end, and `Comparison.silent` also says
that they report nothing; `Comparison.without` allows reports, but none of a certain kind. The other two compare one side
only: `Comparison.follows` where the second computation goes through, and `Comparison.unlessReported` where the first
one reports nothing of a certain kind.

Results:
* `Logged.mapM_ok_iff`: the outcomes of a list of computations, one by one.
* `Comparison.imp`, `Comparison.mapM`: a weaker relation, and one computation for each item of a list.
* `Comparison.eq_of_silent`, `Comparison.eq_of_without`, `Comparison.eq_of_unlessReported`: computations that compare as
  equal are equal.
-/
namespace LiveSurface

/-- A list of computations comes to what its computations come to, one by one. -/
theorem Logged.mapM_ok_iff {ε α β : Type} {f : α → Logged ε β} {xs : List α} {bs : List β} :
    (xs.mapM f).result = .ok bs ↔ List.Forall₂ (fun a b => (f a).result = .ok b) xs bs := by
  induction xs generalizing bs with
  | nil =>
    constructor
    · intro h
      cases h
      exact .nil
    · intro h
      cases h
      rfl
  | cons a rest ih =>
    rw [List.mapM_cons]
    constructor
    · intro h
      obtain ⟨b, hb, h⟩ := exists_ok_of_bind h
      obtain ⟨others, hothers, h⟩ := exists_ok_of_bind h
      cases h
      exact .cons hb (ih.mp hothers)
    · intro h
      cases h with
      | cons hb hrest =>
        simp only [result_bind, hb, ih.mpr hrest]
        rfl

/-- A way to lift relations between results to computations that sequences keep. -/
structure Comparison (ε : Type) where
  Holds : {α β : Type} → (α → β → Prop) → Logged ε α → Logged ε β → Prop
  pure : ∀ {α β : Type} {R : α → β → Prop} {a : α} {b : β}, R a b → Holds R (Pure.pure a) (Pure.pure b)
  bind : ∀ {α β γ δ : Type} {R : α → β → Prop} {S : γ → δ → Prop} {x : Logged ε α} {y : Logged ε β}
    {f : α → Logged ε γ} {g : β → Logged ε δ}, Holds R x y → (∀ a b, R a b → Holds S (f a) (g b)) →
    Holds S (x >>= f) (y >>= g)
  ofExcept : ∀ {α : Type} (x : Except ε α),
    Holds (fun a b => a = b ∧ x = .ok a) (Logged.ofExcept x) (Logged.ofExcept x)

namespace Comparison

variable {ε α β γ δ : Type} (C : Comparison ε) {R S : α → β → Prop}

theorem imp {x : Logged ε α} {y : Logged ε β} (h : C.Holds R x y) (hi : ∀ a b, R a b → S a b) :
    C.Holds S x y := by
  have hb : C.Holds S (x >>= Pure.pure) (y >>= Pure.pure) := C.bind h fun a b hab => C.pure (hi a b hab)
  simpa using hb

theorem same (x : Except ε α) : C.Holds Eq (Logged.ofExcept x) (Logged.ofExcept x) :=
  C.imp (C.ofExcept x) fun _ _ h => h.1

theorem mapM {xs : List γ} {ys : List δ} {f : γ → Logged ε α} {g : δ → Logged ε β}
    (h : List.Forall₂ (fun a b => C.Holds R (f a) (g b)) xs ys) :
    C.Holds (List.Forall₂ R) (xs.mapM f) (ys.mapM g) := by
  induction h with
  | nil => simpa using C.pure .nil
  | cons hab _ ih =>
    rw [List.mapM_cons, List.mapM_cons]
    refine C.bind hab fun a b h => C.bind ih fun as bs hs => C.pure ?_
    exact .cons h hs

/-- Ends that fail alike, or succeed with related results. -/
inductive Ends (R : α → β → Prop) : Except ε α → Except ε β → Prop
  | error (e : ε) : Ends R (.error e) (.error e)
  | ok {a : α} {b : β} (h : R a b) : Ends R (.ok a) (.ok b)

theorem Ends.bind {S : γ → δ → Prop} {x : Except ε α} {y : Except ε β} {f : α → Except ε γ}
    {g : β → Except ε δ} (h : Ends R x y) (hs : ∀ a b, R a b → Ends S (f a) (g b)) :
    Ends S (x >>= f) (y >>= g) := by
  cases h with
  | error e => exact .error e
  | ok hab => exact hs _ _ hab

theorem Ends.refl (x : Except ε α) : Ends (fun a b => a = b ∧ x = .ok a) x x := by
  cases x with
  | error e => exact .error e
  | ok a => exact .ok ⟨rfl, rfl⟩

/-- Ends related by a map are the mapped end. -/
theorem Ends.eq_map {f : β → α} {x : Except ε α} {y : Except ε β} (h : Ends (fun a b => a = f b) x y) :
    x = f <$> y := by
  cases h with
  | error e => rfl
  | ok hab => rw [hab]; rfl

/-- Computations that end alike. -/
def results (ε : Type) : Comparison ε where
  Holds R x y := Ends R x.result y.result
  pure h := .ok h
  bind h hs := by
    rw [Logged.result_bind, Logged.result_bind]
    exact h.bind hs
  ofExcept x := Ends.refl x

/-- Computations that end alike and report nothing. -/
def silent (ε : Type) : Comparison ε where
  Holds R x y := x.events = [] ∧ y.events = [] ∧ Ends R x.result y.result
  pure h := ⟨rfl, rfl, .ok h⟩
  bind := by
    rintro α β γ δ R S ⟨ex, x⟩ ⟨ey, y⟩ f g ⟨hx, hy, h⟩ hs
    obtain rfl : ex = [] := hx
    obtain rfl : ey = [] := hy
    rw [Logged.result_bind, Logged.result_bind, Logged.events_bind, Logged.events_bind]
    change Ends R x y at h
    cases h with
    | error e => exact ⟨rfl, rfl, .error e⟩
    | ok hab => exact hs _ _ hab
  ofExcept x := ⟨rfl, rfl, Ends.refl x⟩

theorem eq_of_silent {x y : Logged ε α} (h : (silent ε).Holds Eq x y) : x = y := by
  obtain ⟨hx, hy, h⟩ := h
  refine Logged.ext (hx.trans hy.symm) ?_
  simpa using Ends.eq_map h

/-- Computations that report the same, and no event of a kind, and end alike. -/
def without (ε : Type) (Stop : Event → Prop) : Comparison ε where
  Holds R x y := (∀ e ∈ x.events, ¬Stop e) ∧ x.events = y.events ∧ Ends R x.result y.result
  pure h := ⟨fun _ he => (nomatch he), rfl, .ok h⟩
  bind := by
    rintro α β γ δ R S ⟨ex, x⟩ ⟨ey, y⟩ f g ⟨hstop, hevents, hends⟩ hs
    obtain rfl : ex = ey := hevents
    rw [Logged.result_bind, Logged.result_bind, Logged.events_bind, Logged.events_bind]
    change Ends R x y at hends
    cases hends with
    | error e => exact ⟨by simpa using hstop, rfl, .error e⟩
    | ok hab =>
      obtain ⟨hrest, heq, hlast⟩ := hs _ _ hab
      refine ⟨?_, congrArg (ex ++ ·) heq, hlast⟩
      intro e he
      rcases List.mem_append.mp he with he | he
      · exact hstop e he
      · exact hrest e he
  ofExcept x := ⟨fun _ he => (nomatch he), rfl, Ends.refl x⟩

theorem eq_of_without {Stop : Event → Prop} {x y : Logged ε α} (h : (without ε Stop).Holds Eq x y) : x = y := by
  obtain ⟨-, hevents, hends⟩ := h
  refine Logged.ext hevents ?_
  simpa using Ends.eq_map hends

/-- Where the second computation goes through, the first one does so, too. -/
def follows (ε : Type) : Comparison ε where
  Holds R x y := ∀ b, y.result = .ok b → ∃ a, x.result = .ok a ∧ R a b
  pure h := by
    rintro _ ⟨⟩
    exact ⟨_, rfl, h⟩
  bind {α β γ δ R S x y f g} h hs := by
    intro d hd
    rw [Logged.result_bind] at hd ⊢
    cases hy : y.result with
    | error e => rw [hy] at hd; cases hd
    | ok b =>
      rw [hy] at hd
      obtain ⟨a, hx, hab⟩ := h b hy
      rw [hx]
      exact hs a b hab d hd
  ofExcept x b hb := ⟨b, hb, rfl, hb⟩

/-- What holds of every result of the second computation can be added to the relation. -/
theorem follows_and {P : β → Prop} {x : Logged ε α} {y : Logged ε β} (h : (follows ε).Holds R x y)
    (hP : ∀ b, y.result = .ok b → P b) : (follows ε).Holds (fun a b => R a b ∧ P b) x y := by
  intro b hb
  obtain ⟨a, ha, hab⟩ := h b hb
  exact ⟨a, ha, hab, hP b hb⟩

/-- Computations that report the same and end alike, unless the first one reports an event of a kind. -/
def unlessReported (ε : Type) (Stop : Event → Prop) : Comparison ε where
  Holds R x y := (∀ e ∈ x.events, ¬Stop e) → x.events = y.events ∧ Ends R x.result y.result
  pure h _ := ⟨rfl, .ok h⟩
  bind := by
    rintro α β γ δ R S ⟨ex, x⟩ ⟨ey, y⟩ f g h hs hstop
    rw [Logged.events_bind] at hstop
    rw [Logged.result_bind, Logged.result_bind, Logged.events_bind, Logged.events_bind]
    obtain ⟨hevents, hends⟩ := h fun e he => hstop e (List.mem_append_left _ he)
    obtain rfl : ex = ey := hevents
    change Ends R x y at hends
    cases hends with
    | error e => exact ⟨rfl, .error e⟩
    | ok hab =>
      obtain ⟨hrest, hlast⟩ := hs _ _ hab fun e he => hstop e (List.mem_append_right _ he)
      exact ⟨congrArg (ex ++ ·) hrest, hlast⟩
  ofExcept x _ := ⟨rfl, Ends.refl x⟩

theorem unlessReported_refl (Stop : Event → Prop) (x : Logged ε α) : (unlessReported ε Stop).Holds Eq x x := by
  intro _
  refine ⟨rfl, ?_⟩
  cases x.result with
  | error e => exact .error e
  | ok a => exact .ok rfl

theorem unlessReported_of_eq {Stop : Event → Prop} {x y : Logged ε α} (h : x = y) :
    (unlessReported ε Stop).Holds Eq x y := h ▸ unlessReported_refl Stop x

theorem eq_of_unlessReported {Stop : Event → Prop} {x y : Logged ε α} (h : (unlessReported ε Stop).Holds Eq x y)
    (hx : ∀ e ∈ x.events, ¬Stop e) : x = y := by
  obtain ⟨hevents, hends⟩ := h hx
  refine Logged.ext hevents ?_
  simpa using Ends.eq_map hends

end Comparison

end LiveSurface
