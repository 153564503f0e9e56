import LiveSurface.Json.Reader
/-!
# The outermost container

Once the first character of a text has opened an array or an object, that container stays open until its own
closer is read, and after that only white space may follow. So a text in brackets is complete with its last
closer and not before, and nothing can be read from a front of it that ends earlier.

Results:
* `State.Reading.step`, `State.Reading.feed`: the outermost container stays the same along a run of the machine.
* `kind_of_readChars`: the first character settles the kind of the value.
* `step_of_strict`, `feed_of_strict`: where the strict dialect goes on, every dialect goes on in the same way.
* `readChars_of_strict`: what the strict dialect reads, every dialect reads.
* `blank_of_readChars_front`: texts in brackets are free of prefixes, up to white space.
-/
namespace LiveSurface.Json

theorem exists_ok_of_bind {ε α β : Type} {x : Except ε α} {f : α → Except ε β} {b : β}
    (h : x >>= f = .ok b) : ∃ a, x = .ok a ∧ f a = .ok b := by
  cases x with
  | error e => cases h
  | ok a => exact ⟨a, rfl, h⟩

theorem error_of_bind {ε α β : Type} {x : Except ε α} {f : α → Except ε β} {e : ε}
    (h : x >>= f = .error e) : x = .error e ∨ ∃ a, x = .ok a ∧ f a = .error e := by
  cases x with
  | error e' =>
    cases h
    exact .inl rfl
  | ok a => exact .inr ⟨a, rfl, h⟩

theorem map_error_iff {ε α β : Type} {x : Except ε α} {f : α → β} {e : ε} :
    f <$> x = .error e ↔ x = .error e := by
  cases x <;> simp [Functor.map, Except.map]

/-! ## Containers along a run -/

/-- The kind of container that waits in a frame. -/
def Frame.kind : Frame → Kind
  | .items _ => .arr
  | .field _ _ => .obj

/-- The kind of the outermost of the containers that wait, innermost first. -/
def outermost? : List Frame → Option Kind
  | [] => none
  | f :: outer => (outermost? outer).or (some f.kind)

namespace State

/-- The kind of the outermost container that is open. An object that awaits a name, or the colon after it, has no
frame yet. -/
def outermost? : State → Option Kind
  | .value frames _ => Json.outermost? frames
  | .after frames _ => Json.outermost? frames
  | .text frames _ => Json.outermost? frames
  | .number frames _ => Json.outermost? frames
  | .word frames _ _ _ => Json.outermost? frames
  | .name frames _ _ => (Json.outermost? frames).or (some .obj)
  | .colon frames _ _ => (Json.outermost? frames).or (some .obj)
  | .inName frames _ _ => (Json.outermost? frames).or (some .obj)

/-- The outermost container is of kind `k` and still open, or it has been closed and nothing but white space has
followed. -/
inductive Reading (k : Kind) : State → Prop
  | unclosed {s : State} : s.outermost? = some k → Reading k s
  | closed {v : Json} : v.kind = k → Reading k (.after [] v)

end State

section
variable {d : Dialect} {position : Nat} {frames : List Frame} {s t : State} {v : Json} {c : Char} {k : Kind}

theorem reading_after {outer : List Frame} (h : (outermost? outer).or (some v.kind) = some k) :
    (State.after outer v).Reading k := by
  cases outer with
  | nil => exact .closed (by simpa [outermost?] using h)
  | cons f rest =>
    refine .unclosed ?_
    simpa [State.outermost?, outermost?, Option.or_assoc] using h

theorem reading_stepAfter (ho : outermost? frames = some k)
    (h : stepAfter frames v position c = .ok t) : t.Reading k := by
  unfold stepAfter at h
  split at h
  · cases h
    exact .unclosed ho
  · split at h
    · next before outer =>
      split at h
      · cases h
        exact .unclosed ho
      · split at h
        · cases h
          exact reading_after ho
        · cases h
    · next before key outer =>
      split at h
      · cases h
        exact .unclosed ho
      · split at h
        · cases h
          exact reading_after ho
        · cases h
    · cases h

theorem reading_openContainer {array : Bool} (ho : outermost? frames = some k)
    (h : openContainer frames array = .ok t) : t.Reading k := by
  unfold openContainer at h
  split at h
  · cases h
  · split at h
    · cases h
      exact .unclosed (by simp [State.outermost?, outermost?, ho])
    · cases h
      exact .unclosed (by simp [State.outermost?, ho])

theorem reading_beginValue (ho : outermost? frames = some k)
    (h : beginValue d frames position c = .ok t) : t.Reading k := by
  unfold beginValue at h
  split at h
  · cases h
    exact .unclosed ho
  split at h
  · exact reading_openContainer ho h
  split at h
  · exact reading_openContainer ho h
  split at h
  · cases h
    exact .unclosed ho
  split at h
  · cases h
    exact .unclosed ho
  · split at h
    · cases h
      exact .unclosed ho
    · cases h

/-- One character leaves the outermost container the same. -/
theorem State.Reading.step (hr : s.Reading k) (h : Json.step d position s c = .ok t) : t.Reading k := by
  cases hr with
  | closed hv =>
    simp only [Json.step, stepAfter] at h
    split at h
    · cases h
      exact .closed hv
    · cases h
  | unclosed ho =>
    cases s with
    | value frames mayClose =>
      simp only [Json.step] at h
      split at h
      · cases h
        exact .unclosed ho
      · split at h
        · cases h
          exact reading_after ho
        · exact reading_beginValue ho h
    | after frames v => exact reading_stepAfter ho h
    | name frames fields mayClose =>
      simp only [Json.step] at h
      split at h
      · cases h
        exact .unclosed ho
      split at h
      · cases h
        exact .unclosed ho
      split at h
      · cases h
        exact reading_after ho
      · cases h
    | colon frames fields name =>
      simp only [Json.step] at h
      split at h
      · cases h
        exact .unclosed ho
      split at h
      · cases h
        exact .unclosed ho
      · cases h
    | text frames q =>
      obtain ⟨progress, -, h⟩ := exists_ok_of_bind h
      cases progress <;> cases h <;> exact .unclosed ho
    | inName frames fields q =>
      obtain ⟨progress, -, h⟩ := exists_ok_of_bind h
      cases progress <;> cases h <;> exact .unclosed ho
    | number frames n =>
      simp only [Json.step] at h
      split at h
      · cases h
        exact .unclosed ho
      split at h
      · cases h
        exact .unclosed ho
      · -- The character ends the number, and is itself what follows a value.
        obtain ⟨⟨x, unread⟩, -, h⟩ := exists_ok_of_bind h
        cases unread with
        | none => exact reading_stepAfter ho h
        | some unread => cases h
    | word frames began owed v =>
      simp only [Json.step] at h
      split at h
      · exact reading_stepAfter ho h
      · split at h
        · cases h
          exact .unclosed ho
        · cases h

theorem State.Reading.feed {cs : List Char} (hr : s.Reading k) (h : Json.feed d position s cs = .ok t) :
    t.Reading k := by
  induction cs generalizing position s with
  | nil =>
    cases h
    exact hr
  | cons c rest ih =>
    obtain ⟨mid, hstep, hrest⟩ := exists_ok_of_bind h
    exact ih (hr.step hstep) hrest

/-- A text can only end after its outermost container. -/
theorem State.Reading.close (hr : s.Reading k) (h : Json.close d position s = .ok v) :
    s = .after [] v ∧ v.kind = k := by
  cases hr with
  | closed hv =>
    cases h
    exact ⟨rfl, hv⟩
  | unclosed ho =>
    exfalso
    cases s with
    | after frames w =>
      cases frames with
      | nil => cases ho
      | cons f outer => cases h
    | number frames n =>
      obtain ⟨⟨x, unread⟩, -, h⟩ := exists_ok_of_bind h
      cases unread with
      | some unread => cases h
      | none =>
        cases frames with
        | nil => cases ho
        | cons f outer => cases h
    | word frames began owed w =>
      cases frames with
      | nil => cases ho
      | cons f outer => cases owed <;> cases h
    | _ => cases h

/-- The kind of container that a character opens. -/
def opened? : Char → Option Kind
  | '[' => some .arr
  | '\x7b' => some .obj
  | _ => none

theorem reading_of_opened (ho : opened? c = some k) (h : step d position .start c = .ok s) : s.Reading k := by
  unfold opened? at ho
  split at ho
  · cases ho
    cases h
    exact .unclosed rfl
  · cases ho
    cases h
    exact .unclosed rfl
  · cases ho

theorem reading_of_feed {cs : List Char} (ho : opened? c = some k)
    (h : feed d position .start (c :: cs) = .ok s) : s.Reading k := by
  obtain ⟨t, hstep, hrest⟩ := exists_ok_of_bind h
  exact (reading_of_opened ho hstep).feed hrest

/-- Whatever is read from a text that opens with a container is a container of its kind. -/
theorem kind_of_readChars {cs : List Char} (ho : opened? c = some k) (h : readChars d (c :: cs) = .ok v) :
    v.kind = k := by
  obtain ⟨s, hfeed, hclose⟩ := exists_ok_of_bind h
  exact ((reading_of_feed ho hfeed).close hclose).2

theorem blank_of_feed_after {cs : List Char} (h : feed d position (.after [] v) cs = .ok t) :
    ∀ c ∈ cs, isSpace c = true := by
  induction cs generalizing position with
  | nil => simp
  | cons c rest ih =>
    obtain ⟨s, hstep, hrest⟩ := exists_ok_of_bind h
    simp only [step, stepAfter] at hstep
    split at hstep
    · next hspace =>
      cases hstep
      intro b hb
      rcases List.mem_cons.mp hb with rfl | hb
      · exact hspace
      · exact ih hrest b hb
    · cases hstep

/-! ## Dialects -/

namespace Quoted

variable {q r : Quoted} {progress : Progress}

theorem settle_of_strict (h : q.settle .strict position = .ok r) : q.settle d position = .ok r := by
  unfold settle at h ⊢
  cases hq : q.half with
  | none => simpa only [hq] using h
  | some high => simp [hq, Dialect.strict] at h

theorem pushCode_of_strict {code : Nat} (h : q.pushCode .strict position code = .ok r) :
    q.pushCode d position code = .ok r := by
  unfold pushCode at h ⊢
  split at h
  · split at h
    · next hlow => rw [if_pos hlow, h]
    · next hlow =>
      obtain ⟨settled, hs, h⟩ := exists_ok_of_bind h
      rw [if_neg hlow, settle_of_strict hs]
      exact h
  · split at h
    · next hhigh => rw [if_pos hhigh, h]
    · next hhigh =>
      rw [if_neg hhigh]
      split at h
      · next hlow => rw [if_pos hlow, settle_of_strict h]
      · next hlow => rw [if_neg hlow, h]

theorem step_of_strict (h : q.step .strict position c = .ok progress) :
    q.step d position c = .ok progress := by
  unfold Quoted.step at h ⊢
  cases he : q.escape with
  | no =>
    simp only [he] at h ⊢
    split at h
    · next hc => rw [if_pos hc, h]
    · next hc =>
      obtain ⟨settled, hs, h⟩ := exists_ok_of_bind h
      rw [if_neg hc, settle_of_strict hs]
      exact h
  | begun =>
    simp only [he] at h ⊢
    split at h
    · next hc => rw [if_pos hc, h]
    · next hc =>
      rw [if_neg hc]
      split at h
      · obtain ⟨settled, hs, h⟩ := exists_ok_of_bind h
        rw [settle_of_strict hs]
        exact h
      · cases h
  | hex owed code =>
    simp only [he] at h ⊢
    split at h
    · cases h
    · split at h
      · next howed => rw [if_pos howed, h]
      · next howed =>
        rw [if_neg howed]
        rw [map_eq_pure_bind] at h ⊢
        obtain ⟨pushed, hp, h⟩ := exists_ok_of_bind h
        rw [pushCode_of_strict hp]
        exact h

end Quoted

namespace Numeral

variable {n : Numeral}

theorem toDouble_of_strict {x : Number} (h : n.toDouble .strict = .ok x) : n.toDouble d = .ok x := by
  simp only [toDouble] at h ⊢
  generalize Double.ofDecimal _ _ _ = y at h ⊢
  cases hy : y.isFinite with
  | false => simp [hy, Dialect.strict] at h
  | true =>
    simp only [hy, Bool.true_or, if_true] at h ⊢
    exact h

theorem close_of_strict {closed : Number × Option Nat} (h : n.close .strict = .ok closed) :
    n.close d = .ok closed := by
  unfold close at h ⊢
  cases hp : n.part with
  | letter | sign =>
    simp only [hp] at h ⊢
    split at h
    · next hplaces => rw [if_pos hplaces, h]
    · next hplaces =>
      rw [if_neg hplaces]
      rw [map_eq_pure_bind] at h ⊢
      obtain ⟨x, hx, h⟩ := exists_ok_of_bind h
      rw [toDouble_of_strict hx]
      exact h
  | fraction | exponent =>
    simp only [hp] at h ⊢
    rw [map_eq_pure_bind] at h ⊢
    obtain ⟨x, hx, h⟩ := exists_ok_of_bind h
    rw [toDouble_of_strict hx]
    exact h
  | _ => simpa only [hp] using h

end Numeral

theorem word?_of_strict {word : List Char × Json} (h : word? .strict c = some word) : word? d c = some word := by
  unfold word? at h ⊢
  split at h <;> simp_all [Dialect.strict]

theorem beginValue_of_strict (h : beginValue .strict frames position c = .ok t) :
    beginValue d frames position c = .ok t := by
  unfold beginValue at h ⊢
  cases hw : word? .strict c with
  | some word =>
    rw [word?_of_strict hw]
    rw [hw] at h
    exact h
  | none =>
    -- No word begins, so a container, a text or a number does, in either dialect.
    simp only [hw] at h
    cases hdigit : Text.asciiDigit? c with
    | some v => simpa only [hdigit] using h
    | none => grind

/-- Where the strict dialect goes on, every dialect goes on in the same way. -/
theorem step_of_strict (h : step .strict position s c = .ok t) : step d position s c = .ok t := by
  cases s with
  | value frames mayClose =>
    simp only [step] at h ⊢
    split at h
    · next hc => rw [if_pos hc, h]
    · next hc =>
      rw [if_neg hc]
      split at h
      · exact h
      · exact beginValue_of_strict h
  | text frames q =>
    obtain ⟨progress, hq, h⟩ := exists_ok_of_bind h
    simp only [step, Quoted.step_of_strict hq]
    exact h
  | inName frames fields q =>
    obtain ⟨progress, hq, h⟩ := exists_ok_of_bind h
    simp only [step, Quoted.step_of_strict hq]
    exact h
  | number frames n =>
    have hword : ¬(n.part = .minus ∧ c = 'I' ∧ Dialect.strict.specialNumbers = true) := by
      rintro ⟨-, -, hspecial⟩
      cases hspecial
    simp only [step, if_neg hword] at h
    cases he : n.extend? position c with
    | some m =>
      have hspecial : ¬(n.part = .minus ∧ c = 'I' ∧ d.specialNumbers = true) := by
        rintro ⟨hpart, rfl, -⟩
        have hdigit : Text.asciiDigit? 'I' = none := rfl
        simp [Numeral.extend?, hpart, hdigit] at he
      simp only [he] at h
      simp only [step, if_neg hspecial, he]
      exact h
    | none =>
      simp only [he] at h
      obtain ⟨closed, hclosed, h⟩ := exists_ok_of_bind h
      have hminus : n.part ≠ .minus := by
        intro hpart
        simp [Numeral.close, hpart] at hclosed
      simp only [step, he, hminus, false_and, if_false, Numeral.close_of_strict hclosed]
      exact h
  | _ => exact h

theorem feed_of_strict {cs : List Char} (h : feed .strict position s cs = .ok t) :
    feed d position s cs = .ok t := by
  induction cs generalizing position s with
  | nil => exact h
  | cons c rest ih =>
    obtain ⟨mid, hstep, hrest⟩ := exists_ok_of_bind h
    simp only [feed, step_of_strict hstep]
    exact ih hrest

theorem close_of_strict (h : close .strict position s = .ok v) : close d position s = .ok v := by
  cases s with
  | number frames n =>
    obtain ⟨closed, hclosed, h⟩ := exists_ok_of_bind h
    simp only [close, Numeral.close_of_strict hclosed]
    exact h
  | after frames w => cases frames <;> exact h
  | word frames began owed w => cases owed <;> cases frames <;> exact h
  | _ => exact h

theorem readChars_of_strict {cs : List Char} (h : readChars .strict cs = .ok v) : readChars d cs = .ok v := by
  obtain ⟨t, hfeed, hclose⟩ := exists_ok_of_bind h
  simp only [readChars, feed_of_strict hfeed]
  exact close_of_strict hclose

/-- Where a front of a strictly readable text that opens with a container is readable too, in whatever dialect, only
white space follows it. -/
theorem blank_of_readChars_front {front back : List Char} {w : Json} (ho : opened? c = some k)
    (hwhole : readChars .strict (c :: front ++ back) = .ok w) (hfront : readChars d (c :: front) = .ok v) :
    ∀ b ∈ back, isSpace b = true := by
  obtain ⟨s, hfeed, -⟩ := exists_ok_of_bind hwhole
  rw [feed_append] at hfeed
  obtain ⟨mid, hmid, hback⟩ := exists_ok_of_bind hfeed
  obtain ⟨t, ht, hclose⟩ := exists_ok_of_bind hfront
  have hsame : t = mid := by
    rw [feed_of_strict hmid] at ht
    cases ht
    rfl
  subst hsame
  obtain ⟨rfl, -⟩ := (reading_of_feed ho hmid).close hclose
  exact blank_of_feed_after hback

end

end LiveSurface.Json
