import LiveSurface.Json.Reader
import LiveSurface.Json.Writer
import LiveSurface.Proofs.Json.Outermost
/-!
# Which values can be written

A value can be written unless it holds an integer of more than `maxDigits` digits. The reader refuses such integers, so
that whatever it reads can be written again. While it reads, everything that waits in the open containers can be
written, and a number that is being read is less than the power of ten for the digits that it has so far.

Results:
* `allInts_imp`, `compact_error_iff`: a weaker condition on integers, and which values have no compact text.
* `State.IsWritable.step`, `State.IsWritable.feed`: what the machine holds stays writable along a run.
* `isWritable_of_readChars`: what is read can be written.
-/
namespace LiveSurface.Json

/-! ## Conditions on integers -/

theorem allItemInts_iff {p : Int → Bool} {items : List Json} :
    allItemInts p items = true ↔ ∀ v ∈ items, v.allInts p = true := by
  induction items with
  | nil => simp [allItemInts]
  | cons v rest ih => simp [allItemInts, ih]

theorem allFieldInts_iff {p : Int → Bool} {fields : List (Key × Json)} :
    allFieldInts p fields = true ↔ ∀ e ∈ fields, e.2.allInts p = true := by
  induction fields with
  | nil => simp [allFieldInts]
  | cons e rest ih => simp [allFieldInts, ih]

/-- What has only integers of one kind has only integers of a wider one. -/
theorem allInts_imp {p q : Int → Bool} (hpq : ∀ n, p n = true → q n = true) (v : Json) (h : v.allInts p = true) :
    v.allInts q = true := by
  induction v with
  | null | bool | str => rfl
  | num n =>
    cases n with
    | int n => exact hpq n h
    | double => rfl
  | arr items ih =>
    rw [allInts, allItemInts_iff] at h ⊢
    exact fun v hv => ih v hv (h v hv)
  | obj fields ih =>
    rw [allInts, allFieldInts_iff] at h ⊢
    exact fun e he => ih e he (h e he)

/-- What the fast style writes can be written. -/
theorem isWritable_of_isFast {v : Json} (h : v.isFast = true) : v.isWritable = true := by
  rw [isFast, Bool.and_eq_true] at h
  refine allInts_imp (fun n hn => ?_) v h.1
  have hlarge : pow2 64 < pow10 maxDigits := by decide +kernel
  have hhalf : pow2 63 ≤ pow2 64 := by decide
  simp only [Bool.and_eq_true, decide_eq_true_eq] at hn
  simp only [isWritableInt, decide_eq_true_eq]
  omega

namespace Numeral

/-- The digits of a number that is being read make up no more than they can, and none of them stand after the point
before there is one. -/
structure IsBounded (n : Numeral) : Prop where
  digits_lt : n.digits < pow10 (n.wholeDigits + n.places)
  places_eq : n.part = .minus ∨ n.part = .zero ∨ n.part = .whole ∨ n.part = .point → n.places = 0

variable {d : Dialect} {position : Nat} {c : Char} {n m : Numeral}

theorem asciiDigit?_lt {v : Nat} (h : Text.asciiDigit? c = some v) : v < 10 := by
  unfold Text.asciiDigit? at h
  split at h
  · cases h
    omega
  · cases h

/-- One more digit, and one more factor of ten. -/
theorem lt_pow10_of_digit {digits k v : Nat} (h : digits < pow10 k) (hv : v < 10) :
    digits * 10 + v < pow10 (k + 1) := by
  rw [pow10_succ]
  omega

theorem isBounded_ofMinus : (ofMinus position).IsBounded := ⟨pow10_pos 0, fun _ => rfl⟩

theorem isBounded_firstDigit (hn : n.places = 0) {v : Nat} (hv : v < 10) : (n.firstDigit v).IsBounded := by
  refine ⟨?_, fun _ => hn⟩
  rw [firstDigit, hn]
  exact hv

theorem isBounded_ofDigit {v : Nat} (hv : v < 10) : (ofDigit position v).IsBounded := isBounded_firstDigit rfl hv

theorem IsBounded.extend? (hn : n.IsBounded) (h : n.extend? position c = some m) : m.IsBounded := by
  obtain ⟨hdigits, hplaces⟩ := hn
  unfold Numeral.extend? at h
  split at h
  · next v hpart hv =>
    cases h
    exact isBounded_firstDigit (hplaces (.inl hpart)) (asciiDigit?_lt hv)
  · next v hpart hv =>
    cases h
    refine ⟨?_, fun _ => hplaces (by simp [hpart])⟩
    rw [Nat.add_right_comm]
    exact lt_pow10_of_digit hdigits (asciiDigit?_lt hv)
  · next v hpart hv =>
    cases h
    exact ⟨lt_pow10_of_digit hdigits (asciiDigit?_lt hv), by simp⟩
  · next v hpart hv =>
    cases h
    exact ⟨lt_pow10_of_digit hdigits (asciiDigit?_lt hv), by simp⟩
  · cases h
    exact ⟨hdigits, by simp⟩
  · cases h
    exact ⟨hdigits, by simp⟩
  · cases h
    exact ⟨hdigits, by simp⟩
  · cases h
  · simp only at h
    split at h
    · next hpoint =>
      cases h
      refine ⟨hdigits, fun _ => hplaces ?_⟩
      rcases hpoint.2 with hpart | hpart <;> simp [hpart]
    · split at h
      · cases h
        exact ⟨hdigits, by simp⟩
      · split at h
        · cases h
          exact ⟨hdigits, by simp⟩
        · cases h

theorem IsBounded.toInteger (hn : n.IsBounded) (hplaces : n.places = 0) {x : Number}
    (h : n.toInteger = .ok x) : (Json.num x).isWritable = true := by
  unfold Numeral.toInteger at h
  split at h
  · cases h
  · next hlen =>
    cases h
    have hlt := hn.digits_lt
    have hpow : pow10 n.wholeDigits ≤ pow10 maxDigits := pow10_le (Nat.le_of_not_lt hlen)
    rw [hplaces, Nat.add_zero] at hlt
    simp only [isWritable, allInts, isWritableInt, decide_eq_true_eq]
    split <;> omega

theorem isWritable_of_toDouble {x : Number} (h : n.toDouble d = .ok x) : (Json.num x).isWritable = true := by
  simp only [toDouble] at h
  generalize Double.ofDecimal _ _ _ = y at h
  split at h
  · cases h
    rfl
  · cases h

theorem IsBounded.close (hn : n.IsBounded) {x : Number} {unread : Option Nat}
    (h : n.close d = .ok (x, unread)) : (Json.num x).isWritable = true := by
  unfold Numeral.close at h
  cases hpart : n.part with
  | minus =>
    rw [hpart] at h
    cases h
  | zero | whole | point =>
    simp only [hpart, map_eq_pure_bind] at h
    obtain ⟨y, hy, h⟩ := exists_ok_of_bind h
    cases h
    exact hn.toInteger (hn.places_eq (by simp [hpart])) hy
  | letter | sign =>
    simp only [hpart] at h
    split at h
    · next hplaces =>
      rw [map_eq_pure_bind] at h
      obtain ⟨y, hy, h⟩ := exists_ok_of_bind h
      cases h
      exact hn.toInteger hplaces hy
    · rw [map_eq_pure_bind] at h
      obtain ⟨y, hy, h⟩ := exists_ok_of_bind h
      cases h
      exact isWritable_of_toDouble hy
  | fraction | exponent =>
    simp only [hpart, map_eq_pure_bind] at h
    obtain ⟨y, hy, h⟩ := exists_ok_of_bind h
    cases h
    exact isWritable_of_toDouble hy

end Numeral

/-! ## The machine -/

/-- What waits in a container can be written. -/
def Frame.IsWritable : Frame → Prop
  | .items before => ∀ v ∈ before, v.isWritable = true
  | .field before _ => ∀ e ∈ before, e.2.isWritable = true

/-- All that the machine holds can be written. -/
def State.IsWritable : State → Prop
  | .value frames _ | .text frames _ => ∀ f ∈ frames, f.IsWritable
  | .after frames v | .word frames _ _ v => (∀ f ∈ frames, f.IsWritable) ∧ v.isWritable = true
  | .name frames fields _ | .colon frames fields _ | .inName frames fields _ =>
    (∀ f ∈ frames, f.IsWritable) ∧ ∀ e ∈ fields, e.2.isWritable = true
  | .number frames n => (∀ f ∈ frames, f.IsWritable) ∧ n.IsBounded

section
variable {d : Dialect} {position : Nat} {frames : List Frame} {s t : State} {v : Json} {c : Char}

theorem isWritable_arr {items : List Json} (h : ∀ v ∈ items, v.isWritable = true) :
    (Json.arr items).isWritable = true := allItemInts_iff.mpr h

theorem isWritable_obj {fields : Fields} (h : ∀ e ∈ fields, e.2.isWritable = true) :
    (Json.obj fields).isWritable = true := allFieldInts_iff.mpr h

theorem isWritable_put {fields : Fields} (h : ∀ e ∈ fields, e.2.isWritable = true) (hv : v.isWritable = true)
    (key : Key) : ∀ e ∈ fields.put key v, e.2.isWritable = true := by
  intro e he
  rcases Entries.mem_put he with he | rfl
  · exact h e he
  · exact hv

theorem isWritable_stepAfter (hf : ∀ f ∈ frames, f.IsWritable) (hv : v.isWritable = true)
    (h : stepAfter frames v position c = .ok t) : t.IsWritable := by
  unfold stepAfter at h
  split at h
  · cases h
    exact ⟨hf, hv⟩
  split at h
  · next before outer =>
    obtain ⟨hbefore, houter⟩ := List.forall_mem_cons.mp hf
    have hitems : ∀ w ∈ v :: before, w.isWritable = true := List.forall_mem_cons.mpr ⟨hv, hbefore⟩
    split at h
    · cases h
      exact List.forall_mem_cons.mpr ⟨hitems, houter⟩
    split at h
    · cases h
      exact ⟨houter, isWritable_arr fun w hw => hitems w (List.mem_reverse.mp hw)⟩
    · cases h
  · next before key outer =>
    obtain ⟨hbefore, houter⟩ := List.forall_mem_cons.mp hf
    have hfields := isWritable_put hbefore hv key
    split at h
    · cases h
      exact ⟨houter, hfields⟩
    split at h
    · cases h
      exact ⟨houter, isWritable_obj hfields⟩
    · cases h
  · cases h

theorem isWritable_openContainer {array : Bool} (hf : ∀ f ∈ frames, f.IsWritable)
    (h : openContainer frames array = .ok t) : t.IsWritable := by
  unfold openContainer at h
  split at h
  · cases h
  split at h
  · cases h
    exact List.forall_mem_cons.mpr ⟨(fun _ hv => nomatch hv), hf⟩
  · cases h
    exact ⟨hf, fun _ he => nomatch he⟩

theorem isWritable_word? {owed : List Char} (h : word? d c = some (owed, v)) : v.isWritable = true := by
  unfold word? at h
  split at h
  · cases h
    rfl
  · cases h
    rfl
  · cases h
    rfl
  · split at h <;> cases h
    rfl
  · split at h <;> cases h
    rfl
  · cases h

theorem isWritable_beginValue (hf : ∀ f ∈ frames, f.IsWritable)
    (h : beginValue d frames position c = .ok t) : t.IsWritable := by
  unfold beginValue at h
  split at h
  · cases h
    exact hf
  split at h
  · exact isWritable_openContainer hf h
  split at h
  · exact isWritable_openContainer hf h
  split at h
  · cases h
    exact ⟨hf, Numeral.isBounded_ofMinus⟩
  split at h
  · next v hv =>
    cases h
    exact ⟨hf, Numeral.isBounded_ofDigit (Numeral.asciiDigit?_lt hv)⟩
  split at h
  · next owed v hword =>
    cases h
    exact ⟨hf, isWritable_word? hword⟩
  · cases h

/-- One character leaves all that the machine holds writable. -/
theorem State.IsWritable.step (hs : s.IsWritable) (h : Json.step d position s c = .ok t) : t.IsWritable := by
  cases s with
  | value frames mayClose =>
    simp only [Json.step] at h
    split at h
    · cases h
      exact hs
    split at h
    · cases h
      exact ⟨(List.forall_mem_cons.mp hs).2, rfl⟩
    · exact isWritable_beginValue hs h
  | after frames v => exact isWritable_stepAfter hs.1 hs.2 h
  | name frames fields mayClose =>
    simp only [Json.step] at h
    split at h
    · cases h
      exact hs
    split at h
    · cases h
      exact hs
    split at h
    · cases h
      exact ⟨hs.1, isWritable_obj hs.2⟩
    · cases h
  | colon frames fields name =>
    simp only [Json.step] at h
    split at h
    · cases h
      exact hs
    split at h
    · cases h
      exact List.forall_mem_cons.mpr ⟨hs.2, hs.1⟩
    · cases h
  | text frames q =>
    obtain ⟨progress, -, h⟩ := exists_ok_of_bind h
    cases progress with
    | more q =>
      cases h
      exact hs
    | closed q =>
      cases h
      exact ⟨hs, rfl⟩
  | inName frames fields q =>
    obtain ⟨progress, -, h⟩ := exists_ok_of_bind h
    cases progress <;> cases h <;> exact hs
  | number frames n =>
    simp only [Json.step] at h
    split at h
    · cases h
      exact ⟨hs.1, rfl⟩
    split at h
    · next m hm =>
      cases h
      exact ⟨hs.1, hs.2.extend? hm⟩
    · obtain ⟨⟨x, unread⟩, hx, h⟩ := exists_ok_of_bind h
      cases unread with
      | none => exact isWritable_stepAfter hs.1 (hs.2.close hx) h
      | some unread => cases h
  | word frames began owed v =>
    simp only [Json.step] at h
    split at h
    · exact isWritable_stepAfter hs.1 hs.2 h
    · split at h
      · cases h
        exact hs
      · cases h

theorem State.IsWritable.feed {cs : List Char} (hs : s.IsWritable) (h : Json.feed d position s cs = .ok t) :
    t.IsWritable := by
  induction cs generalizing position s with
  | nil =>
    cases h
    exact hs
  | cons c rest ih =>
    obtain ⟨mid, hstep, hrest⟩ := exists_ok_of_bind h
    exact ih (hs.step hstep) hrest

theorem State.IsWritable.close (hs : s.IsWritable) (h : Json.close d position s = .ok v) : v.isWritable = true := by
  cases s with
  | after frames w =>
    cases frames with
    | nil =>
      cases h
      exact hs.2
    | cons f outer => cases h
  | number frames n =>
    obtain ⟨⟨x, unread⟩, hx, h⟩ := exists_ok_of_bind h
    cases unread with
    | some unread => cases h
    | none =>
      cases frames with
      | nil =>
        cases h
        exact hs.2.close hx
      | cons f outer => cases h
  | word frames began owed w =>
    cases owed <;> cases frames <;> cases h
    exact hs.2
  | _ => cases h

/-- **What is read can be written.** -/
theorem isWritable_of_readChars {cs : List Char} (h : readChars d cs = .ok v) : v.isWritable = true := by
  obtain ⟨s, hfeed, hclose⟩ := exists_ok_of_bind h
  have hstart : State.start.IsWritable := fun _ hf => nomatch hf
  exact (hstart.feed hfeed).close hclose

end

end LiveSurface.Json
