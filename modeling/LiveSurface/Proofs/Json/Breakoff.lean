import LiveSurface.Proofs.Json.Fence
import LiveSurface.Proofs.Json.Outermost
/-!
# Where reading breaks off

A text that is no value is malformed, but for two reasons to refuse it: it opens one container more than `maxOpen`
inside one another, or it holds an integer of more than `maxDigits` digits before the point. Either is decided by a
front of the text: by the state that the machine is in after it, and by the character that follows. Malformed texts are
told with a position; the other two break the reader off, and not all of its callers expect that.

Results:
* `step_error_iff`, `close_error_iff`: in which states the machine breaks off.
* `readChars_error_iff`: so which texts break the reader off.
* `extractChars_breaks_iff`: which texts break off the search for a value in prose.
-/
namespace LiveSurface.Json

/-- The text is not well-formed at a position. -/
def ReadError.IsMalformed (e : ReadError) : Prop := ∃ fault position, e = .malformed fault position

section
variable {d : Dialect} {position : Nat} {frames : List Frame} {v : Json} {c : Char} {e : ReadError}

/-! ## Texts in quotes -/

namespace Quoted

variable {q : Quoted}

theorem settle_error (h : q.settle d position = .error e) : e.IsMalformed := by
  unfold settle at h
  split at h
  · cases h
  · split at h
    · cases h
    · cases h
      exact ⟨_, _, rfl⟩

theorem pushCode_error {code : Nat} (h : q.pushCode d position code = .error e) : e.IsMalformed := by
  unfold pushCode at h
  split at h
  · split at h
    · cases h
    · rcases error_of_bind h with h | ⟨r, -, h⟩
      · exact settle_error h
      · split at h <;> cases h
  · split at h
    · cases h
    · split at h
      · exact settle_error h
      · cases h

theorem step_error (h : q.step d position c = .error e) : e.IsMalformed := by
  unfold Quoted.step at h
  split at h
  · split at h
    · cases h
    · rcases error_of_bind h with h | ⟨r, -, h⟩
      · exact settle_error h
      · split at h
        · cases h
        · split at h
          · cases h
            exact ⟨_, _, rfl⟩
          · cases h
  · split at h
    · cases h
    · split at h
      · rcases error_of_bind h with h | ⟨r, -, h⟩
        · exact settle_error h
        · cases h
      · cases h
        exact ⟨_, _, rfl⟩
  · split at h
    · cases h
      exact ⟨_, _, rfl⟩
    · simp only at h
      split at h
      · cases h
      · exact pushCode_error (map_error_iff.mp h)

theorem isMalformed_endFault (q : Quoted) (position : Nat) : (q.endFault position).IsMalformed := by
  unfold endFault
  split <;> exact ⟨_, _, rfl⟩

end Quoted

/-! ## Numbers -/

namespace Numeral

variable {n : Numeral}

/-- The part of the number read so far that can be used is an integer, and it has too many digits. -/
def IsOverlong (n : Numeral) : Prop :=
  maxDigits < n.wholeDigits ∧
    match n.part with
    | .zero | .whole | .point => True
    | .letter | .sign => n.places = 0
    | .minus | .fraction | .exponent => False

theorem toInteger_error_iff : n.toInteger = .error e ↔
    maxDigits < n.wholeDigits ∧ e = .longNumeral (.text n.wholeDigits) := by
  unfold toInteger
  split
  · next hlong => simp [hlong, eq_comm]
  · next hlong => simp [hlong]

theorem toDouble_error (h : n.toDouble d = .error e) : e.IsMalformed := by
  simp only [toDouble] at h
  generalize Double.ofDecimal _ _ _ = x at h
  split at h
  · cases h
  · cases h
    exact ⟨_, _, rfl⟩

/-- Reading a number breaks off exactly if it is overlong. -/
theorem close_error_iff (he : ¬e.IsMalformed) :
    n.close d = .error e ↔ n.IsOverlong ∧ e = .longNumeral (.text n.wholeDigits) := by
  have hmalformed : ∀ {n' : Numeral}, n'.toDouble d ≠ .error e := fun h => he (toDouble_error h)
  unfold close IsOverlong
  cases n.part with
  | minus =>
    refine iff_of_false (fun h => ?_) fun h => h.1.2
    cases h
    exact he ⟨_, _, rfl⟩
  | zero | whole | point => simp only [map_error_iff, toInteger_error_iff, and_true]
  | letter | sign =>
    by_cases hplaces : n.places = 0
    · simp only [hplaces, if_true, map_error_iff, toInteger_error_iff, and_true]
    · simp only [hplaces, if_false, map_error_iff, and_false, false_and, hmalformed]
  | fraction | exponent => simp only [map_error_iff, and_false, false_and, hmalformed]

/-- Whether a character belongs to a number does not depend on where it stands. -/
theorem extend?_eq_none_iff (position' : Nat) : n.extend? position c = none ↔ n.extend? position' c = none := by
  unfold extend?
  split <;> grind

end Numeral

/-! ## The machine -/

theorem stepAfter_error (h : stepAfter frames v position c = .error e) : e.IsMalformed := by
  unfold stepAfter at h
  split at h
  · cases h
  · split at h
    · split at h
      · cases h
      · split at h
        · cases h
        · cases h
          exact ⟨_, _, rfl⟩
    · split at h
      · cases h
      · split at h
        · cases h
        · cases h
          exact ⟨_, _, rfl⟩
    · cases h
      exact ⟨_, _, rfl⟩

/-- The character that opens an array or an object. -/
def opener (array : Bool) : Char := if array then '[' else '\x7b'

/-- The machine breaks off in a state, with a rest of the text to come. -/
inductive BreaksOff : State → List Char → ReadError → Prop
  /-- As many containers are open as may be, and the rest opens another one. -/
  | tooDeep {frames : List Frame} {mayClose : Bool} {rest : List Char} (array : Bool) (h : maxOpen ≤ frames.length) :
    BreaksOff (.value frames mayClose) (opener array :: rest) (.tooDeep array)
  /-- An overlong integer ends where the rest begins. -/
  | longNumeral {frames : List Frame} {n : Numeral} {rest : List Char} (h : n.IsOverlong)
    (hend : ∀ c ∈ rest.head?, n.extend? 0 c = none) :
    BreaksOff (.number frames n) rest (.longNumeral (.text n.wholeDigits))

theorem breaksOff_value_iff {mayClose : Bool} {rest : List Char} :
    BreaksOff (.value frames mayClose) (c :: rest) e ↔
      ∃ array, maxOpen ≤ frames.length ∧ c = opener array ∧ e = .tooDeep array := by
  constructor
  · rintro ⟨array, hlen⟩
    exact ⟨array, hlen, rfl, rfl⟩
  · rintro ⟨array, hlen, rfl, rfl⟩
    exact .tooDeep array hlen

theorem breaksOff_number_iff {n : Numeral} {rest : List Char} :
    BreaksOff (.number frames n) rest e ↔
      (n.IsOverlong ∧ e = .longNumeral (.text n.wholeDigits)) ∧ ∀ c ∈ rest.head?, n.extend? 0 c = none := by
  constructor
  · rintro (_ | ⟨hlong, hend⟩)
    exact ⟨⟨hlong, rfl⟩, hend⟩
  · rintro ⟨⟨hlong, rfl⟩, hend⟩
    exact .longNumeral hlong hend

theorem beginValue_error_iff (he : ¬e.IsMalformed) : beginValue d frames position c = .error e ↔
    ∃ array, maxOpen ≤ frames.length ∧ c = opener array ∧ e = .tooDeep array := by
  constructor
  · intro h
    unfold beginValue at h
    split at h
    · cases h
    split at h
    · next hc =>
      unfold openContainer at h
      split at h
      · next hlen =>
        cases h
        exact ⟨true, hlen, hc, rfl⟩
      · cases h
    split at h
    · next hc =>
      unfold openContainer at h
      split at h
      · next hlen =>
        cases h
        exact ⟨false, hlen, hc, rfl⟩
      · cases h
    split at h
    · cases h
    split at h
    · cases h
    split at h
    · cases h
    · cases h
      exact absurd ⟨_, _, rfl⟩ he
  · rintro ⟨array, hlen, rfl, rfl⟩
    cases array <;> simp [beginValue, openContainer, opener, hlen]

/-- A step breaks off exactly in the states of `BreaksOff`. -/
theorem step_error_iff {s : State} {rest : List Char} (he : ¬e.IsMalformed) :
    step d position s c = .error e ↔ BreaksOff s (c :: rest) e := by
  cases s with
  | value frames mayClose =>
    rw [breaksOff_value_iff]
    simp only [step]
    split
    · next hspace =>
      refine iff_of_false (by rintro ⟨⟩) ?_
      rintro ⟨array, -, rfl, -⟩
      cases array <;> cases hspace
    · split
      · refine iff_of_false (by rintro ⟨⟩) ?_
        rintro ⟨array, -, hc, -⟩
        cases array <;> cases hc
      · exact beginValue_error_iff he
  | number frames n =>
    rw [breaksOff_number_iff]
    simp only [step]
    split
    · next hword =>
      refine iff_of_false (by rintro ⟨⟩) fun h => ?_
      have hlong := h.1.1.2
      rw [hword.1] at hlong
      exact hlong
    · cases hext : n.extend? position c with
      | some m =>
        refine iff_of_false (by rintro ⟨⟩) fun h => ?_
        rw [(Numeral.extend?_eq_none_iff 0).mpr (h.2 c rfl)] at hext
        cases hext
      | none =>
        have hend : ∀ b ∈ (c :: rest).head?, n.extend? 0 b = none := by
          rintro b ⟨⟩
          exact (Numeral.extend?_eq_none_iff 0).mp hext
        rw [and_iff_left hend, ← Numeral.close_error_iff he]
        constructor
        · intro h
          rcases error_of_bind h with h | ⟨⟨x, unread⟩, -, h⟩
          · exact h
          · cases unread with
            | none => exact absurd (stepAfter_error h) he
            | some unread =>
              cases h
              exact absurd ⟨_, _, rfl⟩ he
        · intro h
          simp only [h]
          rfl
  | after frames v => exact iff_of_false (fun h => he (stepAfter_error h)) (by rintro ⟨⟩)
  | name frames fields mayClose =>
    refine iff_of_false (fun h => ?_) (by rintro ⟨⟩)
    simp only [step] at h
    split at h
    · cases h
    split at h
    · cases h
    split at h
    · cases h
    · cases h
      exact he ⟨_, _, rfl⟩
  | colon frames fields name =>
    refine iff_of_false (fun h => ?_) (by rintro ⟨⟩)
    simp only [step] at h
    split at h
    · cases h
    split at h
    · cases h
    · cases h
      exact he ⟨_, _, rfl⟩
  | text frames q =>
    refine iff_of_false (fun h => ?_) (by rintro ⟨⟩)
    rcases error_of_bind h with h | ⟨progress, -, h⟩
    · exact he (Quoted.step_error h)
    · cases progress <;> cases h
  | inName frames fields q =>
    refine iff_of_false (fun h => ?_) (by rintro ⟨⟩)
    rcases error_of_bind h with h | ⟨progress, -, h⟩
    · exact he (Quoted.step_error h)
    · cases progress <;> cases h
  | word frames began owed v =>
    refine iff_of_false (fun h => ?_) (by rintro ⟨⟩)
    simp only [step] at h
    split at h
    · exact he (stepAfter_error h)
    · split at h
      · cases h
      · cases h
        exact he ⟨_, _, rfl⟩

/-- The end of a text breaks off exactly in the states of `BreaksOff`. -/
theorem close_error_iff {s : State} (he : ¬e.IsMalformed) :
    close d position s = .error e ↔ BreaksOff s [] e := by
  cases s with
  | number frames n =>
    have hend : ∀ c ∈ ([] : List Char).head?, n.extend? 0 c = none := by
      rintro c ⟨⟩
    rw [breaksOff_number_iff, and_iff_left hend, ← Numeral.close_error_iff he]
    constructor
    · intro h
      rcases error_of_bind h with h | ⟨⟨x, unread⟩, -, h⟩
      · exact h
      · refine absurd ?_ he
        cases unread with
        | some unread =>
          cases h
          exact ⟨_, _, rfl⟩
        | none =>
          cases frames with
          | nil => cases h
          | cons f outer =>
            cases h
            exact ⟨_, _, rfl⟩
    · intro h
      simp only [close, h]
      rfl
  | after frames v =>
    refine iff_of_false (fun h => ?_) (by rintro ⟨⟩)
    cases frames <;> cases h
    exact he ⟨_, _, rfl⟩
  | text frames q | inName frames fields q =>
    refine iff_of_false (fun h => ?_) (by rintro ⟨⟩)
    cases h
    exact he (q.isMalformed_endFault position)
  | word frames began owed v =>
    refine iff_of_false (fun h => ?_) (by rintro ⟨⟩)
    cases owed <;> cases frames <;> cases h <;> exact he ⟨_, _, rfl⟩
  | _ =>
    refine iff_of_false (fun h => ?_) (by rintro ⟨⟩)
    cases h
    exact he ⟨_, _, rfl⟩

theorem run_error_iff {s : State} {cs : List Char} (he : ¬e.IsMalformed) :
    (feed d position s cs >>= fun t => close d (position + cs.length) t) = .error e ↔
      ∃ front rest t, cs = front ++ rest ∧ feed d position s front = .ok t ∧ BreaksOff t rest e := by
  induction cs generalizing position s with
  | nil =>
    refine (close_error_iff he).trans ⟨fun h => ⟨[], [], s, rfl, rfl, h⟩, ?_⟩
    rintro ⟨front, rest, t, hcs, hfeed, h⟩
    obtain ⟨rfl, rfl⟩ := List.append_eq_nil_iff.mp hcs.symm
    cases hfeed
    exact h
  | cons c cs ih =>
    cases hstep : step d position s c with
    | error e' =>
      have hrun : (feed d position s (c :: cs) >>= fun t => close d (position + (c :: cs).length) t) = .error e' := by
        simp only [feed, hstep]
        rfl
      rw [hrun]
      constructor
      · rintro ⟨⟩
        exact ⟨[], c :: cs, s, rfl, rfl, (step_error_iff he).mp hstep⟩
      · rintro ⟨front, rest, t, hcs, hfeed, h⟩
        cases front with
        | nil =>
          obtain rfl : c :: cs = rest := hcs
          cases hfeed
          have hbreak : step d position s c = .error e := (step_error_iff he).mpr h
          rw [hstep] at hbreak
          cases hbreak
          rfl
        | cons b front =>
          obtain ⟨rfl, -⟩ := List.cons.inj hcs
          simp only [feed, hstep] at hfeed
          cases hfeed
    | ok mid =>
      have hfeed_cons : ∀ ds, feed d position s (c :: ds) = feed d (position + 1) mid ds := by
        intro ds
        simp only [feed, hstep]
        rfl
      have hlen : position + (c :: cs).length = position + 1 + cs.length := by
        rw [List.length_cons]
        omega
      rw [hfeed_cons, hlen, ih]
      constructor
      · rintro ⟨front, rest, t, rfl, hfeed, h⟩
        exact ⟨c :: front, rest, t, rfl, (hfeed_cons front).trans hfeed, h⟩
      · rintro ⟨front, rest, t, hcs, hfeed, h⟩
        cases front with
        | nil =>
          -- The machine went on at the first character, so it did not break off there.
          obtain rfl : c :: cs = rest := hcs
          cases hfeed
          have hbreak : step d position s c = .error e := (step_error_iff he).mpr h
          rw [hstep] at hbreak
          cases hbreak
        | cons b front =>
          obtain ⟨rfl, rfl⟩ := List.cons.inj hcs
          exact ⟨front, rest, t, rfl, (hfeed_cons front).symm.trans hfeed, h⟩

/-! ## Texts -/

/-- The machine breaks off after a front of a text. -/
def Breaks (d : Dialect) (cs : List Char) (e : ReadError) : Prop :=
  ∃ front rest s, cs = front ++ rest ∧ feed d 0 .start front = .ok s ∧ BreaksOff s rest e

/-- **Which texts break the reader off.** -/
theorem readChars_error_iff {cs : List Char} (he : ¬e.IsMalformed) : readChars d cs = .error e ↔ Breaks d cs e := by
  have hrun : readChars d cs = (feed d 0 .start cs >>= fun t => close d (0 + cs.length) t) := by
    rw [Nat.zero_add]
    rfl
  rw [hrun, run_error_iff he, Breaks]

theorem tooDeep_iff {cs : List Char} {array : Bool} :
    readChars d cs = .error (.tooDeep array) ↔ Breaks d cs (.tooDeep array) :=
  readChars_error_iff fun ⟨_, _, h⟩ => nomatch h

theorem longNumeral_iff {cs : List Char} {k : LongNumeral} :
    readChars d cs = .error (.longNumeral k) ↔ Breaks d cs (.longNumeral k) :=
  readChars_error_iff fun ⟨_, _, h⟩ => nomatch h

/-- Where the strict dialect breaks off, every dialect does. -/
theorem Breaks.of_strict {cs : List Char} (h : Breaks .strict cs e) : Breaks d cs e := by
  obtain ⟨front, rest, s, hcs, hfeed, hbreak⟩ := h
  exact ⟨front, rest, s, hcs, feed_of_strict hfeed, hbreak⟩

end

/-! ## Values in prose -/

section
variable {cs part : List Char} {k : LongNumeral}

theorem decodeCut_overflow_iff :
    decodeCut false part = .error .overflow ↔ ∃ array, Breaks .strict part (.tooDeep array) := by
  simp only [← tooDeep_iff]
  unfold decodeCut readCut
  cases hs : readChars .strict part with
  | ok v => simp
  | error e =>
    cases e with
    | tooDeep array => simp
    | _ => cases readChars .lenient part with
      | ok v => simp
      | error e => cases e <;> simp

/-- Of a text with an overlong integer, the strict dialect does not break off elsewhere. -/
theorem decodeCut_longNumeral_iff :
    decodeCut false part = .error (.longNumeral k) ↔ Breaks .lenient part (.longNumeral k) := by
  rw [← longNumeral_iff]
  unfold decodeCut readCut
  cases hs : readChars .strict part with
  | ok v => simp [readChars_of_strict hs]
  | error e =>
    cases e with
    | tooDeep array =>
      have hl : readChars .lenient part = .error (.tooDeep array) := tooDeep_iff.mpr (tooDeep_iff.mp hs).of_strict
      simp [hl]
    | _ => cases readChars .lenient part with
      | ok v => simp
      | error e => cases e <;> simp

/-- The search for a value in a text breaks off: the text opens too many containers, or it is no value, and what is cut
from it opens too many or holds an overlong integer. -/
def BreaksSearch (cs : List Char) : Prop :=
  (∃ array, Breaks .strict cs (.tooDeep array)) ∨
    (¬∃ v, readChars .strict cs = .ok v) ∧ ∃ part, cut? cs = some part ∧
      ((∃ array, Breaks .strict part (.tooDeep array)) ∨ ∃ k, Breaks .lenient part (.longNumeral k))

/-- **Which texts break off the search for a value.** -/
theorem extractChars_breaks_iff :
    (extractChars false cs = .error .overflow ∨ ∃ k, extractChars false cs = .error (.longNumeral k)) ↔
      BreaksSearch cs := by
  have hdeep : (∃ array, Breaks .strict cs (.tooDeep array)) ↔
      ∃ array, readChars .strict cs = .error (.tooDeep array) := by
    simp only [tooDeep_iff]
  unfold BreaksSearch extractChars
  rw [hdeep]
  by_cases hne : cs = []
  · subst hne
    have hs : readChars .strict [] = .error (.malformed .noValue 0) := rfl
    have hcut : cut? [] = none := rfl
    simp [hs, hcut]
  · rw [if_neg hne]
    have hpart : ∀ part,
        (decodeCut false part = .error .overflow ∨ ∃ k, decodeCut false part = .error (.longNumeral k)) ↔
          (∃ array, Breaks .strict part (.tooDeep array)) ∨ ∃ k, Breaks .lenient part (.longNumeral k) := by
      intro part
      simp only [decodeCut_overflow_iff, decodeCut_longNumeral_iff]
    cases hs : readChars .strict cs with
    | ok v => simp
    | error e =>
      cases e with
      | tooDeep array => simp
      | malformed fault position =>
        cases hcut : cut? cs with
        | none => simp
        | some part => simp [hpart]
      | longNumeral k =>
        cases hcut : cut? cs with
        | none => simp
        | some part => simp [hpart]

/-! ## Texts in brackets -/

theorem getLast?_of_brackets (inner : List Char) : ('[' :: (inner ++ [']'])).getLast? = some ']' := by
  rw [← List.cons_append]
  exact List.getLast?_concat

/-- What is cut from a text in brackets is the text. -/
theorem cut?_of_brackets (inner : List Char) : cut? ('[' :: (inner ++ [']'])) = some ('[' :: (inner ++ [']'])) := by
  have hcut : cut? ([] ++ '[' :: (inner ++ [']']) ++ []) = some ('[' :: (inner ++ [']'])) :=
    cut?_around rfl (getLast?_of_brackets inner) List.not_mem_nil List.not_mem_nil
  simpa using hcut

/-- Nothing is stripped from a text in brackets. -/
theorem stripFenceChars_of_brackets (inner : List Char) :
    stripFenceChars ('[' :: (inner ++ [']'])) = '[' :: (inner ++ [']']) := by
  have hopen : IsInk '[' := by decide
  have hclose : IsInk ']' := by decide
  exact stripFenceChars_eq_self ⟨'[', rfl, hopen⟩ ⟨']', getLast?_of_brackets inner, hclose⟩

/-- A text in brackets breaks off the search if it breaks off one of the readers. -/
theorem breaksSearch_of_brackets {inner : List Char} (h : Breaks .lenient ('[' :: (inner ++ [']'])) (.longNumeral k)) :
    BreaksSearch (stripFenceChars ('[' :: (inner ++ [']']))) := by
  rw [stripFenceChars_of_brackets]
  refine .inr ⟨?_, _, cut?_of_brackets inner, .inr ⟨k, h⟩⟩
  rintro ⟨v, hv⟩
  have hl := longNumeral_iff.mpr h
  rw [readChars_of_strict hv] at hl
  cases hl

/-- The digits of an integer are read one after the other. -/
theorem feed_digits {d : Dialect} {frames : List Frame} {n : Numeral} (hn : n.part = .whole) {ds : List Char}
    (hds : ∀ c ∈ ds, (Text.asciiDigit? c).isSome) (position : Nat) :
    ∃ m, feed d position (.number frames n) ds = .ok (.number frames m) ∧ m.part = .whole ∧
      m.wholeDigits = n.wholeDigits + ds.length := by
  induction ds generalizing position n with
  | nil => exact ⟨n, rfl, hn, rfl⟩
  | cons c rest ih =>
    obtain ⟨hc, hrest⟩ := List.forall_mem_cons.mp hds
    obtain ⟨v, hv⟩ := Option.isSome_iff_exists.mp hc
    let next : Numeral := { n with digits := n.digits * 10 + v, wholeDigits := n.wholeDigits + 1 }
    have hnext : n.extend? position c = some next := by simp [Numeral.extend?, hn, hv, next]
    have hstep : step d position (.number frames n) c = .ok (.number frames next) := by
      have hword : ¬(n.part = .minus ∧ c = 'I' ∧ d.specialNumbers = true) := by simp [hn]
      simp only [step, if_neg hword, hnext]
    have hpart : next.part = .whole := hn
    obtain ⟨m, hm, hmpart, hlen⟩ := ih hpart hrest (position + 1)
    refine ⟨m, ?_, hmpart, ?_⟩
    · simp only [feed, hstep]
      exact hm
    · have hone : next.wholeDigits = n.wholeDigits + 1 := rfl
      rw [hlen, hone, List.length_cons]
      omega

/-- The digits of an integer that has one too many. -/
def overlongDigits : List Char := '1' :: List.replicate maxDigits '1'

theorem length_overlongDigits : overlongDigits.length = maxDigits + 1 := by
  rw [overlongDigits, List.length_cons, List.length_replicate]

theorem breaks_overlongDigits (d : Dialect) :
    Breaks d ('[' :: (overlongDigits ++ [']'])) (.longNumeral (.text (1 + maxDigits))) := by
  have hpart : (Numeral.ofDigit 1 1).part = .whole := rfl
  have hdigits : ∀ c ∈ List.replicate maxDigits '1', (Text.asciiDigit? c).isSome := by
    intro c hc
    rw [List.eq_of_mem_replicate hc]
    rfl
  obtain ⟨m, hm, hmpart, hlen⟩ := feed_digits hpart hdigits 2
  rw [List.length_replicate] at hlen
  have hlong : m.IsOverlong := by
    refine ⟨?_, ?_⟩
    · rw [hlen]
      exact Nat.lt_add_of_pos_left Nat.one_pos
    · rw [hmpart]
      trivial
  have hbegin : ∀ rest, feed d 0 .start ('[' :: '1' :: rest) = feed d 2 (.number [.items []] (.ofDigit 1 1)) rest :=
    fun rest => rfl
  have hend : m.extend? 0 ']' = none := by
    have hdigit : Text.asciiDigit? ']' = none := rfl
    simp [Numeral.extend?, hmpart, hdigit]
  have hone : 1 + maxDigits = m.wholeDigits := hlen.symm
  rw [hone]
  refine ⟨'[' :: overlongDigits, [']'], .number [.items []] m, rfl, (hbegin _).trans hm, .longNumeral hlong ?_⟩
  rintro c ⟨⟩
  exact hend

end

end LiveSurface.Json
