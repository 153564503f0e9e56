import LiveSurface.Json.Writer
import LiveSurface.Proofs.Json.Outermost
import Mathlib.Tactic.SplitIfs
/-!
# Reading on

`State.Reads` says that from a state of the machine the rest of a text is read as some value, wherever in the text the
rest stands. It is shown from the end of the text to its front: a state reads a text if its first character leads to a
state that reads the others.

This module does so for the parts of a text that have no parts themselves. In front of a written text, word or integer
the machine awaits a value, and behind it the value has ended; if the machine reads the rest from there, it reads the
whole from here. An integer is a case of its own, since no character of it is the last: what follows must bound it.

Results:
* `State.Reads.skip`: white space between the parts.
* `reads_quote_value`, `reads_quote_name`: what was written in quotes is read as a text, and as a name.
* `reads_word`, `reads_intChars`: words, and integers that are not too long.
-/
namespace LiveSurface.Json

section
variable {d : Dialect} {s t : State} {frames outer : List Frame} {cs : List Char} {c : Char} {u v : Json}

/-- From the state, the characters are read as the value, wherever in a text they stand. -/
def State.Reads (d : Dialect) (s : State) (cs : List Char) (v : Json) : Prop :=
  ∀ position, (feed d position s cs >>= fun t => close d (position + cs.length) t) = .ok v

theorem readChars_of_reads (h : State.start.Reads d cs v) : readChars d cs = .ok v := by
  have hread := h 0
  rw [Nat.zero_add] at hread
  exact hread

theorem State.Reads.cons (h : ∀ position, ∃ t, step d position s c = .ok t ∧ t.Reads d cs v) :
    s.Reads d (c :: cs) v := by
  intro position
  obtain ⟨t, hstep, ht⟩ := h position
  have hlen : position + (c :: cs).length = position + 1 + cs.length := by
    rw [List.length_cons]
    omega
  simp only [feed, hstep, hlen]
  exact ht (position + 1)

/-- A state reads what another state reads that behaves alike at the first character, and at the end. -/
theorem State.Reads.of_alike (h : t.Reads d cs v)
    (hstep : ∀ c ∈ cs.head?, ∀ position, step d position s c = step d position t c)
    (hclose : ∀ position w, close d position t = .ok w → close d position s = .ok w) : s.Reads d cs v := by
  intro position
  cases cs with
  | nil => exact hclose _ _ (h position)
  | cons c rest =>
    have hfirst := hstep c rfl position
    simp only [feed, hfirst]
    exact h position

/-! ## Blanks -/

/-- White space leaves the state as it is. -/
def State.Waits (d : Dialect) (s : State) : Prop := ∀ position c, isSpace c = true → step d position s c = .ok s

theorem waits_value (frames : List Frame) (mayClose : Bool) : (State.value frames mayClose).Waits d :=
  fun _ _ h => by simp [step, h]

theorem waits_after (frames : List Frame) (v : Json) : (State.after frames v).Waits d :=
  fun _ _ h => by simp [step, stepAfter, h]

theorem waits_name (frames : List Frame) (fields : Fields) (mayClose : Bool) :
    (State.name frames fields mayClose).Waits d :=
  fun _ _ h => by simp [step, h]

theorem State.Reads.skip {blanks : List Char} (h : s.Reads d cs v) (hs : s.Waits d)
    (hb : ∀ c ∈ blanks, isSpace c = true) : s.Reads d (blanks ++ cs) v := by
  induction blanks with
  | nil => exact h
  | cons b blanks ih =>
    obtain ⟨hb, hrest⟩ := List.forall_mem_cons.mp hb
    exact .cons fun position => ⟨s, hs position b hb, ih hrest⟩

theorem isSpace_of_mem_lineBreak (style : Style) (level : Nat) : ∀ c ∈ style.lineBreak level, isSpace c = true := by
  unfold Style.lineBreak
  split
  · exact fun _ hc => nomatch hc
  · refine List.forall_mem_cons.mpr ⟨rfl, fun c hc => ?_⟩
    rw [List.eq_of_mem_replicate hc]
    rfl

theorem exists_comma_eq (style : Style) (level : Nat) :
    ∃ blanks, style.comma level = ',' :: blanks ∧ ∀ c ∈ blanks, isSpace c = true := by
  unfold Style.comma
  split
  · split
    · exact ⟨[' '], rfl, List.forall_mem_singleton.mpr rfl⟩
    · exact ⟨[], rfl, List.forall_mem_nil _⟩
  · exact ⟨style.lineBreak level, rfl, isSpace_of_mem_lineBreak style level⟩

theorem exists_colon_eq (style : Style) :
    ∃ blanks, style.colon = ':' :: blanks ∧ ∀ c ∈ blanks, isSpace c = true := by
  unfold Style.colon
  split
  · exact ⟨[' '], rfl, List.forall_mem_singleton.mpr rfl⟩
  · exact ⟨[], rfl, List.forall_mem_nil _⟩

/-! ## Texts in quotes -/

namespace Quoted

/-- The states in which a text in quotes is read, and those that follow its closing quote. -/
def Carries (d : Dialect) (inside ended : Quoted → State) : Prop :=
  ∀ position q c, Json.step d position (inside q) c =
    (q.step d position c >>= fun | .more r => .ok (inside r) | .closed r => .ok (ended r))

variable {inside ended : Quoted → State} {opened : Nat} {chars : List Char}

theorem Carries.more {q r : Quoted} (hc : Carries d inside ended) (hq : ∀ position, q.step d position c = .ok (.more r))
    (h : (inside r).Reads d cs v) : (inside q).Reads d (c :: cs) v :=
  .cons fun position => ⟨inside r, by rw [hc, hq]; rfl, h⟩

theorem Carries.closed {q : Quoted} (hc : Carries d inside ended)
    (hq : ∀ position, q.step d position c = .ok (.closed q)) (h : (ended q).Reads d cs v) : (inside q).Reads d (c :: cs) v :=
  .cons fun position => ⟨ended q, by rw [hc, hq]; rfl, h⟩

/-- An escape of one letter is read as its character. -/
theorem Carries.letter {e : Char} (hc : Carries d inside ended) (he : escaped? e = some c)
    (h : (inside { opened, chars := c :: chars }).Reads d cs v) :
    (inside { opened, chars }).Reads d ('\\' :: e :: cs) v := by
  have hu : e ≠ 'u' := by
    rintro rfl
    cases he
  have hletter : ∀ position, step d position { opened, chars, escape := .begun } e =
      .ok (.more { opened, chars := c :: chars }) := by
    intro position
    simp only [step, if_neg hu, he]
    rfl
  exact hc.more (fun _ => rfl) (hc.more hletter h)

theorem hexValue?_hexDigit : ∀ n < 16, hexValue? (hexDigit n) = some n := by decide

/-- An escape of four digits is read as the control character with that code. -/
theorem Carries.code (hc : Carries d inside ended) (hcontrol : c.toNat < 0x20)
    (h : (inside { opened, chars := c :: chars }).Reads d cs v) :
    (inside { opened, chars }).Reads d
      ('\\' :: 'u' :: '0' :: '0' :: hexDigit (c.toNat / 16) :: hexDigit (c.toNat % 16) :: cs) v := by
  have hhigh : hexValue? (hexDigit (c.toNat / 16)) = some (c.toNat / 16) := hexValue?_hexDigit _ (by omega)
  have hlow : hexValue? (hexDigit (c.toNat % 16)) = some (c.toNat % 16) := hexValue?_hexDigit _ (by omega)
  have hcode : c.toNat / 16 * 16 + c.toNat % 16 = c.toNat := by omega
  have hthird : ∀ position, step d position { opened, chars, escape := .hex 2 0 } (hexDigit (c.toNat / 16)) =
      .ok (.more { opened, chars, escape := .hex 1 (c.toNat / 16) }) := by
    intro position
    simp [step, hhigh]
  have hfourth : ∀ position, step d position { opened, chars, escape := .hex 1 (c.toNat / 16) }
      (hexDigit (c.toNat % 16)) = .ok (.more { opened, chars := c :: chars }) := by
    intro position
    have hbelow : ¬(0xD800 ≤ c.toNat ∧ c.toNat ≤ 0xDBFF) ∧ ¬(0xDC00 ≤ c.toNat ∧ c.toNat ≤ 0xDFFF) := by omega
    simp only [step, hlow, hcode, pushCode, if_neg hbelow.1, if_neg hbelow.2, Char.ofNat_toNat]
    rfl
  exact hc.more (fun _ => rfl) <| hc.more (fun _ => rfl) <| hc.more (fun _ => rfl) <| hc.more (fun _ => rfl) <|
    hc.more hthird <| hc.more hfourth h

/-- A written character is read as the character. -/
theorem Carries.escape (hc : Carries d inside ended) (c : Char)
    (h : (inside { opened, chars := c :: chars }).Reads d cs v) :
    (inside { opened, chars }).Reads d (Json.escape c ++ cs) v := by
  unfold Json.escape
  split_ifs with hquote hbackslash hnewline hreturn htab hback hfeed hcontrol
  · subst hquote
    exact hc.letter rfl h
  · subst hbackslash
    exact hc.letter rfl h
  · subst hnewline
    exact hc.letter rfl h
  · subst hreturn
    exact hc.letter rfl h
  · subst htab
    exact hc.letter rfl h
  · subst hback
    exact hc.letter rfl h
  · subst hfeed
    exact hc.letter rfl h
  · exact hc.code hcontrol h
  · have hplain : ∀ position, step d position { opened, chars } c = .ok (.more { opened, chars := c :: chars }) := by
      intro position
      simp only [step, if_neg hbackslash, if_neg hquote, if_neg hcontrol]
      rfl
    exact hc.more hplain h

theorem Carries.text (hc : Carries d inside ended) (text : List Char)
    (h : (ended { opened, chars := text.reverse ++ chars }).Reads d cs v) :
    (inside { opened, chars }).Reads d (text.flatMap Json.escape ++ '"' :: cs) v := by
  induction text generalizing chars with
  | nil => exact hc.closed (fun _ => rfl) h
  | cons c text ih =>
    rw [List.flatMap_cons, List.append_assoc]
    refine hc.escape c (ih ?_)
    simpa using h

end Quoted

theorem reads_quote_value {mayClose : Bool} {text : String} (h : (State.after frames (.str text)).Reads d cs v) :
    (State.value frames mayClose).Reads d (quote text ++ cs) v := by
  have hc : Quoted.Carries d (.text frames) fun q => .after frames (.str q.text) := fun _ _ _ => rfl
  rw [quote, List.cons_append, List.append_assoc]
  refine .cons fun position => ⟨.text frames { opened := position }, ?_, ?_⟩
  · exact (step_value rfl (by decide)).trans rfl
  · exact hc.text text.toList (by simpa [Quoted.text] using h)

theorem reads_quote_name {fields : Fields} {mayClose : Bool} {k : Key} (hk : k.intact = true)
    (h : (State.colon frames fields k).Reads d cs v) :
    (State.name frames fields mayClose).Reads d (quote k.text ++ cs) v := by
  have hc : Quoted.Carries d (.inName frames fields) fun q => .colon frames fields q.name := fun _ _ _ => rfl
  obtain ⟨text, intact⟩ := k
  subst hk
  rw [quote, List.cons_append, List.append_assoc]
  refine .cons fun position => ⟨.inName frames fields { opened := position }, rfl, ?_⟩
  exact hc.text text.toList (by simpa [Quoted.name, Quoted.text] using h)

/-! ## Words -/

theorem reads_owed {began : Nat} {owed : List Char} (h : (State.after frames u).Reads d cs v) :
    (State.word frames began owed u).Reads d (owed ++ cs) v := by
  induction owed with
  | nil =>
    rw [List.nil_append]
    refine h.of_alike (fun _ _ _ => rfl) fun position w hclose => ?_
    cases frames <;> exact hclose
  | cons c owed ih => exact .cons fun position => ⟨.word frames began owed u, by simp [step], ih⟩

theorem reads_word {mayClose : Bool} {owed : List Char} (hspace : isSpace c = false) (hclose : c ≠ ']')
    (hbegin : ∀ position, beginValue d frames position c = .ok (.word frames position owed u))
    (h : (State.after frames u).Reads d cs v) : (State.value frames mayClose).Reads d (c :: owed ++ cs) v :=
  .cons fun position => ⟨.word frames position owed u, (step_value hspace hclose).trans (hbegin position), reads_owed h⟩

/-! ## Integers -/

theorem step_value_digit {mayClose : Bool} {position m : Nat} (hc : Text.asciiDigit? c = some m) :
    step d position (.value frames mayClose) c = .ok (.number frames (.ofDigit position m)) := by
  have hne : ∀ b, Text.asciiDigit? b = none → c ≠ b := by
    rintro b hb rfl
    rw [hb] at hc
    cases hc
  have hspace : isSpace c = false := by
    simp [isSpace, hne ' ' rfl, hne '\t' rfl, hne '\n' rfl, hne '\r' rfl]
  rw [step_value hspace (hne ']' rfl), beginValue, if_neg (hne '"' rfl), if_neg (hne '[' rfl), if_neg (hne '\x7b' rfl),
    if_neg (hne '-' rfl), hc]

theorem step_minus_digit {position began m : Nat} (hc : Text.asciiDigit? c = some m) :
    step d position (.number frames (.ofMinus began)) c =
      .ok (.number frames ((Numeral.ofMinus began).firstDigit m)) := by
  have hword : ¬((Numeral.ofMinus began).part = .minus ∧ c = 'I' ∧ d.specialNumbers = true) := by
    rintro ⟨-, rfl, -⟩
    cases hc
  have hextend : (Numeral.ofMinus began).extend? position c = some ((Numeral.ofMinus began).firstDigit m) := by
    simp [Numeral.extend?, Numeral.ofMinus, hc]
  simp only [step, if_neg hword, hextend]

/-- What may follow a value that was written, the end of the text included. -/
def IsBounded (cs : List Char) : Prop := ∀ c ∈ cs.head?, c ∈ [',', ']', '\x7d', '\n']

theorem extend?_bounding {n : Numeral} {position : Nat} (hn : n.part = .zero ∨ n.part = .whole) :
    ∀ c ∈ [',', ']', '\x7d', '\n'], n.extend? position c = none := by
  intro c hc
  have hother : ∀ c ∈ [',', ']', '\x7d', '\n'], Text.asciiDigit? c = none ∧ c ≠ '.' ∧ c ≠ 'e' ∧ c ≠ 'E' := by
    simp only [List.mem_cons, List.not_mem_nil, or_false, forall_eq_or_imp, forall_eq]
    decide
  obtain ⟨hdigit, hpoint, hsmall, hlarge⟩ := hother c hc
  rcases hn with hn | hn <;> simp [Numeral.extend?, hn, hdigit, hpoint, hsmall, hlarge]

/-- The numeral is an integer that has been read to its last digit. -/
structure Numeral.Holds (n : Numeral) (negative : Bool) (m : Nat) : Prop where
  negative : n.negative = negative
  part : n.part = if m = 0 then .zero else .whole
  digits : n.digits = m
  wholeDigits : n.wholeDigits = (Double.digitChars m).length

theorem asciiDigit?_digitChar : ∀ m < 10, Text.asciiDigit? (Nat.digitChar m) = some m := by decide

theorem Numeral.holds_firstDigit (n : Numeral) {m : Nat} (hm : m < 10) : (n.firstDigit m).Holds n.negative m where
  negative := rfl
  part := rfl
  digits := rfl
  wholeDigits := by
    rw [Double.digitChars, Nat.toDigits_of_lt_base hm]
    rfl

/-- From a state in front of an integer's digits, they are read one after the other. -/
theorem reads_digits (negative : Bool)
    (hs : ∀ position m, m < 10 → ∃ n : Numeral, n.negative = negative ∧
      step d position s (Nat.digitChar m) = .ok (.number frames (n.firstDigit m)))
    (m : Nat) (h : ∀ n : Numeral, n.Holds negative m → (State.number frames n).Reads d cs v) :
    s.Reads d (Double.digitChars m ++ cs) v := by
  induction m using Nat.strongRecOn generalizing cs with
  | ind m ih =>
    by_cases hm : m < 10
    · rw [Double.digitChars, Nat.toDigits_of_lt_base hm]
      refine .cons fun position => ?_
      obtain ⟨n, hn, hstep⟩ := hs position m hm
      exact ⟨_, hstep, h _ (hn ▸ n.holds_firstDigit hm)⟩
    · have hle : 10 ≤ m := Nat.le_of_not_lt hm
      rw [Double.digitChars, Nat.toDigits_of_base_le (by decide) hle, List.append_assoc]
      refine ih (m / 10) (by omega) fun n hn => .cons fun position => ?_
      have hdigit := asciiDigit?_digitChar (m % 10) (by omega)
      have hpart : n.part = .whole := by
        rw [hn.part, if_neg (by omega)]
      refine ⟨.number frames { n with digits := n.digits * 10 + m % 10, wholeDigits := n.wholeDigits + 1 }, ?_, h _ ?_⟩
      · simp [step, Numeral.extend?, hpart, hdigit]
      · constructor
        · exact hn.negative
        · rw [if_neg (by omega)]
          exact hpart
        · simp only [hn.digits]
          omega
        · simp only [hn.wholeDigits]
          rw [Double.digitChars, Double.digitChars, Nat.toDigits_of_base_le (by decide) hle]
          simp

/-- At what bounds a value, an integer ends. -/
theorem reads_number {n : Numeral} {negative : Bool} {m : Nat} (hn : n.Holds negative m) (hm : m < pow10 maxDigits)
    (hcs : IsBounded cs) (h : (State.after frames (.num (.int (if negative then -(m : Int) else m)))).Reads d cs v) :
    (State.number frames n).Reads d cs v := by
  have hpart : n.part = .zero ∨ n.part = .whole := by
    rw [hn.part]
    split
    · exact .inl rfl
    · exact .inr rfl
  have hshort : ¬maxDigits < n.wholeDigits := by
    rw [hn.wholeDigits, Nat.not_lt]
    exact length_toDigits_le (by decide) hm
  have hclosed : n.close d = .ok (.int (if negative then -(m : Int) else m), none) := by
    have hinteger : n.toInteger = .ok (.int (if negative then -(m : Int) else m)) := by
      rw [Numeral.toInteger, if_neg hshort, hn.negative, hn.digits]
    rcases hpart with hpart | hpart <;> simp only [Numeral.close, hpart, hinteger] <;> rfl
  refine h.of_alike (fun c hc position => ?_) fun position w hclose => ?_
  · have hend : n.extend? position c = none := extend?_bounding hpart c (hcs c hc)
    have hminus : ¬(n.part = .minus ∧ c = 'I' ∧ d.specialNumbers = true) := by
      rcases hpart with hpart | hpart <;> simp [hpart]
    simp only [step, if_neg hminus, hend, hclosed]
    rfl
  · simp only [close, hclosed]
    cases frames <;> exact hclose

theorem reads_intChars {mayClose : Bool} {n : Int} (hn : isWritableInt n = true) (hcs : IsBounded cs)
    (h : (State.after frames (.num (.int n))).Reads d cs v) :
    (State.value frames mayClose).Reads d (intChars n ++ cs) v := by
  have hm : n.natAbs < pow10 maxDigits := by simpa [isWritableInt] using hn
  unfold intChars
  split
  · next hneg =>
    have hvalue : -(n.natAbs : Int) = n := by omega
    rw [← hvalue] at h
    refine .cons fun position => ⟨.number frames (.ofMinus position), ?_, ?_⟩
    · exact (step_value rfl (by decide)).trans rfl
    · refine reads_digits true (fun _ m hlt => ⟨.ofMinus position, rfl, ?_⟩) n.natAbs fun k hk =>
        reads_number hk hm hcs h
      exact step_minus_digit (asciiDigit?_digitChar m hlt)
  · next hneg =>
    have hvalue : (n.natAbs : Int) = n := by omega
    rw [← hvalue] at h
    refine reads_digits false (fun position m hlt => ⟨{ began := position, part := .whole }, rfl, ?_⟩) n.natAbs
      fun k hk => reads_number hk hm hcs h
    exact step_value_digit (asciiDigit?_digitChar m hlt)

end

end LiveSurface.Json
