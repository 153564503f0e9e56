import LiveSurface.Proofs.Json.Breakoff
import LiveSurface.Proofs.Message.Escape
/-!
# Batches in prose

A batch that arrives as text may come in a code fence, or with prose around it. It is taken for the array that stands in
the text, if no bracket of an array stands elsewhere: the whole text is no value, so the array is cut out of it and
read.

One thing can get in the way of the cut. The whole text is read first, and if that opens too many containers, the search
ends there. Prose without openers keeps that from happening. After its first character the machine is inside a text,
a number or a word at the top, or behind it (`State.Flat`), and no container is ever opened from there.

Results:
* `Json.State.Flat.step`, `Json.State.Flat.feed`: at the top, the machine stays at the top.
* `Json.State.Flat.run_ne_tooDeep`: so it never opens too many containers.
* `Json.extract_around`: an array is found in the prose around it.
* `Batch.parse_surrounded`: a batch in prose is parsed like the decoded batch.
-/
namespace LiveSurface

namespace Json

/-! ## Reading at the top -/

/-- The value at the top has begun, or ended, and is no container that is still open. -/
inductive State.Flat : State → Prop
  | after (v : Json) : Flat (.after [] v)
  | text (q : Quoted) : Flat (.text [] q)
  | number (n : Numeral) : Flat (.number [] n)
  | word (began : Nat) (owed : List Char) (v : Json) : Flat (.word [] began owed v)

section
variable {d : Dialect} {position : Nat} {s t : State} {v : Json} {c : Char} {cs : List Char} {array : Bool}

theorem flat_stepAfter (h : stepAfter [] v position c = .ok t) : t.Flat := by
  simp only [stepAfter] at h
  split at h
  · cases h
    exact .after v
  · cases h

theorem flat_beginValue (hc : opened? c = none) (h : beginValue d [] position c = .ok t) : t.Flat := by
  unfold beginValue at h
  split at h
  · cases h
    exact .text _
  split at h
  · next hopen =>
    subst hopen
    cases hc
  split at h
  · next hopen =>
    subst hopen
    cases hc
  split at h
  · cases h
    exact .number _
  split at h
  · cases h
    exact .number _
  split at h
  · cases h
    exact .word _ _ _
  · cases h

/-- No container is opened at the top once the value there has begun. -/
theorem State.Flat.step (hs : s.Flat) (h : Json.step d position s c = .ok t) : t.Flat := by
  cases hs with
  | after v => exact flat_stepAfter h
  | text q =>
    obtain ⟨progress, -, h⟩ := exists_ok_of_bind h
    cases progress with
    | more q =>
      cases h
      exact .text q
    | closed q =>
      cases h
      exact .after _
  | number n =>
    simp only [Json.step] at h
    split at h
    · cases h
      exact .word _ _ _
    split at h
    · cases h
      exact .number _
    · -- The character ends the number, and only a space can follow it.
      obtain ⟨⟨x, unread⟩, -, h⟩ := exists_ok_of_bind h
      cases unread with
      | none => exact flat_stepAfter h
      | some unread => cases h
  | word began owed v =>
    simp only [Json.step] at h
    split at h
    · exact flat_stepAfter h
    · split at h
      · cases h
        exact .word _ _ _
      · cases h

theorem State.Flat.feed (hs : s.Flat) (h : Json.feed d position s cs = .ok t) : t.Flat := by
  induction cs generalizing position s with
  | nil =>
    cases h
    exact hs
  | cons c rest ih =>
    obtain ⟨mid, hstep, hrest⟩ := exists_ok_of_bind h
    exact ih (hs.step hstep) hrest

theorem State.Flat.not_breaksOff {rest : List Char} (hs : s.Flat) : ¬BreaksOff s rest (.tooDeep array) := by
  rintro ⟨⟩
  cases hs

theorem not_isMalformed_tooDeep : ¬(ReadError.tooDeep array).IsMalformed := fun ⟨_, _, h⟩ => nomatch h

/-- From the top, no text opens too many containers. -/
theorem State.Flat.run_ne_tooDeep (hs : s.Flat) :
    (Json.feed d position s cs >>= fun t => close d (position + cs.length) t) ≠ .error (.tooDeep array) := by
  intro h
  obtain ⟨front, rest, t, -, hfeed, hbreak⟩ := (run_error_iff not_isMalformed_tooDeep).mp h
  exact (hs.feed hfeed).not_breaksOff hbreak

/-- A text whose first character opens no container does not nest at all. -/
theorem readChars_ne_tooDeep_of_prose (hspace : isSpace c = false) (hc : opened? c = none) :
    readChars d (c :: cs) ≠ .error (.tooDeep array) := by
  intro h
  obtain ⟨front, rest, s, hcs, hfeed, hbreak⟩ := tooDeep_iff.mp h
  cases front with
  | nil =>
    cases hfeed
    obtain ⟨_, hopen⟩ := hbreak
    exact absurd hopen (by decide)
  | cons b front =>
    obtain ⟨rfl, -⟩ := List.cons.inj hcs
    obtain ⟨mid, hstep, hrest⟩ := exists_ok_of_bind hfeed
    have hbegin : beginValue d [] 0 c = .ok mid := by
      simpa [step, State.start, hspace] using hstep
    exact ((flat_beginValue hc hbegin).feed hrest).not_breaksOff hbreak

/-- A container that can be read opens too many containers with nothing that follows. -/
theorem readChars_ne_tooDeep_of_read {kept after : List Char} {k : Kind} (hc : opened? c = some k)
    (hread : readChars d (c :: kept) = .ok v) : readChars d (c :: kept ++ after) ≠ .error (.tooDeep array) := by
  obtain ⟨s, hfeed, hclose⟩ := exists_ok_of_bind hread
  obtain ⟨rfl, -⟩ := (reading_of_feed hc hfeed).close hclose
  have hrun : readChars d (c :: kept ++ after) = (feed d (0 + (c :: kept).length) (.after [] v) after >>= fun t =>
      close d (0 + (c :: kept).length + after.length) t) := by
    rw [readChars, feed_append, hfeed, List.length_append, Nat.zero_add]
    rfl
  rw [hrun]
  exact (State.Flat.after v).run_ne_tooDeep

end

/-! ## Arrays in prose -/

section
variable {before kept after : List Char} {v : Json}

theorem isSpace_eq_false_of_isBlank {c : Char} (h : Text.isBlank c = false) : isSpace c = false := by
  cases hspace : isSpace c with
  | false => rfl
  | true =>
    simp only [isSpace, Bool.or_eq_true, decide_eq_true_eq] at hspace
    rcases hspace with ((rfl | rfl) | rfl) | rfl <;> cases h

theorem opened?_eq_none {c : Char} (harray : c ≠ '[') (hobject : c ≠ '\x7b') : opened? c = none := by
  unfold opened?
  split
  · exact absurd rfl harray
  · exact absurd rfl hobject
  · rfl

/-- A container in prose without openers does not nest too deep, whatever follows it. -/
theorem readChars_around_ne_tooDeep {opener : Char} {k : Kind} (hopens : kept.head? = some opener)
    (hopener : opened? opener = some k) (hread : readChars .strict kept = .ok v)
    (harray : '[' ∉ before) (hobject : '\x7b' ∉ before) (hblank : ∀ c ∈ before.head?, Text.isBlank c = false)
    (array : Bool) : readChars .strict (before ++ kept ++ after) ≠ .error (.tooDeep array) := by
  cases before with
  | nil =>
    obtain ⟨rest, rfl⟩ := List.head?_eq_some_iff.mp hopens
    exact readChars_ne_tooDeep_of_read hopener hread
  | cons c before =>
    have hne : ∀ {b : Char}, b ∉ c :: before → c ≠ b := fun hb h => hb (h ▸ List.mem_cons_self)
    exact readChars_ne_tooDeep_of_prose (isSpace_eq_false_of_isBlank (hblank c rfl))
      (opened?_eq_none (hne harray) (hne hobject))

/-- **Arrays in prose.** If the stripped text is the array or no value, the array is what is found in the text. -/
theorem extract_around {text : String} (repair : Bool) (htext : text.toList = before ++ kept ++ after)
    (hopens : kept.head? = some '[') (hcloses : kept.getLast? = some ']') (hread : readChars .strict kept = .ok v)
    (harray : '[' ∉ before) (hobject : '\x7b' ∉ before) (hafter : ']' ∉ after)
    (hstrip : stripFenceChars text.toList = kept ∨ ∀ w, readChars .strict (stripFenceChars text.toList) ≠ .ok w) :
    extract text repair = .ok v := by
  have hne : kept ≠ [] := by
    rintro rfl
    cases hopens
  unfold extract
  rcases hstrip with hkept | hnone
  · rw [hkept, extractChars, if_neg hne, hread]
  · obtain ⟨b, a, hstripped, hb, ha, hblank⟩ := exists_stripFenceChars_around hopens hcloses before after
    rw [htext, hstripped] at hnone ⊢
    have hfull : b ++ kept ++ a ≠ [] := by simp [hne]
    have hcut : cut? (b ++ kept ++ a) = some kept :=
      cut?_around hopens hcloses (fun h => harray (hb.subset h)) fun h => hafter (ha.subset h)
    have hroom : ∀ array, readChars .strict (b ++ kept ++ a) ≠ .error (.tooDeep array) :=
      readChars_around_ne_tooDeep hopens rfl hread (fun h => harray (hb.subset h)) (fun h => hobject (hb.subset h)) hblank
    rw [extractChars_of_cut? repair hfull hnone hroom hcut, decodeCut, hread]

end

end Json

/-! ## Batches -/

namespace Batch

/-- **Batches in prose.** Let a text hold an array, behind prose without openers and in front of prose without closers
of arrays. If it is within the limit, and what is left of it without blanks and fences is the array or no value, it is
parsed like the decoded array: with the same messages or the same error, and the same reports. -/
theorem parse_surrounded (settings : Settings) {before batch after : String} {items : List Json}
    (hopens : batch.toList.head? = some '[') (hcloses : batch.toList.getLast? = some ']')
    (hread : Json.read .strict batch = .ok (.arr items)) (harray : '[' ∉ before.toList)
    (hobject : '\x7b' ∉ before.toList) (hafter : ']' ∉ after.toList)
    (hsize : (before ++ batch ++ after).utf8ByteSize ≤ settings.maxBatchBytes)
    (hstrip : Json.stripFence (before ++ batch ++ after) = batch ∨
      ∀ w, Json.read .strict (Json.stripFence (before ++ batch ++ after)) ≠ .ok w)
    {raw : RawBatch} (hraw : raw.text? = some (before ++ batch ++ after)) :
    parse settings raw = parse settings (.decoded (.arr items)) := by
  have htext : (before ++ batch ++ after).toList = before.toList ++ batch.toList ++ after.toList := by simp
  have hchars : Json.stripFenceChars (before ++ batch ++ after).toList = batch.toList ∨
      ∀ w, Json.readChars .strict (Json.stripFenceChars (before ++ batch ++ after).toList) ≠ .ok w := by
    simpa only [Json.stripFence, Json.read, String.toList_ofList, ← String.toList_inj] using hstrip
  have hextract : Json.extract (before ++ batch ++ after) false = .ok (.arr items) :=
    Json.extract_around false htext hopens hcloses hread harray hobject hafter hchars
  have hlimit : ¬(settings.maxBatchBytes : Int) < (before ++ batch ++ after).utf8ByteSize := by omega
  have hvalue : value settings raw = value settings (.decoded (.arr items)) := by
    rw [value_of_text? hraw]
    simp only [decode, Json.checkSize, if_neg hlimit, hextract]
    rfl
  rw [parse, hvalue, parse]

/-- A batch whose surface is named with brackets and a fence. -/
def bracketed : String :=
  "[\x7b\"deleteSurface\": \x7b\"surfaceId\": \"]\x60\x60\x60[\"\x7d\x7d]"

/-- The prose in front of it, which ends in the fence. -/
def answer : String := "Sure:\n\x60\x60\x60json\n"

/-- The prose behind it. -/
def farewell : String := "\n\x60\x60\x60\nDone \x7d."

theorem parse_surrounded_bracketed :
    bracketed.toList.head? = some '[' ∧ bracketed.toList.getLast? = some ']' ∧
      Json.stripFence (answer ++ bracketed ++ farewell) ≠ bracketed ∧
      parse {} (.text (answer ++ bracketed ++ farewell)) =
        ⟨[.batchParsed 1 1], .ok [.deleteSurface "]\x60\x60\x60["]⟩ := by
  have hread : Json.read .strict bracketed =
      .ok (.arr [.ofFields [("deleteSurface", .ofFields [("surfaceId", .str "]\x60\x60\x60[")])]]) := by rfl
  have hstripped : Json.read .strict (Json.stripFence (answer ++ bracketed ++ farewell)) =
      .error (.malformed .noValue 0) := by rfl
  have hunread : ∀ w, Json.read .strict (Json.stripFence (answer ++ bracketed ++ farewell)) ≠ .ok w := by
    rw [hstripped]
    rintro w ⟨⟩
  have hraw : (RawBatch.text (answer ++ bracketed ++ farewell)).text? = some (answer ++ bracketed ++ farewell) := rfl
  have hparsed := parse_surrounded {} rfl rfl hread (by decide) (by decide) (by decide) (by decide) (.inr hunread) hraw
  refine ⟨rfl, rfl, ?_, hparsed.trans rfl⟩
  intro h
  rw [h, hread] at hstripped
  cases hstripped

end Batch

end LiveSurface
