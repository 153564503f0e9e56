import LiveSurface.Proofs.Json.Fence
import LiveSurface.Proofs.Json.Reads
import LiveSurface.Proofs.Json.Rearranged
import Mathlib.Algebra.Group.Int.Defs
/-!
# Reading what was written

Values are written in several styles, with or without blanks, line breaks and sorted keys; the styles share how they
write texts, integers and words. The reader takes all of them. The proof goes through a written value from its end: if
the machine can go on with the rest of a text after a value has ended, it can go on in front of the value's text, too
(`reads_write`), so what was written is as good as read. Nothing is stripped from the text of a value, since it begins
and ends with ink, even if it looks like a fence inside.

Results:
* `reads_write`, `readChars_write`: what was written is as good as read.
* `exists_ink_head?_write`, `exists_ink_getLast?_write`: the ends of a written value are ink.
* `extract_text`: from the text of a value, the value is extracted.
* `extract_encode`: writing and reading gives a value back, up to the order of fields if the keys are sorted.
-/
namespace LiveSurface.Json

section
variable {d : Dialect} {frames outer : List Frame} {cs : List Char} {c : Char} {u v : Json} {style : Style}

/-! ## Containers -/

theorem isBounded_cons (hc : c ∈ [',', ']', '\x7d', '\n']) : IsBounded (c :: cs) := by
  rintro b ⟨⟩
  exact hc

theorem isBounded_comma (level : Nat) : IsBounded (style.comma level ++ cs) := by
  obtain ⟨blanks, hcomma, -⟩ := exists_comma_eq style level
  rw [hcomma]
  exact isBounded_cons (by decide)

theorem isBounded_lineBreak {level : Nat} (hcs : IsBounded cs) : IsBounded (style.lineBreak level ++ cs) := by
  unfold Style.lineBreak
  split
  · exact hcs
  · exact isBounded_cons (by decide)

theorem isBounded_writeItems (level outerLevel : Nat) (items : List Json) :
    IsBounded (writeItems style level items ++ (style.lineBreak outerLevel ++ ']' :: cs)) := by
  cases items with
  | nil => exact isBounded_lineBreak (isBounded_cons (by decide))
  | cons v rest =>
    rw [writeItems, List.append_assoc, List.append_assoc]
    exact isBounded_comma level

theorem isBounded_writeFields (level outerLevel : Nat) (fields : List (Key × Json)) :
    IsBounded (writeFields style level fields ++ (style.lineBreak outerLevel ++ '\x7d' :: cs)) := by
  cases fields with
  | nil => exact isBounded_lineBreak (isBounded_cons (by decide))
  | cons e rest =>
    rw [writeFields, List.append_assoc, List.append_assoc, List.append_assoc, List.append_assoc]
    exact isBounded_comma level

theorem step_open {mayClose : Bool} {position : Nat} (array : Bool) (hroom : frames.length + 1 ≤ maxOpen) :
    step d position (.value frames mayClose) (if array then '[' else '\x7b') =
      .ok (if array then .value (.items [] :: frames) true else .name frames [] true) := by
  have hopen : ¬maxOpen ≤ frames.length := by omega
  cases array with
  | true => exact (step_value rfl (by decide)).trans (by simp [beginValue, openContainer, hopen])
  | false => exact (step_value rfl (by decide)).trans (by simp [beginValue, openContainer, hopen])

/-- The comma after an item. -/
theorem reads_item_comma {before : List Json} {level : Nat}
    (h : (State.value (.items (u :: before) :: outer) false).Reads d cs v) :
    (State.after (.items before :: outer) u).Reads d (style.comma level ++ cs) v := by
  obtain ⟨blanks, hcomma, hblanks⟩ := exists_comma_eq style level
  rw [hcomma]
  exact .cons fun _ => ⟨_, rfl, h.skip (waits_value _ _) hblanks⟩

/-- The comma after a field. -/
theorem reads_field_comma {before : Fields} {k : Key} {level : Nat}
    (h : (State.name outer (before.put k u) false).Reads d cs v) :
    (State.after (.field before k :: outer) u).Reads d (style.comma level ++ cs) v := by
  obtain ⟨blanks, hcomma, hblanks⟩ := exists_comma_eq style level
  rw [hcomma]
  exact .cons fun _ => ⟨_, rfl, h.skip (waits_name _ _ _) hblanks⟩

/-- The name of a field, and the colon. -/
theorem reads_name (style : Style) {fields : Fields} {k : Key} {mayClose : Bool} (hk : k.intact = true)
    (h : (State.value (.field fields k :: outer) false).Reads d cs v) :
    (State.name outer fields mayClose).Reads d (quote k.text ++ (style.colon ++ cs)) v := by
  obtain ⟨blanks, hcolon, hblanks⟩ := exists_colon_eq style
  rw [hcolon]
  exact reads_quote_name hk (.cons fun _ => ⟨_, rfl, h.skip (waits_value _ _) hblanks⟩)

/-- The bracket after the last item. -/
theorem reads_close_items {before : List Json} {level : Nat}
    (h : (State.after outer (.arr (u :: before).reverse)).Reads d cs v) :
    (State.after (.items before :: outer) u).Reads d (style.lineBreak level ++ ']' :: cs) v :=
  State.Reads.skip (.cons fun _ => ⟨_, rfl, h⟩) (waits_after _ _) (isSpace_of_mem_lineBreak style level)

/-- The brace after the last field. -/
theorem reads_close_fields {before : Fields} {k : Key} {level : Nat}
    (h : (State.after outer (.obj (before.put k u))).Reads d cs v) :
    (State.after (.field before k :: outer) u).Reads d (style.lineBreak level ++ '\x7d' :: cs) v :=
  State.Reads.skip (.cons fun _ => ⟨_, rfl, h⟩) (waits_after _ _) (isSpace_of_mem_lineBreak style level)

/-! ## Values -/

mutual

/-- **What was written is as good as read.** -/
theorem reads_write (style : Style) : ∀ (u : Json) (level : Nat) ⦃frames : List Frame⦄ ⦃mayClose : Bool⦄
    ⦃cs : List Char⦄ ⦃v : Json⦄, u.isPlain = true → u.isWritable = true → frames.length + u.nesting ≤ maxOpen →
    IsBounded cs → (State.after frames u).Reads d cs v →
    (State.value frames mayClose).Reads d (write style level u ++ cs) v
  | .null, _ => fun _ _ _ _ _ _ _ _ h => reads_word rfl (by decide) (fun _ => rfl) h
  | .bool true, _ => fun _ _ _ _ _ _ _ _ h => reads_word rfl (by decide) (fun _ => rfl) h
  | .bool false, _ => fun _ _ _ _ _ _ _ _ h => reads_word rfl (by decide) (fun _ => rfl) h
  | .num (.int n), _ => by
    intro frames mayClose cs v _ hw _ hcs h
    rw [isWritable, allInts] at hw
    exact reads_intChars hw hcs h
  | .num (.double x), _ => fun _ _ _ _ hp => nomatch hp
  | .str text, _ => fun _ _ _ _ _ _ _ _ h => reads_quote_value h
  | .arr [], _ => fun _ _ _ _ _ _ hroom _ h => .cons fun _ => ⟨_, step_open true hroom, .cons fun _ => ⟨_, rfl, h⟩⟩
  | .arr (u :: rest), level => by
    intro frames mayClose cs v hp hw hroom _ h
    rw [isPlain, arePlainItems, Bool.and_eq_true] at hp
    rw [isWritable, allInts, allItemInts, Bool.and_eq_true] at hw
    rw [nesting_arr, itemsNesting_cons] at hroom
    have hrest : (State.after (.items [] :: frames) u).Reads d
        (writeItems style (level + 1) rest ++ (style.lineBreak level ++ ']' :: cs)) v :=
      reads_writeItems style rest (level + 1) level hp.2 hw.2 (by omega) h
    have hroom' : (Frame.items [] :: frames).length + u.nesting ≤ maxOpen := by
      rw [List.length_cons]
      omega
    have hfirst := (reads_write style u (level + 1) hp.1 hw.1 hroom' (isBounded_writeItems _ _ rest) hrest).skip
      (waits_value _ true) (isSpace_of_mem_lineBreak style (level + 1))
    simp only [write, List.cons_append, List.append_assoc, List.nil_append]
    exact .cons fun _ => ⟨_, step_open true (by omega), hfirst⟩
  | .obj [], _ => fun _ _ _ _ _ _ hroom _ h => .cons fun _ => ⟨_, step_open false hroom, .cons fun _ => ⟨_, rfl, h⟩⟩
  | .obj ((k, u) :: rest), level => by
    intro frames mayClose cs v hp hw hroom _ h
    rw [isPlain, arePlainFields, Bool.and_eq_true, Bool.and_eq_true] at hp
    rw [isWritable, allInts, allFieldInts, Bool.and_eq_true] at hw
    rw [nesting_obj, fieldsNesting_cons] at hroom
    have hk : k.intact = true := (arePlainNames_iff.mp hp.1).2 k List.mem_cons_self
    have hrest : (State.after (.field [] k :: frames) u).Reads d
        (writeFields style (level + 1) rest ++ (style.lineBreak level ++ '\x7d' :: cs)) v :=
      reads_writeFields style rest (level + 1) level hp.1 hp.2.2 hw.2 (by omega) h
    have hroom' : (Frame.field [] k :: frames).length + u.nesting ≤ maxOpen := by
      rw [List.length_cons]
      omega
    have hfirst := (reads_name style hk (reads_write style u (level + 1) hp.2.1 hw.1 hroom'
      (isBounded_writeFields _ _ rest) hrest)).skip (waits_name _ _ true) (isSpace_of_mem_lineBreak style (level + 1))
    simp only [write, List.cons_append, List.append_assoc, List.nil_append]
    exact .cons fun _ => ⟨_, step_open false (by omega), hfirst⟩

theorem reads_writeItems (style : Style) : ∀ (items : List Json) (level outerLevel : Nat) ⦃before : List Json⦄
    ⦃outer : List Frame⦄ ⦃cs : List Char⦄ ⦃u v : Json⦄, arePlainItems items = true →
    allItemInts isWritableInt items = true → outer.length + 1 + itemsNesting items ≤ maxOpen →
    (State.after outer (.arr ((u :: before).reverse ++ items))).Reads d cs v →
    (State.after (.items before :: outer) u).Reads d
      (writeItems style level items ++ (style.lineBreak outerLevel ++ ']' :: cs)) v
  | [], _, _ => fun _ _ _ _ _ _ _ _ h => reads_close_items (by simpa using h)
  | w :: rest, level, outerLevel => by
    intro before outer cs u v hp hw hroom h
    rw [arePlainItems, Bool.and_eq_true] at hp
    rw [allItemInts, Bool.and_eq_true] at hw
    rw [itemsNesting_cons] at hroom
    have hrest : (State.after (.items (u :: before) :: outer) w).Reads d
        (writeItems style level rest ++ (style.lineBreak outerLevel ++ ']' :: cs)) v :=
      reads_writeItems style rest level outerLevel hp.2 hw.2 (by omega) (by simpa using h)
    have hroom' : (Frame.items (u :: before) :: outer).length + w.nesting ≤ maxOpen := by
      rw [List.length_cons]
      omega
    simp only [writeItems, List.append_assoc]
    exact reads_item_comma (reads_write style w level hp.1 hw.1 hroom' (isBounded_writeItems _ _ rest) hrest)

/-- The fields before and after are those of the object that is closed, so no name comes up twice. -/
theorem reads_writeFields (style : Style) : ∀ (fields : List (Key × Json)) (level outerLevel : Nat) ⦃before : Fields⦄
    ⦃k : Key⦄ ⦃outer : List Frame⦄ ⦃cs : List Char⦄ ⦃u v : Json⦄, arePlainNames (before.put k u ++ fields) = true →
    arePlainFields fields = true → allFieldInts isWritableInt fields = true →
    outer.length + 1 + fieldsNesting fields ≤ maxOpen →
    (State.after outer (.obj (before.put k u ++ fields))).Reads d cs v →
    (State.after (.field before k :: outer) u).Reads d
      (writeFields style level fields ++ (style.lineBreak outerLevel ++ '\x7d' :: cs)) v
  | [], _, _ => fun _ _ _ _ _ _ _ _ _ _ h => reads_close_fields (by simpa using h)
  | (l, w) :: rest, level, outerLevel => by
    intro before k outer cs u v hnames hp hw hroom h
    rw [arePlainFields, Bool.and_eq_true] at hp
    rw [allFieldInts, Bool.and_eq_true] at hw
    rw [fieldsNesting_cons] at hroom
    obtain ⟨hnodup, hintact⟩ := arePlainNames_iff.mp hnames
    have hl : l.intact = true := hintact l (by simp [Entries.keys])
    have hnew : l ∉ Entries.keys (before.put k u) := by
      intro hmem
      simp only [Entries.keys, List.map_append, List.map_cons, List.nodup_append] at hnodup
      exact hnodup.2.2 l hmem l List.mem_cons_self rfl
    have hput : (before.put k u).put l w ++ rest = before.put k u ++ (l, w) :: rest := by
      rw [Entries.put_of_not_mem hnew, List.append_assoc, List.singleton_append]
    rw [← hput] at hnames h
    have hrest : (State.after (.field (before.put k u) l :: outer) w).Reads d
        (writeFields style level rest ++ (style.lineBreak outerLevel ++ '\x7d' :: cs)) v :=
      reads_writeFields style rest level outerLevel hnames hp.2 hw.2 (by omega) h
    have hroom' : (Frame.field (before.put k u) l :: outer).length + w.nesting ≤ maxOpen := by
      rw [List.length_cons]
      omega
    simp only [writeFields, List.append_assoc]
    exact reads_field_comma (reads_name style hl
      (reads_write style w level hp.1 hw.1 hroom' (isBounded_writeFields _ _ rest) hrest))

end

theorem readChars_write (style : Style) (hp : v.isPlain = true) (hw : v.isWritable = true) (hn : v.nesting ≤ maxOpen) :
    readChars d (write style 0 v) = .ok v := by
  have hroom : ([] : List Frame).length + v.nesting ≤ maxOpen := by simpa using hn
  have hend : (State.after [] v).Reads d [] v := fun _ => rfl
  have hbounded : IsBounded [] := fun _ hc => nomatch hc
  have hreads : (State.value [] false).Reads d (write style 0 v ++ []) v :=
    reads_write style v 0 hp hw hroom hbounded hend
  rw [List.append_nil] at hreads
  exact readChars_of_reads hreads

/-! ## Ink -/

theorem isInk_digitChar : ∀ m < 10, IsInk (Nat.digitChar m) := by decide

theorem isInk_of_mem_digitChars (m : Nat) : ∀ c ∈ Double.digitChars m, IsInk c := by
  intro c hc
  obtain ⟨k, hk, rfl⟩ := Double.exists_digit_of_mem_digitChars hc
  exact isInk_digitChar k hk

theorem isInk_of_mem_intChars (n : Int) : ∀ c ∈ intChars n, IsInk c := by
  unfold intChars
  split
  · exact List.forall_mem_cons.mpr ⟨by decide, isInk_of_mem_digitChars n.natAbs⟩
  · exact isInk_of_mem_digitChars n.natAbs

theorem intChars_ne_nil (n : Int) : intChars n ≠ [] := by
  unfold intChars
  split
  · exact List.cons_ne_nil _ _
  · exact Nat.toDigits_ne_nil

theorem exists_ink_head? (hne : cs ≠ []) (h : ∀ c ∈ cs, IsInk c) : ∃ c ∈ cs.head?, IsInk c :=
  ⟨cs.head hne, List.head?_eq_some_head hne, h _ (List.head_mem hne)⟩

theorem exists_ink_getLast? (hne : cs ≠ []) (h : ∀ c ∈ cs, IsInk c) : ∃ c ∈ cs.getLast?, IsInk c :=
  ⟨cs.getLast hne, List.getLast?_eq_some_getLast hne, h _ (List.getLast_mem hne)⟩

/-- A written value begins with ink. -/
theorem exists_ink_head?_write (style : Style) (level : Nat) (hp : v.isPlain = true) :
    ∃ c ∈ (write style level v).head?, IsInk c := by
  cases v with
  | null => exact ⟨'n', rfl, by decide⟩
  | bool b =>
    cases b with
    | true => exact ⟨'t', rfl, by decide⟩
    | false => exact ⟨'f', rfl, by decide⟩
  | num n =>
    cases n with
    | int n => exact exists_ink_head? (intChars_ne_nil n) (isInk_of_mem_intChars n)
    | double x => cases hp
  | str text => exact ⟨'"', rfl, by decide⟩
  | arr items => cases items <;> exact ⟨'[', rfl, by decide⟩
  | obj fields => cases fields <;> exact ⟨'\x7b', rfl, by decide⟩

/-- A written value ends with ink. -/
theorem exists_ink_getLast?_write (style : Style) (level : Nat) (hp : v.isPlain = true) :
    ∃ c ∈ (write style level v).getLast?, IsInk c := by
  cases v with
  | null => exact ⟨'l', rfl, by decide⟩
  | bool b => cases b <;> exact ⟨'e', rfl, by decide⟩
  | num n =>
    cases n with
    | int n => exact exists_ink_getLast? (intChars_ne_nil n) (isInk_of_mem_intChars n)
    | double x => cases hp
  | str text => exact ⟨'"', by rw [write, quote, ← List.cons_append]; exact List.getLast?_concat, by decide⟩
  | arr items =>
    cases items with
    | nil => exact ⟨']', rfl, by decide⟩
    | cons w rest => exact ⟨']', by rw [write]; exact List.getLast?_concat, by decide⟩
  | obj fields =>
    cases fields with
    | nil => exact ⟨'\x7d', rfl, by decide⟩
    | cons e rest => exact ⟨'\x7d', by rw [write]; exact List.getLast?_concat, by decide⟩

/-! ## Extraction -/

/-- From the text of a value, the value is extracted. -/
theorem extract_text (style : Style) (repair : Bool) (hp : v.isPlain = true) (hw : v.isWritable = true)
    (hn : v.nesting ≤ maxOpen) : extract (v.text style) repair = .ok v := by
  have hhead := exists_ink_head?_write style 0 hp
  have hstrip : stripFenceChars (write style 0 v) = write style 0 v :=
    stripFenceChars_eq_self hhead (exists_ink_getLast?_write style 0 hp)
  have hne : write style 0 v ≠ [] := by
    obtain ⟨c, hc, -⟩ := hhead
    intro hnil
    rw [hnil] at hc
    cases hc
  rw [extract, Json.text, String.toList_ofList, hstrip, extractChars, if_neg hne, readChars_write style hp hw hn]

/-- Whichever style is used, it is the value that is written, or the value with its keys sorted. -/
theorem exists_style_encode (indent : Int) (sorted : Bool) (hw : v.isWritable = true) :
    ∃ style, v.encode indent sorted = .ok ((if sorted then v.sortKeys else v).text style) := by
  unfold encode
  generalize (if sorted = true then v.sortKeys else v) = ordered
  simp only [hw, Bool.not_true, Bool.false_eq_true, if_false]
  split
  · exact ⟨_, rfl⟩
  split
  · exact ⟨_, rfl⟩
  · exact ⟨_, rfl⟩

end

/-- **Writing and reading.** A plain value that can be written and does not nest too deep for the reader is found again
in the text that is written for it, whatever the indent: as it was, or up to the order of fields if the keys are
sorted. -/
theorem extract_encode {v : Json} (indent : Int) (sorted : Bool) (hplain : v.isPlain = true)
    (hwritable : v.isWritable = true) (hnesting : v.nesting ≤ maxOpen) :
    ∃ text w, v.encode indent sorted = .ok text ∧ extract text false = .ok w ∧ Rearranged v w ∧
      (sorted = false → w = v) := by
  obtain ⟨style, hstyle⟩ := exists_style_encode indent sorted hwritable
  refine ⟨_, if sorted then v.sortKeys else v, hstyle, ?_⟩
  cases sorted with
  | false => exact ⟨extract_text style false hplain hwritable hnesting, .refl v, fun _ => rfl⟩
  | true =>
    have hsorted : Rearranged v v.sortKeys := rearranged_sortKeys v
    refine ⟨extract_text style false ?_ ?_ ?_, hsorted, nofun⟩
    · exact hsorted.isPlain.trans hplain
    · exact (hsorted.allInts isWritableInt).trans hwritable
    · exact hsorted.nesting.trans_le hnesting

/-- A value that looks like prose with a fence, and holds integers that are just too large for 64 bits. -/
def awkward : Json :=
  .ofFields [("\x60\x60\x60json", .str "]\x60\x60\x60\"\\\u0001\u007f\n"),
    ("[", .arr [.num (.int (2 ^ 64)), .num (.int (-2 ^ 63 - 1)), .ofFields [], .arr [], .null])]

theorem extract_encode_awkward : awkward.isPlain = true ∧ awkward.isWritable = true ∧ awkward.nesting ≤ maxOpen ∧
    ∃ text w, awkward.encode 2 true = .ok text ∧ extract text false = .ok w ∧ Rearranged awkward w ∧
      (true = false → w = awkward) := by
  have hplain : awkward.isPlain = true := by decide +kernel
  have hwritable : awkward.isWritable = true := by decide +kernel
  have hnesting : awkward.nesting ≤ maxOpen := by decide +kernel
  exact ⟨hplain, hwritable, hnesting, extract_encode 2 true hplain hwritable hnesting⟩

end LiveSurface.Json
