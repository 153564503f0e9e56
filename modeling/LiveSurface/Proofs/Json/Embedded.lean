import LiveSurface.Proofs.Message.Prose
import LiveSurface.Proofs.Surface.Truncation
/-!
# Objects in prose

A text that is no value is searched for an array, and for an object only if there is none. Whether there is an array is
decided by the brackets alone: it reaches from the first opening bracket to the last closing one. Prose has neither
brackets nor braces, so it plays no part in this search. What is found around an object is what is found in the object:
an array if one of its opening brackets stands before a closing one, be they in its values or in its texts, and else the
object itself.

Results:
* `stripFenceChars_of_ink`: without fences, only blanks go.
* `boundaries_eq_none`, `exists_array_of_brackets`: where an array is seen.
* `extract_of_array`, `extract_of_object`: a value that fills a text.
* `cut?_of_no_brackets`, `cut?_of_brackets_around`: what is cut out around an object.
* `extract_object`: what is found around an object.
-/
namespace LiveSurface.Json

variable {cs before after : List Char}

/-! ## Prose -/

/-- Whether a text has no marks that could be taken for a part of a value or of a fence. -/
def IsProse (cs : List Char) : Prop := ∀ c ∈ cs, c ∉ ['[', ']', '\x7b', '\x7d', '\x60']

instance (cs : List Char) : Decidable (IsProse cs) := List.decidableBAll _ cs

theorem IsProse.not_mem (h : IsProse cs) {c : Char} (hc : c ∈ ['[', ']', '\x7b', '\x7d', '\x60']) : c ∉ cs :=
  fun hmem => h c hmem hc

theorem IsProse.subset (h : IsProse cs) (hsub : before ⊆ cs) : IsProse before := fun c hc => h c (hsub hc)

theorem IsProse.ne_fence (h : IsProse cs) {c : Char} (hc : c ∈ cs) : c ≠ '\x60' := by
  rintro rfl
  exact h.not_mem (by decide) hc

/-- Without marks of a fence at its ends, a text only loses its blanks. -/
theorem stripFenceChars_of_ink (hopens : ∃ c ∈ (Text.stripChars cs).head?, IsInk c)
    (hcloses : ∃ c ∈ (Text.stripChars cs).getLast?, IsInk c) : stripFenceChars cs = Text.stripChars cs := by
  have hagain : Text.stripChars (Text.stripChars cs) = Text.stripChars cs := by
    obtain ⟨c, hc, hopen, -⟩ := hopens
    obtain ⟨d, hd, hclose, -⟩ := hcloses
    simpa using Text.stripChars_around ⟨c, hc, hopen⟩ ⟨d, hd, hclose⟩ [] []
  simp only [stripFenceChars, dropFront_fence_of_head? hopens, dropBack_fence_of_getLast? hcloses, hagain]

theorem exists_ink_head?_append {kept : List Char} (hprose : IsProse before)
    (hblank : ∀ c ∈ before.head?, Text.isBlank c = false) (hkept : ∃ c ∈ kept.head?, IsInk c) :
    ∃ c ∈ (before ++ kept).head?, IsInk c := by
  cases before with
  | nil => exact hkept
  | cons c rest => exact ⟨c, rfl, hblank c rfl, hprose.ne_fence List.mem_cons_self⟩

/-- Around a part that has ink at both ends, prose without blanks at the outside stays. -/
theorem exists_strip_around {kept : List Char} (hopens : ∃ c ∈ kept.head?, IsInk c)
    (hcloses : ∃ c ∈ kept.getLast?, IsInk c) (hbefore : IsProse before) (hafter : IsProse after) :
    ∃ b a, Text.stripChars (before ++ kept ++ after) = b ++ kept ++ a ∧
      stripFenceChars (before ++ kept ++ after) = b ++ kept ++ a ∧ IsProse b ∧ IsProse a ∧
      ∀ c ∈ b.head?, Text.isBlank c = false := by
  have hstrip := Text.stripChars_around (hopens.imp fun c h => ⟨h.1, h.2.1⟩) (hcloses.imp fun c h => ⟨h.1, h.2.1⟩)
    before after
  have hb : IsProse (before.dropWhile Text.isBlank) := hbefore.subset (List.dropWhile_suffix _).subset
  have ha : IsProse (after.rdropWhile Text.isBlank) := hafter.subset (List.rdropWhile_prefix _ _).subset
  have hblank : ∀ c ∈ (before.dropWhile Text.isBlank).head?, Text.isBlank c = false := by
    intro c hc
    have hnot := List.head?_dropWhile_not Text.isBlank before
    rw [hc] at hnot
    exact hnot
  have hblank' : ∀ c ∈ (after.rdropWhile Text.isBlank).reverse.head?, Text.isBlank c = false := by
    intro c hc
    have hnot := List.head?_dropWhile_not Text.isBlank after.reverse
    rw [List.rdropWhile, List.reverse_reverse] at hc
    rw [hc] at hnot
    exact hnot
  refine ⟨_, _, hstrip, ?_, hb, ha, hblank⟩
  rw [← hstrip]
  apply stripFenceChars_of_ink
  · rw [hstrip, List.append_assoc]
    refine exists_ink_head?_append hb hblank ?_
    obtain ⟨c, hc, hink⟩ := hopens
    exact ⟨c, by simp [Option.mem_def.mp hc], hink⟩
  · rw [hstrip, ← List.head?_reverse, List.reverse_append]
    refine exists_ink_head?_append (ha.subset (fun c hc => List.mem_reverse.mp hc)) hblank' ?_
    obtain ⟨c, hc, hink⟩ := hcloses
    exact ⟨c, by simp [Option.mem_def.mp hc], hink⟩

/-! ## Brackets -/

theorem firstIndex?_eq_none {c : Char} (hc : c ∉ cs) : firstIndex? [c] cs = none := by
  induction cs with
  | nil => rfl
  | cons b rest ih =>
    obtain ⟨hb, hrest⟩ := not_or.mp (mt List.mem_cons.mpr hc)
    simp [firstIndex?, hb, ih hrest]

theorem lastIndex?_lt {c : Char} {i : Nat} (h : lastIndex? [c] cs = some i) : i < cs.length := by
  induction cs generalizing i with
  | nil => cases h
  | cons b rest ih =>
    rw [lastIndex?] at h
    cases hrest : lastIndex? [c] rest with
    | some j =>
      rw [hrest] at h
      cases h
      exact Nat.succ_lt_succ (ih hrest)
    | none =>
      rw [hrest] at h
      simp only [Option.ite_none_right_eq_some, Option.some.injEq] at h
      obtain ⟨-, rfl⟩ := h
      exact Nat.succ_pos _

theorem lastIndex?_append {c : Char} {back : List Char} (hc : c ∉ back) (front : List Char) :
    lastIndex? [c] (front ++ back) = lastIndex? [c] front := by
  induction front with
  | nil => exact lastIndex?_eq_none hc
  | cons b rest ih => simp [lastIndex?, ih]

/-- No array is seen where no opener stands before a closer. -/
theorem boundaries_eq_none {opener closer : Char} (hne : opener ≠ closer) (h : ¬[opener, closer].Sublist cs) :
    boundaries [opener] [closer] cs = none := by
  by_cases hopener : opener ∈ cs
  · obtain ⟨front, back, rfl, hfront⟩ := List.eq_append_cons_of_mem hopener
    have hback : closer ∉ opener :: back := by
      intro hmem
      have hcloser : closer ∈ back := by simpa [Ne.symm hne] using hmem
      exact h (List.sublist_append_of_sublist_right ((List.singleton_sublist.mpr hcloser).cons_cons opener))
    simp only [boundaries, firstIndex?_append_cons hfront, lastIndex?_append hback, Option.bind_eq_bind,
      Option.bind_some]
    cases hlast : lastIndex? [closer] front with
    | none => rfl
    | some i => simp [lastIndex?_lt hlast]
  · simp [boundaries, firstIndex?_eq_none hopener]

/-- Prose adds no brackets. -/
theorem sublist_of_prose (hbefore : IsProse before) (hafter : IsProse after)
    (h : ['[', ']'].Sublist (before ++ cs ++ after)) : ['[', ']'].Sublist cs := by
  have hprose : ∀ {ds}, IsProse ds → ds.filter (· ∈ ['[', ']']) = [] := by
    intro ds hds
    rw [List.filter_eq_nil_iff]
    intro c hc hmem
    obtain rfl | rfl : c = '[' ∨ c = ']' := by simpa using hmem
    · exact hds.not_mem (by decide) hc
    · exact hds.not_mem (by decide) hc
  have hfilter := h.filter (· ∈ ['[', ']'])
  rw [List.filter_append, List.filter_append, hprose hbefore, hprose hafter, List.append_nil,
    List.nil_append] at hfilter
  exact hfilter.trans List.filter_sublist

/-- Where an opening bracket stands before a closing one, an array is seen. -/
theorem exists_array_of_brackets (h : ['[', ']'].Sublist cs) :
    ∃ front part back, cs = front ++ part ++ back ∧ '[' ∉ front ∧ ']' ∉ back ∧ part.head? = some '[' ∧
      part.getLast? = some ']' := by
  obtain ⟨front, rest, rfl, hfront⟩ := List.eq_append_cons_of_mem (h.subset List.mem_cons_self)
  have hrest : ']' ∈ rest.reverse := by
    obtain ⟨early, late, hsplit, hearly, hlate⟩ := List.sublist_append_iff.mp h
    cases early with
    | nil =>
      obtain rfl : ['[', ']'] = late := hsplit
      simpa using List.cons_sublist_cons.mp hlate
    | cons c early =>
      obtain ⟨rfl, -⟩ := List.cons.inj hsplit
      exact absurd (hearly.subset List.mem_cons_self) hfront
  obtain ⟨back, inner, hinner, hback⟩ := List.eq_append_cons_of_mem hrest
  refine ⟨front, '[' :: inner.reverse ++ [']'], back.reverse, ?_, hfront, by simpa using hback, rfl, ?_⟩
  · rw [← List.reverse_reverse rest, hinner]
    simp
  · exact List.getLast?_concat

/-! ## Extraction -/

/-- An array that fills a text is read in the text as it is read when it is cut out. -/
theorem extract_of_array {part : List Char} (repair : Bool) (hopens : part.head? = some '[')
    (hcloses : part.getLast? = some ']') : extract (String.ofList part) repair = decodeCut repair part := by
  have hstrip : stripFenceChars part = part :=
    stripFenceChars_eq_self ⟨_, hopens, by decide⟩ ⟨_, hcloses, by decide⟩
  have hne : part ≠ [] := List.ne_nil_of_mem (List.mem_of_mem_head? hopens)
  have hcut : cut? part = some part := by
    simpa using cut?_around hopens hcloses (List.not_mem_nil (a := '[')) (List.not_mem_nil (a := ']'))
  rw [extract, String.toList_ofList, hstrip]
  cases hread : readChars .strict part with
  | ok v => rw [extractChars, if_neg hne, hread, decodeCut, hread]
  | error e =>
    cases e with
    | tooDeep array => rw [extractChars, if_neg hne, hread, decodeCut, hread]
    | malformed fault position =>
      exact extractChars_of_cut? repair hne (by simp [hread]) (by simp [hread]) hcut
    | longNumeral n =>
      exact extractChars_of_cut? repair hne (by simp [hread]) (by simp [hread]) hcut

/-- What is read from an array is an array. -/
theorem kind_of_decodeCut {part : List Char} {v : Json} (hopens : part.head? = some '[')
    (h : decodeCut false part = .ok v) : v.kind = .arr := by
  obtain ⟨d, hread⟩ := exists_readChars_of_decodeCut h
  obtain ⟨rest, rfl⟩ := List.head?_eq_some_iff.mp hopens
  exact kind_of_readChars rfl hread

/-- In prose around an object the object itself is cut out if no array is seen in it. -/
theorem cut?_of_no_brackets (hopens : cs.head? = some '\x7b') (hcloses : cs.getLast? = some '\x7d')
    (hbefore : IsProse before) (hafter : IsProse after) (h : ¬['[', ']'].Sublist cs) :
    cut? (before ++ cs ++ after) = some cs := by
  have harray : boundaries ['['] [']'] (before ++ cs ++ after) = none :=
    boundaries_eq_none (by decide) fun hseen => h (sublist_of_prose hbefore hafter hseen)
  have hobject := boundaries_around hopens hcloses (hbefore.not_mem (by decide)) (hafter.not_mem (by decide))
  rw [cut?, harray, hobject]
  exact congrArg some (slice_around before cs after)

/-- In prose around an object the array that is seen in it is cut out. -/
theorem cut?_of_brackets_around {front part back : List Char} (hsplit : cs = front ++ part ++ back)
    (hfront : '[' ∉ front) (hback : ']' ∉ back) (hhead : part.head? = some '[') (hlast : part.getLast? = some ']')
    (hbefore : IsProse before) (hafter : IsProse after) : cut? (before ++ cs ++ after) = some part := by
  have hshape : before ++ cs ++ after = (before ++ front) ++ part ++ (back ++ after) := by simp [hsplit]
  rw [hshape]
  apply cut?_around hhead hlast
  · simp [hfront, hbefore.not_mem (c := '[') (by decide)]
  · simp [hback, hafter.not_mem (c := ']') (by decide)]

/-- With prose around an object, the cut decides, unless all of it is a value. -/
theorem exists_extract_around_object {before document after : String} {fields : Fields}
    (hopens : document.toList.head? = some '\x7b') (hcloses : document.toList.getLast? = some '\x7d')
    (hread : read .strict document = .ok (.obj fields)) (hbefore : IsProse before.toList)
    (hafter : IsProse after.toList)
    (hnone : ∀ v, read .strict (Text.strip (before ++ document ++ after)) ≠ .ok v) :
    ∃ b a, IsProse b ∧ IsProse a ∧ ∀ part, cut? (b ++ document.toList ++ a) = some part →
      extract (before ++ document ++ after) false = decodeCut false part := by
  have hne : document.toList ≠ [] := List.ne_nil_of_mem (List.mem_of_mem_head? hopens)
  obtain ⟨b, a, hstrip, hfence, hb, ha, hblank⟩ :=
    exists_strip_around ⟨_, hopens, by decide⟩ ⟨_, hcloses, by decide⟩ hbefore hafter
  have htext : (before ++ document ++ after).toList = before.toList ++ document.toList ++ after.toList := by simp
  refine ⟨b, a, hb, ha, fun part hpart => ?_⟩
  rw [extract, htext, hfence]
  refine extractChars_of_cut? false (by simp [hne]) ?_ ?_ hpart
  · simpa only [read, Text.strip, String.toList_ofList, htext, hstrip] using hnone
  · exact readChars_around_ne_tooDeep hopens rfl hread (hb.not_mem (by decide)) (hb.not_mem (by decide)) hblank

/-- An object that fills a text is what is found in the text. -/
theorem extract_of_object {document : String} {fields : Fields} (repair : Bool)
    (hopens : document.toList.head? = some '\x7b') (hcloses : document.toList.getLast? = some '\x7d')
    (hread : read .strict document = .ok (.obj fields)) : extract document repair = .ok (.obj fields) := by
  have hne : document.toList ≠ [] := List.ne_nil_of_mem (List.mem_of_mem_head? hopens)
  rw [extract, stripFenceChars_eq_self ⟨_, hopens, by decide⟩ ⟨_, hcloses, by decide⟩, extractChars, if_neg hne]
  simp only [show readChars .strict document.toList = .ok (.obj fields) from hread]

/-- **Objects in prose.** Let a text be an object. With prose around it, it is no value any more, and then the object is
found again if in its text no opening bracket stands before a closing one. If one does, there is an array to be found,
which reaches from the first opening to the last closing bracket, and it is read as if it stood alone. -/
theorem extract_object {before document after : String} {fields : Fields}
    (hopens : document.toList.head? = some '\x7b') (hcloses : document.toList.getLast? = some '\x7d')
    (hread : read .strict document = .ok (.obj fields)) (hbefore : IsProse before.toList)
    (hafter : IsProse after.toList)
    (hnone : ∀ v, read .strict (Text.strip (before ++ document ++ after)) ≠ .ok v) :
    (∀ repair, extract document repair = .ok (.obj fields)) ∧
    (¬['[', ']'].Sublist document.toList → extract (before ++ document ++ after) false = .ok (.obj fields)) ∧
    (['[', ']'].Sublist document.toList → ∃ front part back, document.toList = front ++ part ++ back ∧
      '[' ∉ front ∧ ']' ∉ back ∧ part.head? = some '[' ∧ part.getLast? = some ']' ∧
      extract (before ++ document ++ after) false = extract (String.ofList part) false ∧
      ∀ v, extract (before ++ document ++ after) false = .ok v → v.kind = .arr) := by
  obtain ⟨b, a, hb, ha, hcut⟩ := exists_extract_around_object hopens hcloses hread hbefore hafter hnone
  refine ⟨fun repair => extract_of_object repair hopens hcloses hread, fun hbrackets => ?_, fun hbrackets => ?_⟩
  · rw [hcut _ (cut?_of_no_brackets hopens hcloses hb ha hbrackets), decodeCut]
    simp only [show readChars .strict document.toList = .ok (.obj fields) from hread]
  · obtain ⟨front, part, back, hsplit, hfront, hback, hhead, hlast⟩ := exists_array_of_brackets hbrackets
    have hpart := hcut part (cut?_of_brackets_around hsplit hfront hback hhead hlast hb ha)
    refine ⟨front, part, back, hsplit, hfront, hback, hhead, hlast, ?_, fun v hv => ?_⟩
    · rw [hpart, extract_of_array false hhead hlast]
    · exact kind_of_decodeCut hhead (hpart.symm.trans hv)

/-- An object whose texts hold brackets the wrong way round. -/
def crossed : String := "\x7b\"from\": \"a], \\\"b\\\"\", \"to\": \x7b\"[c\": 1\x7d\x7d"

theorem extract_object_crossed : crossed.toList.head? = some '\x7b' ∧ crossed.toList.getLast? = some '\x7d' ∧
    read .strict crossed = .ok (.ofFields [("from", .str "a], \"b\""), ("to", .ofFields [("[c", .ofInt 1)])]) ∧
    IsProse "Moved: ".toList ∧ IsProse " (done)\n".toList ∧
    (∀ v, read .strict (Text.strip ("Moved: " ++ crossed ++ " (done)\n")) ≠ .ok v) ∧
    extract ("Moved: " ++ crossed ++ " (done)\n") false =
      .ok (.ofFields [("from", .str "a], \"b\""), ("to", .ofFields [("[c", .ofInt 1)])]) := by
  have hread : read .strict crossed =
      .ok (.ofFields [("from", .str "a], \"b\""), ("to", .ofFields [("[c", .ofInt 1)])]) := by rfl
  have hnone : ∀ v, read .strict (Text.strip ("Moved: " ++ crossed ++ " (done)\n")) ≠ .ok v := by
    have herror : read .strict (Text.strip ("Moved: " ++ crossed ++ " (done)\n")) =
        .error (.malformed .noValue 0) := by rfl
    rw [herror]
    exact fun _ h => nomatch h
  have hbefore : IsProse "Moved: ".toList := by decide +kernel
  have hafter : IsProse " (done)\n".toList := by decide +kernel
  obtain ⟨-, hobject, -⟩ := extract_object rfl rfl hread hbefore hafter hnone
  exact ⟨rfl, rfl, hread, hbefore, hafter, hnone, hobject (by decide +kernel)⟩

/-- An object that holds an array. -/
def listing : String := "\x7b\"rows\": [1, 2]\x7d"

/-- **Not every object is found.** Around an object with an array in it, prose makes the array stand for the whole. -/
theorem extract_object_not_found : listing.toList.head? = some '\x7b' ∧ listing.toList.getLast? = some '\x7d' ∧
    read .strict listing = .ok (.ofFields [("rows", .arr [.ofInt 1, .ofInt 2])]) ∧
    IsProse "Here: ".toList ∧ IsProse " - done".toList ∧
    read .strict (Text.strip ("Here: " ++ listing ++ " - done")) = .error (.malformed .noValue 0) ∧
    extract listing true = .ok (.ofFields [("rows", .arr [.ofInt 1, .ofInt 2])]) ∧
    extract ("Here: " ++ listing ++ " - done") false = .ok (.arr [.ofInt 1, .ofInt 2]) :=
  ⟨rfl, rfl, rfl, by decide +kernel, by decide +kernel, rfl, rfl, rfl⟩

end LiveSurface.Json
