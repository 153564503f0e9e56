import LiveSurface.Json.Extract
import Mathlib.Data.List.DropRight
/-!
# What stripping keeps

Stripping takes blanks and the marks of a code fence from both ends of a text. A part of the text that begins and ends
with characters that neither blanks nor fences have stays whole, whatever stands around it: stripping only shortens the
prose in front of the part and behind it. What is cut out of the rest is the part again, if no opener of an array stands
in front of it and no closer behind it.

Results:
* `Text.stripChars_around`: the blanks that go.
* `stripFenceChars_eq_self`: a text with ink at both ends stays as it is.
* `exists_stripFenceChars_around`: what is left of a text around an array.
* `cut?_around`: the array is cut out of it again.
* `extractChars_of_cut?`: what is cut out is all that counts in a text that is no value.
-/
namespace LiveSurface

/-! ## Blanks -/

namespace Text

variable {kept : List Char}

theorem dropWhile_append_of_head? {p : Char → Bool} {cs rest : List Char} (h : ∃ c ∈ rest.head?, p c = false) :
    (cs ++ rest).dropWhile p = cs.dropWhile p ++ rest := by
  obtain ⟨c, hc, hp⟩ := h
  obtain ⟨rest, rfl⟩ := List.head?_eq_some_iff.mp hc
  rw [List.dropWhile_append]
  split
  · next hnil => simp [List.isEmpty_iff.mp hnil, hp]
  · rfl

theorem stripChars_around (hopens : ∃ c ∈ kept.head?, isBlank c = false)
    (hcloses : ∃ c ∈ kept.getLast?, isBlank c = false) (before after : List Char) :
    stripChars (before ++ kept ++ after) = before.dropWhile isBlank ++ kept ++ after.rdropWhile isBlank := by
  have hfront : ∃ c ∈ (kept ++ after).head?, isBlank c = false := by
    obtain ⟨c, hc, hopen⟩ := hopens
    exact ⟨c, by simp [Option.mem_def.mp hc], hopen⟩
  have hback : ∃ c ∈ (kept.reverse ++ (before.dropWhile isBlank).reverse).head?, isBlank c = false := by
    obtain ⟨c, hc, hclose⟩ := hcloses
    exact ⟨c, by simp [Option.mem_def.mp hc], hclose⟩
  rw [stripChars, List.append_assoc, dropWhile_append_of_head? hfront, List.reverse_append, List.reverse_append,
    List.append_assoc, dropWhile_append_of_head? hback]
  simp [List.rdropWhile]

end Text

namespace Json

variable {cs kept : List Char}

/-! ## Fences -/

/-- A character that is neither blank nor the mark of a fence. -/
def IsInk (c : Char) : Prop := Text.isBlank c = false ∧ c ≠ '\x60'

instance (c : Char) : Decidable (IsInk c) := inferInstanceAs (Decidable (_ ∧ _))

theorem dropFront_fence_of_head? (h : ∃ c ∈ cs.head?, IsInk c) :
    (if jsonFence.isPrefixOf cs then cs.drop jsonFence.length else dropFront fence cs) = cs := by
  obtain ⟨c, hc, -, hne⟩ := h
  obtain ⟨rest, rfl⟩ := List.head?_eq_some_iff.mp hc
  simp [jsonFence, fence, dropFront, Ne.symm hne]

theorem dropBack_fence_of_getLast? (h : ∃ c ∈ cs.getLast?, IsInk c) : dropBack fence cs = cs := by
  obtain ⟨c, hc, -, hne⟩ := h
  unfold dropBack
  split
  · next hsuffix =>
    obtain ⟨front, rfl⟩ := List.isSuffixOf_iff_suffix.mp hsuffix
    simp [fence] at hc
    exact absurd hc.symm hne
  · rfl

/-- A text with ink at both ends stays as it is. -/
theorem stripFenceChars_eq_self (hopens : ∃ c ∈ cs.head?, IsInk c) (hcloses : ∃ c ∈ cs.getLast?, IsInk c) :
    stripFenceChars cs = cs := by
  have hstrip : Text.stripChars cs = cs := by
    obtain ⟨c, hc, hopen, -⟩ := hopens
    obtain ⟨d, hd, hclose, -⟩ := hcloses
    simpa using Text.stripChars_around ⟨c, hc, hopen⟩ ⟨d, hd, hclose⟩ [] []
  simp only [stripFenceChars, hstrip, dropFront_fence_of_head? hopens, dropBack_fence_of_getLast? hcloses]

/-- A mark that lacks the character after some prose stands within the prose. -/
theorem prefix_of_prefix_append_cons {mark before rest : List Char} {c : Char} (hc : c ∉ mark)
    (h : mark <+: before ++ c :: rest) : mark <+: before := by
  rcases List.prefix_or_prefix_of_prefix h (List.prefix_append before (c :: rest)) with hmark | hbefore
  · exact hmark
  · obtain ⟨tail, rfl⟩ := hbefore
    rw [List.prefix_append_right_inj] at h
    cases tail with
    | nil => simp
    | cons d tail =>
      obtain ⟨rfl, -⟩ := List.cons_prefix_cons.mp h
      simp at hc

theorem dropFront_around {mark : List Char} {c : Char} (hc : c ∉ mark) (before rest : List Char) :
    ∃ b, dropFront mark (before ++ c :: rest) = b ++ c :: rest ∧ b <:+ before := by
  unfold dropFront
  split
  · next h =>
    obtain ⟨b, rfl⟩ := prefix_of_prefix_append_cons hc (List.isPrefixOf_iff_prefix.mp h)
    exact ⟨b, by simp, List.suffix_append mark b⟩
  · exact ⟨before, rfl, List.suffix_rfl⟩

theorem dropBack_around {mark : List Char} {c : Char} (hc : c ∉ mark) (front after : List Char) :
    ∃ a, dropBack mark (front ++ c :: after) = front ++ c :: a ∧ a <+: after := by
  unfold dropBack
  split
  · next h =>
    have hreverse : mark.reverse <+: after.reverse ++ c :: front.reverse := by
      simpa using List.reverse_prefix.mpr (List.isSuffixOf_iff_suffix.mp h)
    have hmark : mark.reverse <+: after.reverse := prefix_of_prefix_append_cons (by simpa using hc) hreverse
    obtain ⟨a, rfl⟩ := List.reverse_prefix.mp hmark
    refine ⟨a, ?_, List.prefix_append a mark⟩
    have hsplit : front ++ c :: (a ++ mark) = front ++ c :: a ++ mark := by simp
    rw [hsplit, List.length_append, Nat.add_sub_cancel, List.take_left]
  · exact ⟨after, rfl, List.prefix_rfl⟩

/-- The marks that open a fence stand in front of an array. -/
theorem dropOpening_around (hopens : kept.head? = some '[') (before after : List Char) :
    ∃ b, (if jsonFence.isPrefixOf (before ++ kept ++ after) then (before ++ kept ++ after).drop jsonFence.length
      else dropFront fence (before ++ kept ++ after)) = b ++ kept ++ after ∧ b <:+ before := by
  obtain ⟨rest, rfl⟩ := List.head?_eq_some_iff.mp hopens
  have hjson : '[' ∉ jsonFence := by decide
  have hplain : '[' ∉ fence := by decide
  rw [List.append_assoc, List.cons_append]
  split
  · next h =>
    obtain ⟨b, hb, hsuffix⟩ := dropFront_around hjson before (rest ++ after)
    rw [dropFront, if_pos h] at hb
    exact ⟨b, by simp [hb], hsuffix⟩
  · obtain ⟨b, hb, hsuffix⟩ := dropFront_around hplain before (rest ++ after)
    exact ⟨b, by simp [hb], hsuffix⟩

/-- The marks that close a fence stand behind an array. -/
theorem dropClosing_around (hcloses : kept.getLast? = some ']') (before after : List Char) :
    ∃ a, dropBack fence (before ++ kept ++ after) = before ++ kept ++ a ∧ a <+: after := by
  obtain ⟨front, rfl⟩ := List.getLast?_eq_some_iff.mp hcloses
  have hplain : ']' ∉ fence := by decide
  obtain ⟨a, ha, hprefix⟩ := dropBack_around hplain (before ++ front) after
  exact ⟨a, by simpa using ha, hprefix⟩

/-- An array stays whole in a text that is stripped: only the prose around it gets shorter, and begins with no blank. -/
theorem exists_stripFenceChars_around (hopens : kept.head? = some '[') (hcloses : kept.getLast? = some ']')
    (before after : List Char) : ∃ b a, stripFenceChars (before ++ kept ++ after) = b ++ kept ++ a ∧
      b <:+ before ∧ a <+: after ∧ ∀ c ∈ b.head?, Text.isBlank c = false := by
  have hopen : ∃ c ∈ kept.head?, Text.isBlank c = false := ⟨'[', hopens, by decide⟩
  have hclose : ∃ c ∈ kept.getLast?, Text.isBlank c = false := ⟨']', hcloses, by decide⟩
  obtain ⟨b, hb, hbefore⟩ := dropOpening_around hopens (before.dropWhile Text.isBlank) (after.rdropWhile Text.isBlank)
  obtain ⟨a, ha, hafter⟩ := dropClosing_around hcloses b (after.rdropWhile Text.isBlank)
  refine ⟨b.dropWhile Text.isBlank, a.rdropWhile Text.isBlank, ?_, ?_, ?_, ?_⟩
  · simp only [stripFenceChars, Text.stripChars_around hopen hclose, hb, ha]
  · exact (List.dropWhile_suffix _).trans (hbefore.trans (List.dropWhile_suffix _))
  · exact (List.rdropWhile_prefix _ _).trans (hafter.trans (List.rdropWhile_prefix _ _))
  · intro c hc
    have hnot := List.head?_dropWhile_not Text.isBlank b
    rw [hc] at hnot
    exact hnot

/-! ## Cuts -/

theorem firstIndex?_append_cons {c : Char} {before : List Char} (hc : c ∉ before) (rest : List Char) :
    firstIndex? [c] (before ++ c :: rest) = some before.length := by
  induction before with
  | nil => simp [firstIndex?]
  | cons b before ih =>
    obtain ⟨hb, hrest⟩ := not_or.mp (mt List.mem_cons.mpr hc)
    simp [firstIndex?, hb, ih hrest]

theorem lastIndex?_eq_none {c : Char} (hc : c ∉ cs) : lastIndex? [c] cs = none := by
  induction cs with
  | nil => rfl
  | cons b rest ih =>
    obtain ⟨hb, hrest⟩ := not_or.mp (mt List.mem_cons.mpr hc)
    simp [lastIndex?, hb, ih hrest]

theorem lastIndex?_append_cons {c : Char} {after : List Char} (hc : c ∉ after) (front : List Char) :
    lastIndex? [c] (front ++ c :: after) = some front.length := by
  induction front with
  | nil => simp [lastIndex?, lastIndex?_eq_none hc]
  | cons b rest ih => simp [lastIndex?, ih]

theorem boundaries_around {opener closer : Char} {before after : List Char} (hopens : kept.head? = some opener)
    (hcloses : kept.getLast? = some closer) (hbefore : opener ∉ before) (hafter : closer ∉ after) :
    boundaries [opener] [closer] (before ++ kept ++ after) = some (before.length, (before ++ kept).length) := by
  obtain ⟨rest, hrest⟩ := List.head?_eq_some_iff.mp hopens
  obtain ⟨front, hfront⟩ := List.getLast?_eq_some_iff.mp hcloses
  have hfirst : firstIndex? [opener] (before ++ kept ++ after) = some before.length := by
    rw [hrest, List.append_assoc]
    exact firstIndex?_append_cons hbefore (rest ++ after)
  have hlast : lastIndex? [closer] (before ++ kept ++ after) = some (before ++ front).length := by
    have hshape : before ++ kept ++ after = before ++ front ++ closer :: after := by simp [hfront]
    rw [hshape]
    exact lastIndex?_append_cons hafter (before ++ front)
  have hlength : (before ++ front).length + 1 = (before ++ kept).length := by
    simp only [hfront, List.length_append, List.length_singleton, Nat.add_assoc]
  have hle : ¬(before ++ front).length < before.length := by
    rw [List.length_append]
    omega
  simp only [boundaries, hfirst, hlast, Option.bind_eq_bind, Option.bind_some, if_neg hle, hlength]

theorem slice_around (before kept after : List Char) :
    slice (before ++ kept ++ after) (before.length, (before ++ kept).length) = kept := by
  rw [slice, List.take_left, List.drop_left]

/-- Between the first opener and the last closer stands the array alone. -/
theorem cut?_around {before after : List Char} (hopens : kept.head? = some '[') (hcloses : kept.getLast? = some ']')
    (hbefore : '[' ∉ before) (hafter : ']' ∉ after) : cut? (before ++ kept ++ after) = some kept := by
  rw [cut?, boundaries_around hopens hcloses hbefore hafter]
  exact congrArg some (slice_around before kept after)

/-- What is no value itself is as good as what is cut out of it. -/
theorem extractChars_of_cut? {part : List Char} (repair : Bool) (hne : cs ≠ [])
    (hnone : ∀ v, readChars .strict cs ≠ .ok v) (hroom : ∀ array, readChars .strict cs ≠ .error (.tooDeep array))
    (hcut : cut? cs = some part) : extractChars repair cs = decodeCut repair part := by
  rw [extractChars, if_neg hne]
  cases hread : readChars .strict cs with
  | ok v => exact absurd hread (hnone v)
  | error e =>
    cases e with
    | tooDeep array => exact absurd hread (hroom array)
    | _ => simp only [hcut]

end Json

end LiveSurface
