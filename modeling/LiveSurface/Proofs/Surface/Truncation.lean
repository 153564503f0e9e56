import LiveSurface.Proofs.Json.Outermost
import LiveSurface.Proofs.Surface.Atomicity
/-!
# Truncated batches

A batch that arrives as text may break off early. The text of an array has no readable proper front, but a batch is
not just read: a fence is stripped from it, and if it does not read as a whole, the part from its first bracket to its
last, or failing that from its first brace to its last, is read with less strictness. Brackets, braces and backticks
may stand in texts, so that part can end anywhere.

Results:
* `Json.IsArrayText.not_readChars_front`: a proper front of an array cannot be read.
* `Json.IsArrayText.stripFenceChars_front`: stripping a front of an array leaves a front of it.
* `Json.IsArrayText.cut?_front`: what is cut from a front is a front again, or begins with a brace.
* `Json.IsArrayText.kind_of_extractChars_front`: so all that can be extracted from a proper front is an object.
* `Store.applyBatch_truncated`: a truncated batch is refused and changes nothing.
-/
namespace LiveSurface

namespace Json

/-- The text of an array, without blanks around it. -/
structure IsArrayText (cs : List Char) : Prop where
  opens : cs.head? = some '['
  closes : cs.getLast? = some ']'
  reads : ∃ items, readChars .strict cs = .ok (.arr items)

variable {cs whole front : List Char}

/-- A front of an array's text is empty or begins with the bracket. -/
theorem IsArrayText.front_cases (hw : IsArrayText whole) (hf : front <+: whole) :
    front = [] ∨ ∃ rest, front = '[' :: rest := by
  obtain ⟨rest, rfl⟩ := List.head?_eq_some_iff.mp hw.opens
  rcases List.prefix_cons_iff.mp hf with rfl | ⟨below, rfl, -⟩
  · exact .inl rfl
  · exact .inr ⟨below, rfl⟩

/-- No dialect reads a proper front of an array's text. -/
theorem IsArrayText.not_readChars_front (hw : IsArrayText whole) (hf : front <+: whole) (hne : front ≠ whole)
    (d : Dialect) (v : Json) : readChars d front ≠ .ok v := by
  intro hread
  rcases hw.front_cases hf with rfl | ⟨rest, rfl⟩
  · cases hread
  obtain ⟨back, rfl⟩ := hf
  obtain ⟨items, hwhole⟩ := hw.reads
  have hblank : ∀ b ∈ back, isSpace b = true := blank_of_readChars_front rfl hwhole hread
  have hback : back ≠ [] := by
    rintro rfl
    exact hne (List.append_nil _).symm
  have hlast : back.getLast? = some ']' := by
    have hcloses := hw.closes
    rw [List.getLast?_append] at hcloses
    cases hb : back.getLast? with
    | none => exact absurd (List.getLast?_eq_none_iff.mp hb) hback
    | some b => simpa only [hb, Option.some_or] using hcloses
  have hspace : isSpace ']' = true := hblank ']' (List.mem_of_getLast? hlast)
  cases hspace

/-! ## Fences -/

theorem stripChars_front (h : cs = [] ∨ ∃ rest, cs = '[' :: rest) : Text.stripChars cs <+: cs := by
  have hdrop : cs.dropWhile Text.isBlank = cs := by
    rcases h with rfl | ⟨rest, rfl⟩ <;> rfl
  unfold Text.stripChars
  rw [hdrop]
  have hsuffix := List.dropWhile_suffix (l := cs.reverse) Text.isBlank
  simpa using List.reverse_prefix.mpr hsuffix

theorem dropBack_front (tail : List Char) : dropBack tail cs <+: cs := by
  unfold dropBack
  split
  · exact List.take_prefix _ _
  · exact List.prefix_rfl

theorem IsArrayText.stripFenceChars_front (hw : IsArrayText whole) (hf : front <+: whole) :
    stripFenceChars front <+: front := by
  have hinner : Text.stripChars front <+: front := stripChars_front (hw.front_cases hf)
  unfold stripFenceChars
  generalize Text.stripChars front = inner at hinner
  have hopened : (if jsonFence.isPrefixOf inner then inner.drop jsonFence.length else dropFront fence inner) =
      inner := by
    rcases hw.front_cases (hinner.trans hf) with rfl | ⟨rest, rfl⟩ <;> rfl
  simp only [hopened]
  have hback : dropBack fence inner <+: front := (dropBack_front fence).trans hinner
  exact (stripChars_front (hw.front_cases (hback.trans hf))).trans hback

/-! ## Cuts -/

theorem prefix_drop_of_firstIndex? {part : List Char} {i : Nat} (h : firstIndex? part cs = some i) :
    part <+: cs.drop i := by
  induction cs generalizing i with
  | nil =>
    simp only [firstIndex?] at h
    split at h
    · next hpart =>
      subst hpart
      exact List.nil_prefix
    · cases h
  | cons c rest ih =>
    simp only [firstIndex?] at h
    split at h
    · next hpart =>
      cases h
      exact List.isPrefixOf_iff_prefix.mp hpart
    · obtain ⟨j, hj, rfl⟩ := Option.map_eq_some_iff.mp h
      exact ih hj

theorem boundaries_eq_some {opener closer : List Char} {first last : Nat}
    (h : boundaries opener closer cs = some (first, last)) :
    firstIndex? opener cs = some first ∧ first < last := by
  simp only [boundaries, Option.bind_eq_bind, Option.bind_eq_some_iff] at h
  obtain ⟨i, hi, j, hj, h⟩ := h
  split at h
  · cases h
  · cases h
    exact ⟨hi, by omega⟩

/-- A part that is cut out begins with its opener. -/
theorem head?_slice {opener : Char} {closer : List Char} {bounds : Nat × Nat}
    (h : boundaries [opener] closer cs = some bounds) : (slice cs bounds).head? = some opener := by
  obtain ⟨first, last⟩ := bounds
  obtain ⟨hfirst, hlt⟩ := boundaries_eq_some h
  obtain ⟨rest, hrest⟩ := prefix_drop_of_firstIndex? hfirst
  have hat : cs[first]? = some opener := by
    rw [← List.head?_drop, ← hrest]
    rfl
  simp only [slice, List.head?_drop]
  rw [List.getElem?_take_of_lt hlt, hat]

theorem IsArrayText.cut?_front (hw : IsArrayText whole) (hf : front <+: whole) {part : List Char}
    (h : cut? front = some part) : part <+: front ∨ ∃ rest, part = '\x7b' :: rest := by
  rcases hw.front_cases hf with rfl | ⟨rest, rfl⟩
  · cases h
  unfold cut? at h
  cases hb : boundaries ['['] [']'] ('[' :: rest) with
  | some bounds =>
    -- The first bracket is the first character, so nothing is cut off in front.
    left
    obtain ⟨first, last⟩ := bounds
    obtain ⟨hfirst, -⟩ := boundaries_eq_some hb
    cases hfirst
    rw [hb] at h
    cases h
    exact List.take_prefix _ _
  | none =>
    right
    rw [hb] at h
    obtain ⟨bounds, hbraces, rfl⟩ := Option.map_eq_some_iff.mp h
    exact List.head?_eq_some_iff.mp (head?_slice hbraces)

/-! ## Extraction -/

theorem exists_readChars_of_decodeCut {part : List Char} {v : Json} (h : decodeCut false part = .ok v) :
    ∃ d, readChars d part = .ok v := by
  unfold decodeCut at h
  split at h
  · next w hw =>
    cases h
    exact ⟨.strict, hw⟩
  · cases h
  · unfold readCut at h
    split at h
    · next w hw =>
      cases h
      exact ⟨.lenient, hw⟩
    · cases h
    · cases h
    · cases h

/-- All that can be extracted from a proper front of an array's text is an object. -/
theorem IsArrayText.kind_of_extractChars_front (hw : IsArrayText whole) (hf : front <+: whole)
    (hne : front ≠ whole) {v : Json} (h : extractChars false front = .ok v) : v.kind = .obj := by
  unfold extractChars at h
  split at h
  · cases h
  split at h
  · next hread => exact absurd hread (hw.not_readChars_front hf hne _ _)
  · cases h
  split at h
  · cases h
  · next part hpart =>
    obtain ⟨d, hread⟩ := exists_readChars_of_decodeCut h
    rcases hw.cut?_front hf hpart with hcut | ⟨rest, rfl⟩
    · exfalso
      have hshorter : part ≠ whole := by
        rintro rfl
        exact hne (hf.eq_of_length_le hcut.length_le)
      exact hw.not_readChars_front (hcut.trans hf) hshorter d v hread
    · exact kind_of_readChars rfl hread

theorem IsArrayText.kind_of_extract_front {text cut : String} (hw : IsArrayText text.toList)
    (hf : cut.toList <+: text.toList) (hne : cut ≠ text) {v : Json} (h : extract cut false = .ok v) :
    v.kind = .obj := by
  have hstrip : stripFenceChars cut.toList <+: cut.toList := hw.stripFenceChars_front hf
  refine hw.kind_of_extractChars_front (hstrip.trans hf) ?_ h
  intro hsame
  rw [hsame] at hstrip
  exact hne (String.toList_inj.mp (hf.eq_of_length_le hstrip.length_le))

end Json

/-! ## Batches -/

/-- The text of a batch that is not decoded yet. -/
def RawBatch.text? : RawBatch → Option String
  | .text s => some s
  | .octets bytes => some (Text.Utf8.decode bytes)
  | .decoded (.str s) => some s
  | .decoded _ => none

namespace Batch

variable {settings : Settings} {raw : RawBatch} {text : String} {v : Json}

theorem value_of_text? (h : raw.text? = some text) : value settings raw = decode settings text := by
  unfold RawBatch.text? at h
  split at h
  · cases h
    rfl
  · cases h
    rfl
  · cases h
    rfl
  · cases h

theorem extract_of_decode (h : (decode settings text).result = .ok v) : Json.extract text false = .ok v := by
  unfold decode at h
  split at h
  · cases h
  split at h
  · next w hw =>
    cases h
    exact hw
  · cases h
  · cases h
  · cases h

theorem parseValue_error_of_kind (h : v.kind ≠ .arr) : ∃ e, (parseValue settings v).result = .error e := by
  cases v with
  | arr items => exact absurd rfl h
  | _ => exact ⟨_, rfl⟩

theorem parse_error_of_kind (h : ∀ v, (value settings raw).result = .ok v → v.kind ≠ .arr) :
    ∃ e, (parse settings raw).result = .error e := by
  unfold parse
  rw [Logged.result_bind]
  cases hv : (value settings raw).result with
  | error e => exact ⟨e, rfl⟩
  | ok v => exact parseValue_error_of_kind (h v hv)

end Batch

namespace Store

/-- **Truncated batches.** If the text of an array is cut short anywhere, be it before its first character, the batch
is refused and the store stays as it is. -/
theorem applyBatch_truncated (settings : Settings) {whole cut : String} (hw : Json.IsArrayText whole.toList)
    (hf : cut.toList <+: whole.toList) (hne : cut ≠ whole) {raw : RawBatch} (hraw : raw.text? = some cut) :
    (∃ e, (Batch.parse settings raw).result = .error e) ∧
      ∀ store : Store, (store.applyBatch settings raw).1 = store ∧
        ∃ e, (store.applyBatch settings raw).2.result = .error e := by
  have hparse : ∃ e, (Batch.parse settings raw).result = .error e := by
    refine Batch.parse_error_of_kind fun v hv => ?_
    rw [Batch.value_of_text? hraw] at hv
    have hkind : v.kind = .obj := hw.kind_of_extract_front hf hne (Batch.extract_of_decode hv)
    simp [hkind]
  refine ⟨hparse, fun store => ?_⟩
  obtain ⟨e, he⟩ := hparse
  exact ⟨applyBatch_of_parse_error store he, e, by simp only [applyBatch, he]⟩

/-- A deletion, and the front of another whose surface has three backticks for a name. -/
def deletionsFront : String :=
  "[\x7b\"deleteSurface\": \x7b\"surfaceId\": \"a\"\x7d\x7d, " ++
    "\x7b\"deleteSurface\": \x7b\"surfaceId\": \"\x60\x60\x60"

def deletions : String := deletionsFront ++ "\"\x7d\x7d]"

theorem isArrayText_deletions : Json.IsArrayText deletions.toList where
  opens := rfl
  closes := rfl
  reads := ⟨_, rfl⟩

/-- The backticks are stripped as a fence. What is cut from the rest is the first deletion, which would be a message
but is no batch. -/
theorem applyBatch_truncated_deletions :
    deletionsFront.toList <+: deletions.toList ∧ deletionsFront ≠ deletions ∧
      (Batch.parse {} (.text deletionsFront)).result = .error (.unprocessable (.notAnArray .obj)) ∧
      ∀ store : Store, (store.applyBatch {} (.text deletionsFront)).1 = store ∧
        ∃ e, (store.applyBatch {} (.text deletionsFront)).2.result = .error e := by
  have hf : deletionsFront.toList <+: deletions.toList := by decide
  have hne : deletionsFront ≠ deletions := by decide
  have htext : (RawBatch.text deletionsFront).text? = some deletionsFront := rfl
  obtain ⟨-, hstore⟩ := applyBatch_truncated {} isArrayText_deletions hf hne htext
  exact ⟨hf, hne, rfl, hstore⟩

end Store

end LiveSurface
