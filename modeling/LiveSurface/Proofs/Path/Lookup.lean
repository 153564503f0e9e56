import LiveSurface.Path.Tree
/-!
# Where lookups lead and where they break off

A path that is put together from a front and a rest after a slash leads where the rest leads from the value
at the front. A lookup fails only at an index that is too long to be read.

Results:
* `Path.segments_append`: the segments of a text with a slash in the middle.
* `Json.find?_cons_ok`, `Json.find?_append`, `Json.getAt_of_segments`: a lookup segment by segment and in two stages.
* `Json.find?_error_iff`, `Json.getAt_error_iff`: a lookup fails exactly if it meets an overlong index at an array.
-/
namespace LiveSurface

namespace Path

@[simp] theorem pieces_nil : pieces [] = [[]] := rfl

@[simp] theorem pieces_slash (cs : List Char) : pieces ('/' :: cs) = [] :: pieces cs := rfl

theorem pieces_cons {c : Char} (hc : c ≠ '/') (cs : List Char) : pieces (c :: cs) =
    match pieces cs with
    | [] => [[c]]
    | piece :: more => (c :: piece) :: more := if_neg hc

theorem pieces_ne_nil (cs : List Char) : pieces cs ≠ [] := by
  cases cs with
  | nil => simp
  | cons c rest =>
    by_cases hc : c = '/'
    · simp [hc]
    · rw [pieces_cons hc]
      split <;> simp

theorem pieces_append (front rest : List Char) :
    pieces (front ++ '/' :: rest) = pieces front ++ pieces rest := by
  induction front with
  | nil => simp
  | cons c front ih =>
    by_cases hc : c = '/'
    · simp [hc, ih]
    · rw [List.cons_append, pieces_cons hc, pieces_cons hc, ih]
      cases hp : pieces front with
      | nil => exact absurd hp (pieces_ne_nil front)
      | cons piece more => simp

/-- A slash between two texts parts their segments. -/
theorem segments_append (front rest : String) (hr : rest = "" ∨ rest.toList.head? = some '/') :
    segments (front ++ rest) = segments front ++ segments rest := by
  rcases hr with rfl | hr
  · simp [segments]
  · obtain ⟨cs, hcs⟩ := List.head?_eq_some_iff.mp hr
    have hfront := pieces_append front.toList cs
    simp only [segments, String.toList_append, hcs, hfront, pieces_slash]
    simp

theorem pieces_of_not_mem {cs : List Char} (h : '/' ∉ cs) : pieces cs = [cs] := by
  induction cs with
  | nil => rfl
  | cons c rest ih =>
    simp only [List.mem_cons, not_or] at h
    rw [pieces_cons (Ne.symm h.1), ih h.2]

/-- A text without a slash is a path of one segment. -/
theorem segments_of_not_mem {s : String} (hne : s ≠ "") (h : '/' ∉ s.toList) : segments s = [s] := by
  have hcs : s.toList ≠ [] := by simpa using hne
  simp [segments, pieces_of_not_mem h, hcs]

/-- A slash in front of a path does not count. -/
theorem segments_slash_append (path : String) : segments ("/" ++ path) = segments path := by
  simp [segments]

/-- A slash and a text without one make a path of one segment. -/
theorem segments_slash {cs : List Char} (hne : cs ≠ []) (h : '/' ∉ cs) :
    segments (String.ofList ('/' :: cs)) = [String.ofList cs] := by
  simp [segments, pieces_of_not_mem h, hne]

/-- A segment of digits that is too long to be read as an index. -/
def LongIndex (segment : String) : Prop :=
  (∀ c ∈ segment.toList, Text.isAsciiDigit c = true) ∧ maxDigits < segment.toList.length

theorem index?_error_iff (segment : String) :
    (∃ e, index? segment = .error e) ↔ LongIndex segment := by
  unfold index? LongIndex
  simp only
  split
  · rename_i h
    have hall : ∀ c ∈ segment.toList, Text.isAsciiDigit c = true := by simpa using h.2
    split
    · rename_i hlong; exact ⟨fun _ => ⟨hall, hlong⟩, fun _ => ⟨_, rfl⟩⟩
    · rename_i hshort
      exact ⟨fun ⟨_, he⟩ => (nomatch he), fun hl => absurd hl.2 hshort⟩
  · rename_i h
    refine ⟨fun ⟨_, he⟩ => (nomatch he), fun hl => absurd ⟨?_, ?_⟩ h⟩
    · intro hn
      have hlong := hl.2
      rw [hn] at hlong
      exact absurd hlong (Nat.not_lt_zero _)
    · simpa using hl.1

end Path

namespace Json

/-! ## Lookups in stages -/

section
variable {w : Json} {s : String}

theorem child?_obj (fields : Fields) (s : String) : (Json.obj fields).child? s = .ok (fields.get? (s : Key)) := rfl

theorem child?_arr {items : List Json} {i : Nat} (h : Path.index? s = .ok (some i)) :
    (Json.arr items).child? s = .ok items[i]? := by
  simp [child?, h, bind, Except.bind]

theorem exists_index_of_child? {items : List Json} (h : (Json.arr items).child? s = .ok (some w)) :
    ∃ i, Path.index? s = .ok (some i) ∧ items[i]? = some w := by
  simp only [child?] at h
  cases hindex : Path.index? s with
  | error e => rw [hindex] at h; cases h
  | ok i? =>
    rw [hindex] at h
    cases i? with
    | none => cases h
    | some i => exact ⟨i, rfl, Except.ok.inj h⟩

end

theorem find?_nil (v : Json) : v.find? [] = .ok (some v) := rfl

theorem find?_cons (v : Json) (s : String) (rest : List String) :
    v.find? (s :: rest) = (v.child? s).bind fun w? =>
      match w? with
      | some w => w.find? rest
      | none => .ok none := rfl

/-- A lookup that comes to an end finds nothing under its first segment, or goes on in the entry there. -/
theorem find?_cons_ok {v : Json} {s : String} {rest : List String} {found : Option Json}
    (h : v.find? (s :: rest) = .ok found) :
    v.child? s = .ok none ∧ found = none ∨ ∃ w, v.child? s = .ok (some w) ∧ w.find? rest = .ok found := by
  rw [find?_cons] at h
  cases hchild : v.child? s with
  | error e => rw [hchild] at h; cases h
  | ok w? =>
    rw [hchild] at h
    cases w? with
    | none => cases h; exact .inl ⟨rfl, rfl⟩
    | some w => exact .inr ⟨w, rfl, h⟩

theorem exists_child?_of_find? {v w : Json} {s : String} {rest : List String}
    (h : v.find? (s :: rest) = .ok (some w)) : ∃ u, v.child? s = .ok (some u) ∧ u.find? rest = .ok (some w) := by
  rcases find?_cons_ok h with ⟨-, hnone⟩ | hentry
  · cases hnone
  · exact hentry

theorem find?_append (v : Json) (front rest : List String) :
    v.find? (front ++ rest) = (v.find? front).bind fun w? =>
      match w? with
      | some w => w.find? rest
      | none => .ok none := by
  induction front generalizing v with
  | nil => rfl
  | cons s front ih =>
    rw [List.cons_append, find?_cons, find?_cons]
    cases v.child? s with
    | error e => rfl
    | ok w? =>
      cases w? with
      | none => rfl
      | some w => exact ih w

/-- Nothing is found in a null. -/
theorem getAt_null (path : String) : Json.null.getAt path = .ok .null := by
  unfold getAt
  cases Path.segments path <;> rfl

/-- **A lookup in two stages**, also if the first one leads nowhere or fails. -/
theorem getAt_of_segments (v : Json) {path front rest : String}
    (h : Path.segments path = Path.segments front ++ Path.segments rest) :
    v.getAt path = v.getAt front >>= fun w => w.getAt rest := by
  have hnull := getAt_null rest
  unfold getAt at hnull ⊢
  rw [h, find?_append]
  cases v.find? (Path.segments front) with
  | error e => rfl
  | ok w? =>
    cases w? with
    | some w => rfl
    | none => exact hnull.symm

/-- A lookup of a path that begins with another one is a lookup of the rest from the value at its front. -/
theorem getAt_append {v w : Json} {front : String} (hw : v.getAt front = .ok w) (rest : String)
    (hr : rest = "" ∨ rest.toList.head? = some '/') : v.getAt (front ++ rest) = w.getAt rest := by
  rw [getAt_of_segments v (Path.segments_append front rest hr), hw]
  rfl

/-- What a path reads is there, unless it is null. -/
theorem find?_of_getAt {v w : Json} {path : String} (h : v.getAt path = .ok w) (hne : w ≠ .null) :
    v.find? (Path.segments path) = .ok (some w) := by
  unfold getAt at h
  cases hf : v.find? (Path.segments path) with
  | error e => rw [hf] at h; cases h
  | ok w? =>
    rw [hf] at h
    cases w? with
    | none => cases h; exact absurd rfl hne
    | some u => cases h; rfl

/-! ## Where lookups, writes and removals break off -/

/-- Segments that lead to an array and go on there with an overlong index. -/
def MeetsLongIndex (v : Json) (segments : List String) : Prop :=
  ∃ above s below items, segments = above ++ s :: below ∧ v.find? above = .ok (some (.arr items)) ∧
    Path.LongIndex s

theorem child?_error_iff (v : Json) (s : String) :
    (∃ e, v.child? s = .error e) ↔ (∃ items, v = .arr items) ∧ Path.LongIndex s := by
  rw [← Path.index?_error_iff]
  cases v with
  | arr items =>
    simp only [child?]
    cases Path.index? s with
    | error e => exact ⟨fun _ => ⟨⟨items, rfl⟩, e, rfl⟩, fun _ => ⟨e, rfl⟩⟩
    | ok i? => cases i? <;> exact ⟨fun ⟨_, he⟩ => (nomatch he), fun ⟨_, _, he⟩ => nomatch he⟩
  | _ => exact ⟨fun ⟨_, he⟩ => (nomatch he), fun ⟨⟨_, hv⟩, _⟩ => nomatch hv⟩

theorem find?_error_iff (v : Json) (segments : List String) :
    (∃ e, v.find? segments = .error e) ↔ v.MeetsLongIndex segments := by
  induction segments generalizing v with
  | nil =>
    refine ⟨fun ⟨_, he⟩ => (nomatch he), fun ⟨above, s, below, items, h, _⟩ => ?_⟩
    simp at h
  | cons s rest ih =>
    rw [find?_cons]
    constructor
    · rintro ⟨e, he⟩
      cases hc : v.child? s with
      | error e' =>
        obtain ⟨⟨items, rfl⟩, hs⟩ := (child?_error_iff v s).mp ⟨e', hc⟩
        exact ⟨[], s, rest, items, rfl, rfl, hs⟩
      | ok w? =>
        rw [hc] at he
        cases w? with
        | none => cases he
        | some w =>
          obtain ⟨above, t, below, items, rfl, ha, ht⟩ := (ih w).mp ⟨e, he⟩
          refine ⟨s :: above, t, below, items, rfl, ?_, ht⟩
          rw [find?_cons, hc]; exact ha
    · rintro ⟨above, t, below, items, hsplit, ha, ht⟩
      cases above with
      | nil =>
        simp only [List.nil_append, List.cons.injEq] at hsplit
        obtain ⟨rfl, rfl⟩ := hsplit
        simp only [find?_nil, Except.ok.injEq, Option.some.injEq] at ha
        obtain ⟨e, he⟩ := (child?_error_iff v s).mpr ⟨⟨items, ha⟩, ht⟩
        exact ⟨e, by rw [he]; rfl⟩
      | cons s' above =>
        simp only [List.cons_append, List.cons.injEq] at hsplit
        obtain ⟨rfl, rfl⟩ := hsplit
        obtain ⟨w, hchild, hw⟩ := exists_child?_of_find? ha
        obtain ⟨e, he⟩ := (ih w).mpr ⟨above, t, below, items, rfl, hw, ht⟩
        exact ⟨e, by rw [hchild]; exact he⟩

end Json

end LiveSurface
