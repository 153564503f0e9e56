import LiveSurface.Proofs.Path.Frame
import LiveSurface.Proofs.Path.Relative
import Mathlib.Data.List.TakeWhile
/-!
# Paths of items

The path of an entry is that of its container and the entry's name after a slash. The name is taken apart again with the
rest of the path, so that it leads where it leads in the container as a path: to the entry itself if it is one segment,
and elsewhere if it holds slashes or is empty. An index is one segment, and reading its digits gives the index back as
long as they are not too many.

Results:
* `Path.segments_join`, `Json.getAt_join`: the path of an entry, taken apart.
* `Path.join_injective`: entries of different names have different paths.
* `Path.index?_toString`: an index that is written is read back.
* `Json.isBoundTo_join`: where the path of an entry stands for that entry as a context.
* `Json.exists_setAt_join`: a write at the path of an item replaces that item.
-/
namespace LiveSurface

namespace Path

/-! ## The path of an entry -/

theorem segments_of_forall_slash {cs : List Char} (h : ∀ c ∈ cs, c = '/') : segments (String.ofList cs) = [] := by
  have hpieces : ∀ piece ∈ pieces cs, piece = [] := by
    induction cs with
    | nil => simp
    | cons c rest ih =>
      obtain ⟨rfl, hrest⟩ := List.forall_mem_cons.mp h
      simpa using ih hrest
  simpa [segments] using hpieces

/-- Slashes at the end of a path do not count. -/
theorem segments_dropSlashes (path : String) :
    segments (String.ofList (dropSlashes path.toList)) = segments path := by
  have hsplit : path.toList = dropSlashes path.toList ++ (path.toList.reverse.takeWhile (· = '/')).reverse := by
    unfold dropSlashes
    rw [← List.reverse_append, List.takeWhile_append_dropWhile, List.reverse_reverse]
  have hslashes : ∀ c ∈ (path.toList.reverse.takeWhile (· = '/')).reverse, c = '/' := by
    intro c hc
    simpa using List.mem_takeWhile_imp (List.mem_reverse.mp hc)
  generalize (path.toList.reverse.takeWhile (· = '/')).reverse = slashes at hsplit hslashes
  have hpath : path = String.ofList (dropSlashes path.toList) ++ String.ofList slashes := by
    rw [← String.ofList_append, ← hsplit, String.ofList_toList]
  have hrest : String.ofList slashes = "" ∨ (String.ofList slashes).toList.head? = some '/' := by
    cases slashes with
    | nil => exact .inl rfl
    | cons c rest =>
      obtain rfl := hslashes c List.mem_cons_self
      exact .inr (by simp)
  calc segments (String.ofList (dropSlashes path.toList))
      = segments (String.ofList (dropSlashes path.toList)) ++ segments (String.ofList slashes) := by
        rw [segments_of_forall_slash hslashes, List.append_nil]
    _ = segments path := by rw [← segments_append _ _ hrest, ← hpath]

/-- **The path of an entry, taken apart**: the segments of the container and those of the name. -/
theorem segments_join (base name : String) : segments (join base name) = segments base ++ segments name := by
  have hjoin : join base name = String.ofList (dropSlashes base.toList) ++ ("/" ++ name) := by
    apply String.toList_inj.mp
    simp [join]
  rw [hjoin, segments_append _ _ (.inr (by simp)), segments_dropSlashes, segments_slash_append]

/-- Entries of different names have different paths. -/
theorem join_injective (base : String) : Function.Injective (join base) := by
  intro a b h
  have hlists := congrArg String.toList h
  simp only [join, String.toList_ofList, List.append_cancel_left_eq, List.cons.injEq, true_and] at hlists
  exact String.toList_inj.mp hlists

/-! ## Indices -/

theorem toString_injective : Function.Injective fun i : Nat => toString i := by
  intro i j h
  have hdigits : Nat.toDigits 10 i = Nat.toDigits 10 j := by
    simpa [Nat.toString_eq_repr] using congrArg String.toList h
  rw [← Text.decimalValue_toDigits i, hdigits, Text.decimalValue_toDigits]

/-- **An index that is written is read back**, if it has not too many digits. -/
theorem index?_toString {i : Nat} (hlen : (toString i).length ≤ maxDigits) : index? (toString i) = .ok (some i) := by
  have hdigits : (toString i).toList = Nat.toDigits 10 i := by rw [Nat.toString_eq_repr, Nat.toList_repr]
  have hall : (Nat.toDigits 10 i).all Text.isAsciiDigit = true := by
    rw [List.all_eq_true]
    intro c hc
    exact Text.isAsciiDigit_of_isDigit (Nat.isDigit_of_mem_toDigits (by decide) (by decide) hc)
  rw [← String.length_toList, hdigits] at hlen
  unfold index?
  simp only [hdigits, Text.decimalValue_toDigits]
  rw [if_pos ⟨Nat.toDigits_ne_nil, hall⟩, if_neg (Nat.not_lt.mpr hlen)]

theorem segments_toString (i : Nat) : segments (toString i) = [toString i] := by
  have hdigits : (toString i).toList = Nat.toDigits 10 i := by rw [Nat.toString_eq_repr, Nat.toList_repr]
  apply segments_of_not_mem
  · intro h
    rw [h] at hdigits
    exact Nat.toDigits_ne_nil hdigits.symm
  · intro h
    rw [hdigits] at h
    have hslash := Nat.isDigit_of_mem_toDigits (by decide) (by decide) h
    cases hslash

end Path

namespace Json

section
variable {data container : Json} {path name : String}

/-! ## What an entry's path reads -/

/-- The path of an entry reads what the entry's name reads as a path in the container. -/
theorem getAt_join (h : data.getAt path = .ok container) (name : String) :
    data.getAt (Path.join path name) = container.getAt name := by
  rw [getAt_of_segments data (Path.segments_join path name), h]
  rfl

/-- In a context the data model shows an entry: its path reads the entry, `.` means the entry, and the paths that begin
with `./` read what is inside it. -/
structure IsBoundTo (data : Json) (context : String) (entry : Json) : Prop where
  whole : data.getAt context = .ok entry
  dot : data.getAt (Path.resolve "." context) = .ok entry
  inside : ∀ path, data.getAt (Path.resolve ("./" ++ path) context) = entry.getAt path

/-- **The path of an entry as a context**, where it reads the entry. -/
theorem isBoundTo_join {entry : Json} (h : data.getAt (Path.join path name) = .ok entry) :
    data.IsBoundTo (Path.join path name) entry where
  whole := h
  dot := by rw [getAt_resolve_dot, h]
  inside below := by
    rw [getAt_resolve_slash, h]
    rfl

/-- A name that is one segment selects the field of that name. -/
theorem getAt_field {fields : Fields} {entry : Json} (h : fields.get? (name : Key) = some entry) (hne : name ≠ "")
    (hslash : '/' ∉ name.toList) : (Json.obj fields).getAt name = .ok entry := by
  unfold getAt
  rw [Path.segments_of_not_mem hne hslash, find?_obj, h]
  rfl

/-- An index selects the item at its place. -/
theorem getAt_item {items : List Json} {i : Nat} {entry : Json} (h : items[i]? = some entry)
    (hlen : (toString i).length ≤ maxDigits) : (Json.arr items).getAt (toString i) = .ok entry := by
  unfold getAt
  rw [Path.segments_toString, find?_of_child? (child?_arr (Path.index?_toString hlen)), h]
  rfl

/-- **A write at the path of an item replaces that item** and nothing else. -/
theorem exists_setAt_join {items : List Json} {i : Nat} (h : data.getAt path = .ok (.arr items)) (hi : i < items.length)
    (hlen : (toString i).length ≤ maxDigits) (v : Json) :
    ∃ new, data.setAt (Path.join path (toString i)) v = pure new ∧
      Replaced (.arr items) (.arr (items.set i v)) (Path.segments path) data new := by
  have hwrite : write? v (.arr items) [toString i] = .ok (.arr (items.set i v)) := by
    rw [write?_arr, Path.index?_toString hlen]
    simp only [if_neg (Nat.not_lt.mpr (Nat.le_of_lt hi)), writeEntry_nil, Except.map, putItem_eq_set hi]
  have hfind := find?_of_getAt h (by simp)
  obtain ⟨new, hnew, hreplaced⟩ := exists_write?_of_find? hfind hwrite
  refine ⟨new, setAt_of_write? ?_, hreplaced⟩
  rw [Path.segments_join, Path.segments_toString]
  exact hnew

end

end Json

end LiveSurface
