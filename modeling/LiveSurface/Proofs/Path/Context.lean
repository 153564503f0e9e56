import LiveSurface.Proofs.Path.Lookup
/-!
# Paths in a moved context

The context of a template item is empty or begins with a slash. A relative path means in the context `c ++ x`
what it means in `x`, moved under `c`; so do the paths of the entries of the container that it leads to. The
one exception is `.` in the empty context, which is spelled `/` there and not at all under `c`.

Results:
* `Path.join_append`: the path of an entry moves with its container.
* `Path.resolve_shift`, `Path.join_resolve`: what a relative path means moves with its context, and so do the
  contexts of template items.
* `Json.getAt_resolve`: a lookup in a moved context is a lookup in the value at `c`.
-/
namespace LiveSurface

namespace Path

/-- A path that can be a context below another: empty, or with a slash in front. -/
def IsInner (x : String) : Prop := x = "" ∨ x.toList.head? = some '/'

/-- A path that is resolved against its context. -/
def IsRelative (path : String) : Prop := path = "." ∨ ['.', '/'] <+: path.toList

instance (path : String) : Decidable (IsRelative path) := inferInstanceAs (Decidable (_ ∨ _))

theorem dropSlashes_append {cs : List Char} (hne : cs ≠ []) (hend : cs.getLast? ≠ some '/') (ds : List Char) :
    dropSlashes (cs ++ ds) = cs ++ dropSlashes ds := by
  have hlast : ∀ p : List Char, (cs.reverse ++ p).dropWhile (· = '/') = cs.reverse ++ p := by
    intro p
    rw [← List.head?_reverse] at hend
    cases hr : cs.reverse with
    | nil => exact absurd (List.reverse_eq_nil_iff.mp hr) hne
    | cons c rest =>
      have hc : c ≠ '/' := by simpa [hr] using hend
      simp [hc]
  unfold dropSlashes
  rw [List.reverse_append, List.dropWhile_append]
  split
  · rename_i hempty
    have hnil : ds.reverse.dropWhile (· = '/') = [] := by simpa using hempty
    have hfront := hlast []
    rw [List.append_nil] at hfront
    rw [hnil, hfront]
    simp
  · simp

/-- The path of an entry moves with its container. -/
theorem join_append {c : String} (hne : c ≠ "") (hend : c.toList.getLast? ≠ some '/') (base name : String) :
    join (c ++ base) name = c ++ join base name := by
  have hcs : c.toList ≠ [] := by simpa using hne
  unfold join
  rw [String.toList_append, dropSlashes_append hcs hend, List.append_assoc, String.ofList_append,
    String.ofList_toList]

/-- What a relative path means moves with its context, and so do the entries of what it leads to. -/
theorem resolve_shift {c path x : String} (hne : c ≠ "") (hp : IsRelative path) (hx : IsInner x) :
    ∃ y, IsInner y ∧ resolve path (c ++ x) = c ++ y ∧ segments (resolve path x) = segments y ∧
      ∀ name, join (resolve path x) name = join y name := by
  rcases hp with rfl | ⟨rest, hrest⟩
  · rcases hx with rfl | hx
    · refine ⟨"", .inl rfl, ?_, rfl, fun name => rfl⟩
      simp [resolve, hne]
    · have hxne : x ≠ "" := by rintro rfl; cases hx
      refine ⟨x, .inr hx, ?_, ?_, ?_⟩ <;> simp [resolve, hxne, hne]
  · have hlist : path.toList = '.' :: '/' :: rest := hrest.symm
    have hres : ∀ z, resolve path z = String.ofList (z.toList ++ '/' :: rest) := by
      intro z
      simp [resolve, hlist]
    refine ⟨resolve path x, ?_, ?_, rfl, fun _ => rfl⟩
    · rw [hres]
      refine .inr ?_
      rcases hx with rfl | hx
      · simp
      · obtain ⟨cs, hcs⟩ := List.head?_eq_some_iff.mp hx
        simp [hcs]
    · rw [hres, hres, String.toList_append, List.append_assoc, String.ofList_append, String.ofList_toList]

theorem dropSlashes_prefix (cs : List Char) : dropSlashes cs <+: cs := by
  have h := List.reverse_prefix.mpr (List.dropWhile_suffix (l := cs.reverse) fun c => c = '/')
  rwa [List.reverse_reverse] at h

theorem isInner_join {base : String} (hb : IsInner base) (name : String) : IsInner (join base name) := by
  obtain ⟨cs, hcs⟩ := dropSlashes_prefix base.toList
  refine .inr ?_
  unfold join
  rw [String.toList_ofList]
  rcases hd : dropSlashes base.toList with - | ⟨d, ds⟩
  · rfl
  · rw [hd] at hcs
    rcases hb with rfl | hb
    · cases hcs
    · rw [← hcs] at hb
      simpa using hb

/-- The context of a template item moves with the context of its template. -/
theorem join_resolve {c path x : String} (hne : c ≠ "") (hend : c.toList.getLast? ≠ some '/')
    (hp : IsRelative path) (hx : IsInner x) (name : String) :
    join (resolve path (c ++ x)) name = c ++ join (resolve path x) name ∧ IsInner (join (resolve path x) name) := by
  obtain ⟨y, hy, hres, -, hjoin⟩ := resolve_shift hne hp hx
  rw [hres, hjoin, join_append hne hend]
  exact ⟨rfl, isInner_join hy name⟩

end Path

namespace Json

/-- A lookup of a relative path in a moved context is a lookup in the value at `c`. -/
theorem getAt_resolve {data v : Json} {c path x : String} (hne : c ≠ "") (hv : data.getAt c = .ok v)
    (hp : Path.IsRelative path) (hx : Path.IsInner x) :
    data.getAt (Path.resolve path (c ++ x)) = v.getAt (Path.resolve path x) := by
  obtain ⟨y, hy, hres, hseg, -⟩ := Path.resolve_shift hne hp hx
  rw [hres, getAt_append hv y hy]
  simp only [getAt, hseg]

end Json

end LiveSurface
