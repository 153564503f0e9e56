import LiveSurface.Proofs.Path.Lookup
/-!
# Relative paths

A relative path goes on where its context ends: the segments of what it means are those of the context and then its own,
whatever slashes stand between them. So it is looked up in two stages, first the context and then the rest in the value
there. A context that leads nowhere reads null, in which nothing is found, so that the two stages agree there as well.

Results:
* `Path.segments_resolve_slash`, `Path.segments_resolve_dot`: the segments of what a relative path means.
* `Json.getAt_resolve_slash`, `Json.getAt_resolve_dot`: its lookup in stages.
* `Json.getAt_relative`: relative paths compose.
-/
namespace LiveSurface

namespace Path

theorem resolve_slash_append (path context : String) : resolve ("./" ++ path) context = context ++ ("/" ++ path) := by
  apply String.toList_inj.mp
  simp [resolve]

theorem resolve_dot {context : String} (hne : context ≠ "") : resolve "." context = context := by
  simp [resolve, hne]

/-- **A relative path goes on where its context ends.** -/
theorem segments_resolve_slash (path context : String) :
    segments (resolve ("./" ++ path) context) = segments context ++ segments path := by
  have hslash : ("/" ++ path).toList.head? = some '/' := by simp
  rw [resolve_slash_append, segments_append _ _ (.inr hslash), segments_slash_append]

theorem segments_resolve_dot (context : String) : segments (resolve "." context) = segments context := by
  by_cases hempty : context = ""
  · -- The item at the root is spelled with a slash.
    subst hempty
    rfl
  · rw [resolve_dot hempty]

example : segments (resolve ".//name/" "items//0/") = ["items", "0", "name"] := by decide

end Path

namespace Json

/-- Inside a context is what is inside the value there. -/
theorem getAt_resolve_slash (tree : Json) (context path : String) :
    tree.getAt (Path.resolve ("./" ++ path) context) = tree.getAt context >>= fun v => v.getAt path :=
  getAt_of_segments tree (Path.segments_resolve_slash path context)

theorem getAt_resolve_dot (tree : Json) (context : String) :
    tree.getAt (Path.resolve "." context) = tree.getAt context := by
  simp only [getAt, Path.segments_resolve_dot]

/-- **Relative paths compose.** A lookup inside a context has the outcome of a lookup of the context and of the rest in
the value there, and a lookup of the context's own item has that of the context. This holds of failures as well: the
same index is too long to be read. -/
theorem getAt_relative (tree : Json) (context path : String) :
    (tree.getAt (Path.resolve ("./" ++ path) context) = do
      let v ← tree.getAt context
      v.getAt path) ∧
      tree.getAt (Path.resolve "." context) = tree.getAt context :=
  ⟨getAt_resolve_slash tree context path, getAt_resolve_dot tree context⟩

end Json

end LiveSurface
