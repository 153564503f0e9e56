import LiveSurface.Proofs.Path.Frame
/-!
# Writes at disjoint locations

The location of a value is the entries on the way down to it. Two paths that are spelled differently may have one
location, as `/rows/1` and `rows/01/` have in an array. Two locations are disjoint if neither of them lies inside the
other, nor are they the same. Then they part at some container, and below it a write at the one does not get in the way
of a write at the other.

The induction is on where the paths part. There the writes put different entries into one container, and above it they
put what they have made in turn under the same entry.

Results:
* `parted_of_locate?`: paths to disjoint locations part on the way down.
* `exists_write?_comm`: writes to paths that part come to the same tree in either order.
* `setAt_comm`: two writes at disjoint locations, and what is found there afterwards.
-/
namespace LiveSurface.Json

/-- An entry of a container: the field of a name, or the item at an index. -/
inductive Place
  | field (name : String)
  | item (index : Nat)
deriving DecidableEq, Repr

/-- The entry of a container that a segment selects. -/
def place? (v : Json) (segment : String) : Option Place :=
  match v with
  | .obj _ => some (.field segment)
  | .arr _ =>
    match Path.index? segment with
    | .ok (some i) => some (.item i)
    | _ => none
  | _ => none

/-- The location to which segments lead, the entries on the way down, if all of these exist. -/
def locate? : Json → List String → Option (List Place)
  | _, [] => some []
  | v, s :: rest =>
    match v.child? s with
    | .ok (some w) => do
      let place ← v.place? s
      let below ← w.locate? rest
      pure (place :: below)
    | _ => none

section
variable {u v w tree : Json} {s t : String} {rest p q : List String} {here there : List Place}

/-! ## Locations -/

theorem locate?_cons (h : tree.locate? (s :: rest) = some here) :
    ∃ u place below, tree.child? s = .ok (some u) ∧ tree.place? s = some place ∧ u.locate? rest = some below ∧
      here = place :: below := by
  unfold locate? at h
  split at h
  · next u hchild =>
    obtain ⟨place, hplace, h⟩ := Option.bind_eq_some_iff.mp h
    obtain ⟨below, hbelow, h⟩ := Option.bind_eq_some_iff.mp h
    cases h
    exact ⟨u, place, below, hchild, hplace, hbelow, rfl⟩
  · cases h

/-- At a location there is a value. -/
theorem exists_find?_of_locate? (h : tree.locate? p = some here) : ∃ u, tree.find? p = .ok (some u) := by
  induction p generalizing tree here with
  | nil => exact ⟨tree, rfl⟩
  | cons s rest ih =>
    obtain ⟨u, _, below, hchild, -, hbelow, -⟩ := locate?_cons h
    obtain ⟨found, hfound⟩ := ih hbelow
    refine ⟨found, ?_⟩
    rw [find?_of_child? hchild]
    exact hfound

theorem sameEntry_iff_place? {a b : Place} (hs : tree.place? s = some a) (ht : tree.place? t = some b) :
    tree.SameEntry s t ↔ a = b := by
  cases tree with
  | obj fields =>
    cases hs
    cases ht
    simp [SameEntry]
  | arr items =>
    have hindex : ∀ {s : String} {a : Place}, (Json.arr items).place? s = some a →
        ∃ i, Path.index? s = .ok (some i) ∧ a = .item i := by
      intro s a h
      unfold place? at h
      simp only at h
      split at h
      · next i hi =>
        cases h
        exact ⟨i, hi, rfl⟩
      · cases h
    obtain ⟨i, hi, rfl⟩ := hindex hs
    obtain ⟨j, hj, rfl⟩ := hindex ht
    simp [SameEntry, hi, hj, eq_comm]
  | _ => cases hs

/-- **Paths to disjoint locations part** on the way down. -/
theorem parted_of_locate? (hp : tree.locate? p = some here) (hq : tree.locate? q = some there)
    (hhere : ¬here <+: there) (hthere : ¬there <+: here) : tree.Parted p q := by
  induction p generalizing tree q here there with
  | nil =>
    cases hp
    exact absurd List.nil_prefix hhere
  | cons s p ih =>
    cases q with
    | nil =>
      cases hq
      exact absurd List.nil_prefix hthere
    | cons t q =>
      obtain ⟨u, a, above, hu, ha, habove, rfl⟩ := locate?_cons hp
      obtain ⟨u', b, below, hu', hb, hbelow, rfl⟩ := locate?_cons hq
      by_cases hsame : tree.SameEntry s t
      · obtain rfl := (sameEntry_iff_place? ha hb).mp hsame
        obtain rfl : u = u' := by
          rw [hsame.child?_eq, hu] at hu'
          cases hu'
          rfl
        rw [List.prefix_cons_inj] at hhere hthere
        exact .deeper hsame hu (ih habove hbelow hhere hthere)
      · exact .here hsame

/-! ## Two writes -/

/-- A write at a value that is there is done. -/
theorem exists_write?_of_find?_some {found : Json} (h : tree.find? p = .ok (some found)) (v : Json) :
    ∃ new, write? v tree p = .ok new := by
  induction p generalizing tree with
  | nil => exact ⟨v, rfl⟩
  | cons s rest ih =>
    obtain ⟨u, hchild, hfound⟩ := exists_child?_of_find? h
    obtain ⟨made, hmade⟩ := ih hfound
    obtain ⟨new, hnew, -⟩ := exists_write?_of_child? hchild (writeEntry_of_write? s hmade)
    exact ⟨new, hnew⟩

/-- **Writes to paths that part come to the same tree in either order**, if there is a value at both. -/
theorem exists_write?_comm {found found' : Json} (h : tree.Parted p q) (hp : tree.find? p = .ok (some found))
    (hq : tree.find? q = .ok (some found')) (v w : Json) :
    ∃ left right new, write? v tree p = .ok left ∧ write? w left q = .ok new ∧
      write? w tree q = .ok right ∧ write? v right p = .ok new := by
  induction h with
  | @here tree s t p q hne =>
    obtain ⟨u, hu, hbelow⟩ := exists_child?_of_find? hp
    obtain ⟨u', hu', hbelow'⟩ := exists_child?_of_find? hq
    obtain ⟨made, hmade⟩ := exists_write?_of_find?_some hbelow v
    obtain ⟨made', hmade'⟩ := exists_write?_of_find?_some hbelow' w
    have hentry := writeEntry_of_write? s hmade
    have hentry' := writeEntry_of_write? t hmade'
    obtain ⟨left, hleft, hputleft⟩ := exists_write?_of_child? hu hentry
    obtain ⟨right, hright, hputright⟩ := exists_write?_of_child? hu' hentry'
    -- Beside the entry that the first write has changed, the second one finds what was there before.
    have hne' : ¬tree.SameEntry t s := fun hsame => hne hsame.symm
    have huleft : left.child? t = .ok (some u') := (hputleft.child?_of_not_sameEntry hne).trans hu'
    have huright : right.child? s = .ok (some u) := (hputright.child?_of_not_sameEntry hne').trans hu
    obtain ⟨new, hnew, hputnew⟩ := exists_write?_of_child? huleft hentry'
    obtain ⟨last, hlast, hputlast⟩ := exists_write?_of_child? huright hentry
    obtain rfl : last = new := hputleft.comm hne hu hu' hputnew hputright hputlast
    exact ⟨left, right, last, hleft, hnew, hright, hlast⟩
  | @deeper tree u s t p q hsame hu hrest ih =>
    have hu' : tree.child? t = .ok (some u) := hsame.child?_eq.trans hu
    rw [find?_of_child? hu] at hp
    rw [find?_of_child? hu'] at hq
    obtain ⟨below, below', made, hbelow, hmade, hbelow', hmade'⟩ := ih hp hq
    obtain ⟨left, hleft, hputleft⟩ := exists_write?_of_child? hu (writeEntry_of_write? s hbelow)
    obtain ⟨right, hright, hputright⟩ := exists_write?_of_child? hu' (writeEntry_of_write? t hbelow')
    -- The second write enters what the first one has made, and puts the same under the same entry.
    have hsameleft : left.SameEntry s t := hputleft.sameEntry_iff.mpr hsame
    have hsameright : right.SameEntry t s := hputright.sameEntry_iff.mpr hsame.symm
    obtain ⟨new, hnew, hputnew⟩ := exists_write?_of_child? (hsameleft.child?_eq.trans hputleft.child?_self)
      (writeEntry_of_write? t hmade)
    obtain ⟨last, hlast, hputlast⟩ := exists_write?_of_child? (hsameright.child?_eq.trans hputright.child?_self)
      (writeEntry_of_write? s hmade')
    have hboth : PutsEntry s made tree new := hputleft.trans (hputnew.of_sameEntry hsameleft)
    have hboth' : PutsEntry s made tree last := (hputright.of_sameEntry hsame).trans hputlast
    obtain rfl : last = new := hboth.unique hboth'
    exact ⟨left, right, last, hleft, hnew, hright, hlast⟩

/-- **Writes at disjoint locations commute.** If two paths lead to values, neither of which is at the location of the
other or inside it, a write at the one path and then at the other is done without a word, and comes to the same tree as
the writes in the other order. Both values are found there. -/
theorem setAt_comm (tree : Json) {p q : String} {here there : List Place} (v w : Json)
    (hp : tree.locate? (Path.segments p) = some here) (hq : tree.locate? (Path.segments q) = some there)
    (hhere : ¬here <+: there) (hthere : ¬there <+: here) :
    ∃ new, (tree.setAt p v >>= fun made => made.setAt q w) = pure new ∧
      (tree.setAt q w >>= fun made => made.setAt p v) = pure new ∧
      new.getAt p = .ok v ∧ new.getAt q = .ok w := by
  obtain ⟨found, hfound⟩ := exists_find?_of_locate? hp
  obtain ⟨found', hfound'⟩ := exists_find?_of_locate? hq
  have hparted := parted_of_locate? hp hq hhere hthere
  obtain ⟨left, right, new, hleft, hnew, hright, hlast⟩ := exists_write?_comm hparted hfound hfound' v w
  refine ⟨new, ?_, ?_, ?_, ?_⟩
  · rw [setAt_of_write? hleft, pure_bind, setAt_of_write? hnew]
  · rw [setAt_of_write? hright, pure_bind, setAt_of_write? hlast]
  · exact getAt_of_write? hlast
  · exact getAt_of_write? hnew

/-- An array of an array and of two objects. -/
def grid : Json := .arr [.arr [.null, .bool true], .ofFields [("a", .null), ("b", .null)], .ofFields []]

/-- Two paths through the same item, which one of them spells with a zero in front. -/
theorem setAt_comm_grid :
    grid.locate? (Path.segments "/1/a") = some [.item 1, .field "a"] ∧
      grid.locate? (Path.segments "01/b/") = some [.item 1, .field "b"] ∧
      ¬[Place.item 1, .field "a"] <+: [.item 1, .field "b"] ∧ ¬[Place.item 1, .field "b"] <+: [.item 1, .field "a"] ∧
      ∃ new, (grid.setAt "/1/a" (.bool true) >>= fun made => made.setAt "01/b/" (.bool false)) = pure new ∧
        (grid.setAt "01/b/" (.bool false) >>= fun made => made.setAt "/1/a" (.bool true)) = pure new ∧
        new.getAt "/1/a" = .ok (.bool true) ∧ new.getAt "01/b/" = .ok (.bool false) := by
  have hsegments : Path.segments "/1/a" = ["1", "a"] := by decide
  have hsegments' : Path.segments "01/b/" = ["01", "b"] := by decide
  have hp : grid.locate? (Path.segments "/1/a") = some [.item 1, .field "a"] := by
    rw [hsegments]
    rfl
  have hq : grid.locate? (Path.segments "01/b/") = some [.item 1, .field "b"] := by
    rw [hsegments']
    rfl
  have hhere : ¬[Place.item 1, .field "a"] <+: [.item 1, .field "b"] := by decide
  have hthere : ¬[Place.item 1, .field "b"] <+: [.item 1, .field "a"] := by decide
  exact ⟨hp, hq, hhere, hthere, setAt_comm grid _ _ hp hq hhere hthere⟩

end

end LiveSurface.Json
