import LiveSurface.Proofs.Render.Rules
import Mathlib.Data.List.Chain
import Mathlib.Data.List.Perm.Basic
import Mathlib.Logic.Relation
/-!
# The graph of references

A stored component refers to the stored components that its body names. Drawing walks down this graph, and a
`Trail` is what it has walked: the ids above the current one. Below an id from which no circle can be reached,
every walk ends, so that recursion along references is well founded there.

Results:
* `Surface.Trail.nodup`: without circles no id comes up twice on a trail.
* `Surface.Acyclic.acc`: without circles references are well founded.
* `Surface.acyclic_of_rank`, `Surface.IsChain.length_le`: ranks that go down along references.
-/
namespace LiveSurface.Surface

variable {s : Surface} {start a b : String}

/-- A stored component names another one. -/
def Refers (s : Surface) (a b : String) : Prop :=
  ∃ c, s.component? a = some c ∧ b ∈ c.body.references ∧ (s.component? b).isSome

instance (s : Surface) (a b : String) : Decidable (s.Refers a b) :=
  match h : s.component? a with
  | none => .isFalse fun ⟨_, hc, _⟩ => by rw [h] at hc; cases hc
  | some c =>
    decidable_of_iff (b ∈ c.body.references ∧ (s.component? b).isSome)
      ⟨fun hb => ⟨c, h, hb⟩, fun ⟨_, hc, hb⟩ => by rw [h] at hc; cases hc; exact hb⟩

theorem component?_of_not_refers {c : Component} (ha : s.component? a = some c) (hb : b ∈ c.body.references)
    (h : ¬s.Refers a b) : s.component? b = none := by
  rw [← Option.not_isSome_iff_eq_none]
  intro hsome
  exact h ⟨c, ha, hb, hsome⟩

/-- References lead from an id to another in some steps, or in none. -/
abbrev Reaches (s : Surface) : String → String → Prop := Relation.ReflTransGen s.Refers

/-- No circle of references can be reached from an id. -/
def Acyclic (s : Surface) (start : String) : Prop :=
  ∀ a, s.Reaches start a → ¬Relation.TransGen s.Refers a a

/-- A chain of references between stored components that begins at an id. -/
structure IsChain (s : Surface) (start : String) (ids : List String) : Prop where
  head : ids.head? = some start
  stored : ∀ a ∈ ids, (s.component? a).isSome
  links : ids.IsChain s.Refers

/-! ## Trails -/

/-- The ids above an id on a walk from `start`, the nearest one first. -/
inductive Trail (s : Surface) (start : String) : String → List String → Prop
  | nil : Trail s start start []
  | cons {a b : String} {above : List String} (h : Trail s start a above) (hr : s.Refers a b) :
    Trail s start b (a :: above)

namespace Trail

variable {above : List String}

theorem reaches (h : s.Trail start a above) : s.Reaches start a := by
  induction h with
  | nil => exact .refl
  | cons _ hr ih => exact ih.tail hr

theorem transGen_of_mem (h : s.Trail start a above) (hb : b ∈ above) : Relation.TransGen s.Refers b a := by
  induction h with
  | nil => cases hb
  | cons _ hr ih =>
    rcases List.mem_cons.mp hb with rfl | hb
    · exact .single hr
    · exact (ih hb).tail hr

/-- Without circles no id comes up twice. -/
theorem nodup (h : s.Trail start a above) (hs : s.Acyclic start) : (a :: above).Nodup := by
  have hnot : ∀ {a above}, s.Trail start a above → a ∉ above := fun ht hmem =>
    hs _ ht.reaches (ht.transGen_of_mem hmem)
  induction h with
  | nil => exact List.nodup_cons.mpr ⟨List.not_mem_nil, .nil⟩
  | cons ht hr ih => exact List.nodup_cons.mpr ⟨hnot (.cons ht hr), ih⟩

theorem stored (h : s.Trail start a above) : ∀ b ∈ above, (s.component? b).isSome := by
  induction h with
  | nil => intro b hb; cases hb
  | cons _ hr ih =>
    intro b hb
    rcases List.mem_cons.mp hb with rfl | hb
    · obtain ⟨c, hc, -⟩ := hr
      rw [hc]; rfl
    · exact ih b hb

/-- A trail read from its start is a chain. -/
theorem isChain (h : s.Trail start a above) (ha : (s.component? a).isSome) :
    s.IsChain start (a :: above).reverse := by
  refine ⟨?_, ?_, ?_⟩
  · clear ha
    induction h with
    | nil => rfl
    | cons _ _ ih => rw [List.reverse_cons, List.head?_append, ih]; rfl
  · intro b hb
    rcases List.mem_cons.mp (List.mem_reverse.mp hb) with rfl | hb
    · exact ha
    · exact h.stored b hb
  · clear ha
    induction h with
    | nil => exact .singleton _
    | cons _ hr ih =>
      rw [List.reverse_cons, List.isChain_append]
      refine ⟨ih, .singleton _, ?_⟩
      intro x hx y hy
      rw [List.getLast?_reverse] at hx
      cases hx
      cases hy
      exact hr

end Trail

/-! ## Circles and ranks -/

theorem Refers.stored (h : s.Refers a b) : b ∈ s.components.keys := by
  obtain ⟨_, _, _, hb⟩ := h
  exact Entries.mem_keys_iff.mpr hb

/-- Without circles references are well founded: a trail is no longer than the components are many. -/
theorem Acyclic.acc (h : s.Acyclic start) : Acc (fun b a => s.Refers a b) start := by
  have hlen : ∀ {a above}, s.Trail start a above → above.length ≤ s.components.keys.length := by
    intro a above ht
    have hsub : above ⊆ s.components.keys := fun b hb => Entries.mem_keys_iff.mpr (ht.stored b hb)
    exact (List.subperm_of_subset (ht.nodup h).of_cons hsub).length_le
  -- Every step makes the trail longer, and `n` is by how much it still can.
  have hacc : ∀ n a above, s.Trail start a above → s.components.keys.length ≤ above.length + n →
      Acc (fun b a => s.Refers a b) a := by
    intro n
    induction n with
    | zero =>
      intro a above ht hn
      refine .intro a fun b hb => ?_
      have hb' := hlen (.cons ht hb)
      rw [List.length_cons] at hb'
      omega
    | succ n ih =>
      intro a above ht hn
      refine .intro a fun b hb => ih b (a :: above) (.cons ht hb) ?_
      rw [List.length_cons]
      omega
  exact hacc s.components.keys.length start [] .nil (by simp)

section
variable {rank : String → Nat} (hrank : ∀ e ∈ s.components, ∀ b ∈ e.2.body.references, rank b < rank e.1)
include hrank

theorem Refers.rank_lt (h : s.Refers a b) : rank b < rank a := by
  obtain ⟨c, hc, hb, -⟩ := h
  exact hrank (a, c) (Entries.mem_of_get? hc) b hb

/-- Where ranks go down along references, there are no circles. -/
theorem acyclic_of_rank (start : String) : s.Acyclic start := by
  have hlt : ∀ {a b}, Relation.TransGen s.Refers a b → rank b < rank a := by
    intro a b h
    induction h with
    | single hr => exact hr.rank_lt hrank
    | tail _ hr ih =>
      have := hr.rank_lt hrank
      omega
  intro a _ ha
  exact absurd (hlt ha) (Nat.lt_irrefl _)

/-- A chain is no longer than the rank of its start allows. -/
theorem IsChain.length_le {ids : List String} (h : s.IsChain start ids) : ids.length ≤ rank start + 1 := by
  obtain ⟨hhead, -, hlinks⟩ := h
  induction ids generalizing start with
  | nil => simp
  | cons a rest ih =>
    obtain rfl : a = start := by simpa using hhead
    cases rest with
    | nil => simp
    | cons b rest =>
      obtain ⟨hr, hrest⟩ := List.isChain_cons_cons.mp hlinks
      have hlt := hr.rank_lt hrank
      have hle := ih rfl hrest
      rw [List.length_cons]
      omega

end

end LiveSurface.Surface
