/-!
# Entries in order of arrival

A finite map kept as a list of entries in the order in which their keys first arrived. It serves as the
fields of an object, the components of a surface and the surfaces of a store.

Results:
* `get?_put_self`, `get?_put_of_ne`: a value put under a key is found there, and nothing else moves.
* `keys_put`, `put_of_not_mem`, `put_middle`: a present key keeps its place, a new key goes to the end.
* `get?_erase_self`, `get?_erase_of_ne`: an erased key is gone, and nothing else moves.
* `get?_append`: of two maps one after the other, the first one is asked first.
* `mem_keys_iff`: a key is present exactly when it has a value.
* `nodup_keys_put`, `nodup_keys_erase`: no key comes up twice.
* `length_erase`: without a present key there is one entry less.
* `get?_perm`: what is found does not depend on the order of the entries.
* `put_put_self`, `put_eq_self`, `erase_put_self`: a value put under a key hides the one before it.
* `put_put_comm`, `erase_put_of_ne`: changes under different keys do not depend on their order, as long as not
  both keys are new.
-/
namespace LiveSurface

/-- A finite map that remembers the order in which its keys arrived. -/
abbrev Entries (κ α : Type) := List (κ × α)

namespace Entries

variable {κ α β : Type} [DecidableEq κ]

/-- The value under a key. -/
def get? : Entries κ α → κ → Option α
  | [], _ => none
  | (k, v) :: rest, key => if k = key then some v else get? rest key

/-- Puts a value under a key: in place if the key is present, at the end if it is new. -/
def put : Entries κ α → κ → α → Entries κ α
  | [], key, value => [(key, value)]
  | (k, v) :: rest, key, value =>
    if k = key then (k, value) :: rest else (k, v) :: put rest key value

/-- Removes a key. -/
def erase (m : Entries κ α) (key : κ) : Entries κ α := m.filter fun e => e.1 ≠ key

/-- The keys in order of arrival. -/
def keys (m : Entries κ α) : List κ := m.map Prod.fst

/-- Whether a key is present. -/
def contains (m : Entries κ α) (key : κ) : Bool := (get? m key).isSome

/-- Puts the entries of a list one after the other. -/
def putAll (m : Entries κ α) (es : List (κ × α)) : Entries κ α :=
  es.foldl (fun m e => put m e.1 e.2) m

/-- The map built from a list of entries: a repeated key keeps its first place and its last value. -/
def ofList (es : List (κ × α)) : Entries κ α := putAll [] es

@[simp] theorem get?_nil (key : κ) : get? ([] : Entries κ α) key = none := rfl

theorem get?_cons (e : κ × α) (rest : Entries κ α) (key : κ) :
    get? (e :: rest) key = if e.1 = key then some e.2 else get? rest key := rfl

@[simp] theorem put_nil (key : κ) (value : α) : put ([] : Entries κ α) key value = [(key, value)] := rfl

theorem put_cons (e : κ × α) (rest : Entries κ α) (key : κ) (value : α) :
    put (e :: rest) key value = if e.1 = key then (e.1, value) :: rest else e :: put rest key value := rfl

@[simp] theorem get?_put_self (m : Entries κ α) (key : κ) (value : α) :
    get? (put m key value) key = some value := by
  induction m with
  | nil => simp [get?_cons]
  | cons e rest ih =>
    obtain ⟨k, v⟩ := e
    by_cases h : k = key <;> simp [put_cons, get?_cons, h, ih]

theorem get?_put_of_ne (m : Entries κ α) {key other : κ} (value : α) (h : other ≠ key) :
    get? (put m key value) other = get? m other := by
  induction m with
  | nil => simp [get?_cons, Ne.symm h]
  | cons e rest ih =>
    obtain ⟨k, v⟩ := e
    by_cases hk : k = key
    · subst hk; simp [put_cons, get?_cons, Ne.symm h]
    · simp [put_cons, get?_cons, hk, ih]

theorem get?_append (m m' : Entries κ α) (key : κ) : get? (m ++ m') key = (get? m key).or (get? m' key) := by
  induction m with
  | nil => rfl
  | cons e rest ih =>
    obtain ⟨k, v⟩ := e
    by_cases hk : k = key <;> simp [get?_cons, hk, ih]

theorem mem_keys_iff {m : Entries κ α} {key : κ} : key ∈ keys m ↔ (get? m key).isSome := by
  induction m with
  | nil => simp [keys]
  | cons e rest ih =>
    obtain ⟨k, v⟩ := e
    by_cases hk : k = key
    · subst hk; simp [keys, get?_cons]
    · simp only [keys] at ih
      simp [keys, get?_cons, hk, Ne.symm hk, ← ih]

theorem mem_of_get? {m : Entries κ α} {key : κ} {value : α} (h : get? m key = some value) :
    (key, value) ∈ m := by
  induction m with
  | nil => cases h
  | cons e rest ih =>
    obtain ⟨k, v⟩ := e
    by_cases hk : k = key
    · subst hk
      simp only [get?_cons, if_true, Option.some.injEq] at h
      simp [h]
    · exact List.mem_cons_of_mem _ (ih (by simpa [get?_cons, hk] using h))

theorem get?_perm {m m' : Entries κ α} (h : m.Perm m') (hm : (keys m).Nodup) (key : κ) : get? m key = get? m' key := by
  induction h with
  | nil => rfl
  | cons e _ ih =>
    simp only [get?_cons]
    rw [ih (List.nodup_cons.mp hm).2]
  | swap e e' rest =>
    have hne : e'.1 ≠ e.1 := by
      rintro heq
      exact (List.nodup_cons.mp hm).1 (heq ▸ List.mem_cons_self)
    simp only [get?_cons]
    by_cases he : e.1 = key
    · have he' : e'.1 ≠ key := fun h => hne (h.trans he.symm)
      simp only [if_pos he, if_neg he']
    · simp only [if_neg he]
  | trans h₁ _ ih₁ ih₂ => exact (ih₁ hm).trans (ih₂ ((h₁.map Prod.fst).nodup_iff.mp hm))

theorem mem_put {m : Entries κ α} {key : κ} {value : α} {e : κ × α} (h : e ∈ put m key value) :
    e ∈ m ∨ e = (key, value) := by
  induction m with
  | nil => exact .inr (by simpa using h)
  | cons e' rest ih =>
    obtain ⟨k, v⟩ := e'
    by_cases hk : k = key
    · subst hk
      rcases List.mem_cons.mp (by simpa [put_cons] using h) with h | h
      · exact .inr h
      · exact .inl (List.mem_cons_of_mem _ h)
    · rcases List.mem_cons.mp (by simpa [put_cons, hk] using h) with h | h
      · exact .inl (h ▸ List.mem_cons_self)
      · exact (ih h).imp_left (List.mem_cons_of_mem _)

theorem keys_put (m : Entries κ α) (key : κ) (value : α) :
    keys (put m key value) = if key ∈ keys m then keys m else keys m ++ [key] := by
  induction m with
  | nil => simp [keys]
  | cons e rest ih =>
    obtain ⟨k, v⟩ := e
    by_cases hk : k = key
    · subst hk; simp [put_cons, keys]
    · simp only [keys] at ih
      by_cases hm : key ∈ rest.map Prod.fst <;> simp_all [put_cons, keys, Ne.symm hk]

theorem put_of_not_mem {m : Entries κ α} {key : κ} (h : key ∉ keys m) (value : α) :
    put m key value = m ++ [(key, value)] := by
  induction m with
  | nil => rfl
  | cons e rest ih =>
    obtain ⟨k, v⟩ := e
    obtain ⟨hk, hr⟩ := not_or.mp (mt List.mem_cons.mpr h)
    simp [put_cons, Ne.symm hk, ih hr]

theorem put_middle {front : Entries κ α} {key : κ} (h : key ∉ keys front) (old value : α) (back : Entries κ α) :
    put (front ++ (key, old) :: back) key value = front ++ (key, value) :: back := by
  induction front with
  | nil => simp [put_cons]
  | cons e rest ih =>
    obtain ⟨k, v⟩ := e
    obtain ⟨hk, hr⟩ := not_or.mp (mt List.mem_cons.mpr h)
    simp [put_cons, Ne.symm hk, ih hr]

/-- Where a key is found, the entries part in front of it. -/
theorem exists_middle_of_get? {m : Entries κ α} {key : κ} {value : α} (h : get? m key = some value) :
    ∃ front back, m = front ++ (key, value) :: back ∧ key ∉ keys front := by
  induction m with
  | nil => cases h
  | cons e rest ih =>
    obtain ⟨k, v⟩ := e
    by_cases hk : k = key
    · simp only [get?_cons, hk, if_true, Option.some.injEq] at h
      exact ⟨[], rest, by rw [hk, h]; rfl, by simp [keys]⟩
    · obtain ⟨front, back, rfl, hfront⟩ := ih (by simpa [get?_cons, hk] using h)
      refine ⟨(k, v) :: front, back, rfl, ?_⟩
      simpa [keys, Ne.symm hk] using hfront

@[simp] theorem get?_erase_self (m : Entries κ α) (key : κ) : get? (erase m key) key = none := by
  induction m with
  | nil => rfl
  | cons e rest ih =>
    obtain ⟨k, v⟩ := e
    by_cases hk : k = key <;> simp_all [erase, get?_cons]

theorem get?_erase_of_ne (m : Entries κ α) {key other : κ} (h : other ≠ key) :
    get? (erase m key) other = get? m other := by
  induction m with
  | nil => rfl
  | cons e rest ih =>
    obtain ⟨k, v⟩ := e
    by_cases hk : k = key
    · subst hk; simp_all [erase, get?_cons, Ne.symm h]
    · simp_all [erase, get?_cons]

theorem keys_erase (m : Entries κ α) (key : κ) :
    keys (erase m key) = (keys m).filter (· ≠ key) := by
  induction m with
  | nil => rfl
  | cons e rest ih =>
    obtain ⟨k, v⟩ := e
    by_cases hk : k = key <;> simp_all [erase, keys]

theorem nodup_keys_put {m : Entries κ α} (h : (keys m).Nodup) (key : κ) (value : α) :
    (keys (put m key value)).Nodup := by
  rw [keys_put]
  split
  · exact h
  · rename_i hk
    rw [List.nodup_append]
    refine ⟨h, by simp, ?_⟩
    intro a ha b hb he
    rw [List.mem_singleton] at hb
    exact hk (hb ▸ he ▸ ha)

theorem nodup_keys_erase {m : Entries κ α} (h : (keys m).Nodup) (key : κ) : (keys (erase m key)).Nodup := by
  rw [keys_erase]
  exact h.filter _

theorem erase_eq_self {m : Entries κ α} {key : κ} (h : get? m key = none) : erase m key = m := by
  induction m with
  | nil => rfl
  | cons e rest ih =>
    obtain ⟨k, v⟩ := e
    by_cases hk : k = key
    · simp [get?_cons, hk] at h
    · have hr : get? rest key = none := by simpa [get?_cons, hk] using h
      simpa [erase, hk] using ih hr

theorem length_erase {m : Entries κ α} {key : κ} {value : α} (hm : (keys m).Nodup) (h : get? m key = some value) :
    (erase m key).length + 1 = m.length := by
  obtain ⟨front, back, rfl, hfront⟩ := exists_middle_of_get? h
  have hback : key ∉ keys back := by
    rw [keys, List.map_append, List.map_cons] at hm
    exact (List.nodup_cons.mp (List.nodup_append.mp hm).2.1).1
  have hkept : ∀ es : Entries κ α, key ∉ keys es → erase es key = es := fun es hes =>
    erase_eq_self (by simpa [mem_keys_iff] using hes)
  have hsplit : erase (front ++ (key, value) :: back) key = erase front key ++ erase back key := by simp [erase]
  rw [hsplit, hkept front hfront, hkept back hback]
  simp
  omega

@[simp] theorem put_put_self (m : Entries κ α) (key : κ) (v w : α) :
    put (put m key v) key w = put m key w := by
  induction m with
  | nil => simp [put_cons]
  | cons e rest ih =>
    obtain ⟨k, u⟩ := e
    by_cases hk : k = key <;> simp [put_cons, hk, ih]

theorem put_eq_self {m : Entries κ α} {key : κ} {value : α} (h : get? m key = some value) :
    put m key value = m := by
  induction m with
  | nil => cases h
  | cons e rest ih =>
    obtain ⟨k, v⟩ := e
    by_cases hk : k = key
    · subst hk
      simp only [get?_cons, if_true, Option.some.injEq] at h
      simp [put_cons, h]
    · have hr : get? rest key = some value := by simpa [get?_cons, hk] using h
      simp [put_cons, hk, ih hr]

@[simp] theorem erase_put_self (m : Entries κ α) (key : κ) (value : α) :
    erase (put m key value) key = erase m key := by
  induction m with
  | nil => simp [erase]
  | cons e rest ih =>
    obtain ⟨k, v⟩ := e
    by_cases hk : k = key
    · simp [put_cons, erase, hk]
    · simpa [put_cons, erase, hk] using ih

theorem erase_put_of_ne (m : Entries κ α) {key other : κ} (value : α) (h : other ≠ key) :
    erase (put m key value) other = put (erase m other) key value := by
  induction m with
  | nil => simp [erase, Ne.symm h]
  | cons e rest ih =>
    obtain ⟨k, v⟩ := e
    simp only [erase] at ih
    by_cases hk : k = key
    · subst hk
      simp [put_cons, erase, Ne.symm h]
    · by_cases ho : k = other
      · subst ho
        simpa [put_cons, erase, hk] using ih
      · simpa [put_cons, erase, hk, ho] using ih

theorem put_put_comm {m : Entries κ α} {key other : κ} (v w : α) (hne : other ≠ key)
    (h : key ∈ keys m) : put (put m other w) key v = put (put m key v) other w := by
  induction m with
  | nil => cases h
  | cons e rest ih =>
    obtain ⟨k, u⟩ := e
    by_cases hk : k = key
    · subst hk
      simp [put_cons, Ne.symm hne]
    · have hr : key ∈ keys rest := by simpa [keys, Ne.symm hk] using h
      by_cases ho : k = other
      · subst ho
        simp [put_cons, hk]
      · simp [put_cons, hk, ho, ih hr]

end Entries

end LiveSurface
