import LiveSurface.Proofs.Time.Accuracy
import LiveSurface.Time.Ulid
import Mathlib.Data.List.Induction
import Mathlib.Data.List.Nodup
/-!
# Times in ids

The part of an id after its last underscore is a ULID exactly when it is the 26 digits of a number of 128 bits. Its time
then has 48 bits, which is more than the calendar has days for: of a time past the year 9999 there is no date. Every
other time is the one that the id was made at, to fifteen microseconds.

Results:
* `Ulid.digitValue?_eq_some_iff`: digits and their values.
* `Ulid.ofChars?_eq_some_iff`: what is read as a ULID is what is written as one.
* `Ulid.isLastPart_iff`: what stands after the last underscore.
* `Ulid.creation_known_or_far`, `Ulid.creation_not_total`: the time of an id.
-/
namespace LiveSurface

namespace Ulid

/-! ## Digits -/

/-- The digit of a value. -/
def digit (value : Nat) : Char := digits.getD value '0'

/-- The digits of a number, the ones in the last place. -/
def written : Nat → Nat → List Char
  | 0, _ => []
  | width + 1, n => written width (n / 32) ++ [digit (n % 32)]

/-- Characters are the digits of a number of 128 bits; a letter of either case is a digit. -/
structure Encodes (cs : List Char) (n : Nat) : Prop where
  lt : n < pow2 128
  upper : cs.map Char.toUpper = written size n

variable {c : Char} {cs part : List Char} {k n width : Nat} {values : List Nat}

theorem digits_nodup : digits.Nodup := by decide +kernel

theorem digit_eq_getElem (hk : k < digits.length) : digit k = digits[k] := by
  simp [digit, hk]

theorem digitValue?_eq_some_iff : digitValue? c = some k ↔ k < 32 ∧ c.toUpper = digit k := by
  unfold digitValue?
  rw [List.findIdx?_eq_some_iff_getElem]
  constructor
  · rintro ⟨hk, heq, -⟩
    exact ⟨hk, by rw [digit_eq_getElem hk]; exact (of_decide_eq_true heq).symm⟩
  · rintro ⟨hk, heq⟩
    rw [digit_eq_getElem hk] at heq
    refine ⟨hk, decide_eq_true heq.symm, fun j hj hsame => ?_⟩
    have hindex := (digits_nodup.getElem_inj_iff).mp ((of_decide_eq_true hsame).trans heq)
    omega

/-- The number that values are the digits of. -/
def number (values : List Nat) : Nat := values.foldl (fun n d => n * 32 + d) 0

theorem number_append (values : List Nat) (k : Nat) : number (values ++ [k]) = number values * 32 + k := by
  simp [number]

theorem mapM_digitValue?_concat :
    (cs ++ [c]).mapM digitValue? = some values ↔
      ∃ front k, cs.mapM digitValue? = some front ∧ digitValue? c = some k ∧ values = front ++ [k] := by
  simp only [List.mapM_append, List.mapM_cons, List.mapM_nil, Option.bind_eq_bind, Option.bind_eq_some_iff,
    Option.pure_def, Option.some.injEq]
  constructor
  · rintro ⟨front, hfront, last, ⟨k, hk, _, rfl, rfl⟩, rfl⟩
    exact ⟨front, k, hfront, hk, rfl⟩
  · rintro ⟨front, k, hfront, hk, rfl⟩
    exact ⟨front, hfront, [k], ⟨k, hk, [], rfl, rfl⟩, rfl⟩

/-- Characters that are read as digits are those of the number that is read. -/
theorem map_toUpper_of_mapM (h : cs.mapM digitValue? = some values) :
    cs.map Char.toUpper = written cs.length (number values) := by
  induction cs using List.reverseRecOn generalizing values with
  | nil => rfl
  | append_singleton cs c ih =>
    obtain ⟨front, k, hfront, hk, rfl⟩ := mapM_digitValue?_concat.1 h
    obtain ⟨hlt, hupper⟩ := digitValue?_eq_some_iff.1 hk
    have hdiv : (number front * 32 + k) / 32 = number front := by omega
    have hmod : (number front * 32 + k) % 32 = k := by omega
    simp only [List.map_append, List.map_cons, List.map_nil, List.length_append, List.length_cons, List.length_nil,
      written, number_append, hdiv, hmod, ih hfront, hupper]

/-- The digits of a number are read as what of it they have the places for. -/
theorem mapM_of_map_toUpper (h : cs.map Char.toUpper = written width n) :
    ∃ values, cs.mapM digitValue? = some values ∧ cs.length = width ∧ number values = n % 32 ^ width := by
  induction width generalizing cs n with
  | zero =>
    obtain rfl : cs = [] := List.map_eq_nil_iff.mp h
    exact ⟨[], rfl, rfl, by simp [number, Nat.mod_one]⟩
  | succ width ih =>
    obtain ⟨front, last, rfl, hfront, hlast⟩ := List.map_eq_append_iff.mp h
    obtain ⟨c, rfl, hc⟩ := List.map_eq_singleton_iff.mp hlast
    obtain ⟨values, hvalues, hlength, hnumber⟩ := ih hfront
    have hk : digitValue? c = some (n % 32) := digitValue?_eq_some_iff.2 ⟨by omega, hc⟩
    refine ⟨values ++ [n % 32], mapM_digitValue?_concat.2 ⟨values, _, hvalues, hk, rfl⟩, by simp [hlength], ?_⟩
    rw [number_append, hnumber, Nat.pow_succ, Nat.mul_comm, Nat.mul_comm (32 ^ width), Nat.mod_mul]
    omega

theorem ofChars?_eq_some_iff : ofChars? cs = some ⟨n⟩ ↔ Encodes cs n := by
  unfold ofChars?
  simp only [Option.bind_eq_bind, Option.bind_eq_some_iff, Option.ite_none_right_eq_some, Option.some.injEq, mk.injEq]
  constructor
  · rintro ⟨values, hvalues, ⟨hsize, hlt⟩, rfl⟩
    exact ⟨hlt, by rw [map_toUpper_of_mapM hvalues, hsize]; rfl⟩
  · rintro ⟨hlt, hupper⟩
    obtain ⟨values, hvalues, hsize, hnumber⟩ := mapM_of_map_toUpper hupper
    have hfits : n % 32 ^ size = n := Nat.mod_eq_of_lt (hlt.trans (by decide))
    rw [hfits] at hnumber
    exact ⟨values, hvalues, ⟨hsize, by rw [← hnumber] at hlt; exact hlt⟩, hnumber⟩

/-! ## The last part of an id -/

/-- What stands after the last underscore, or everything if there is none. -/
def IsLastPart (cs part : List Char) : Prop := '_' ∉ part ∧ (cs = part ∨ ∃ front, cs = front ++ '_' :: part)

theorem isLastPart_iff : IsLastPart cs part ↔ part = lastPart cs := by
  unfold lastPart
  constructor
  · rintro ⟨hnone, hcs⟩
    have htake : ∀ c ∈ part.reverse, decide (c ≠ '_') = true := fun c hc =>
      decide_eq_true fun heq => hnone (heq ▸ List.mem_reverse.mp hc)
    rcases hcs with rfl | ⟨front, rfl⟩
    · have hall : (cs.reverse ++ []).takeWhile (· ≠ '_') = cs.reverse ++ [].takeWhile (· ≠ '_') :=
        List.takeWhile_append_of_pos htake
      rw [List.append_nil, List.takeWhile_nil, List.append_nil] at hall
      rw [hall, List.reverse_reverse]
    · rw [List.reverse_append, List.reverse_cons, List.append_assoc, List.takeWhile_append_of_pos htake]
      simp
  · rintro rfl
    refine ⟨fun hmem => ?_, ?_⟩
    · have hall := List.all_takeWhile (p := fun c => decide (c ≠ '_')) (l := cs.reverse)
      exact of_decide_eq_true (List.all_eq_true.mp hall _ (List.mem_reverse.mp hmem)) rfl
    · have hsplit : cs = (cs.reverse.dropWhile (· ≠ '_')).reverse ++ (cs.reverse.takeWhile (· ≠ '_')).reverse := by
        rw [← List.reverse_append, List.takeWhile_append_dropWhile, List.reverse_reverse]
      have hstop := List.head?_dropWhile_not (fun c => decide (c ≠ '_')) cs.reverse
      rcases hrest : cs.reverse.dropWhile (· ≠ '_') with _ | ⟨c, rest⟩
      · rw [hrest, List.reverse_nil, List.nil_append] at hsplit
        exact .inl hsplit
      · rw [hrest] at hsplit hstop
        have hc : c = '_' := by simpa using hstop
        rw [List.reverse_cons, List.append_assoc, hc] at hsplit
        exact .inr ⟨rest.reverse, hsplit⟩

theorem ofId?_eq_some_iff {id : String} :
    ofId? id = some ⟨n⟩ ↔ ∃ part, IsLastPart id.toList part ∧ Encodes part n := by
  unfold ofId?
  rw [ofChars?_eq_some_iff]
  constructor
  · exact fun h => ⟨_, isLastPart_iff.2 rfl, h⟩
  · rintro ⟨part, hpart, h⟩
    rwa [← isLastPart_iff.1 hpart]

/-! ## The time of an id -/

theorem milliseconds_lt (hn : n < pow2 128) : milliseconds ⟨n⟩ < pow2 48 := by
  unfold milliseconds
  exact Nat.div_lt_of_lt_mul hn

/-- An id without a ULID has no time; of a ULID the time is known unless it is after the year 9999, when there is no
date for it. -/
theorem creation_known_or_far (id : String) :
    (ofId? id = none ∧ ¬∃ part n, IsLastPart id.toList part ∧ Encodes part n) ∨
      ∃ part n, IsLastPart id.toList part ∧ Encodes part n ∧ ofId? id = some ⟨n⟩ ∧ n / pow2 80 < pow2 48 ∧
        (Instant.farFrom ≤ n / pow2 80 ∧ (∃ year, 9999 < year ∧ (instant ⟨n⟩).text = .error ⟨year⟩) ∨
          n / pow2 80 < Instant.farFrom ∧
            ∃ s, (instant ⟨n⟩).text = .ok s ∧ (instant ⟨n⟩).SpelledBy s ∧ (instant ⟨n⟩).Near (n / pow2 80)) := by
  rcases hid : ofId? id with _ | ⟨⟨n⟩⟩
  · refine .inl ⟨rfl, ?_⟩
    rintro ⟨part, n, hpart, hn⟩
    rw [ofId?_eq_some_iff.2 ⟨part, hpart, hn⟩] at hid
    exact nomatch hid
  · obtain ⟨part, hpart, hn⟩ := ofId?_eq_some_iff.1 hid
    have hms : n / pow2 80 < pow2 48 := milliseconds_lt hn.lt
    refine .inr ⟨part, n, hpart, hn, rfl, hms, ?_⟩
    rcases Nat.lt_or_ge (n / pow2 80) Instant.farFrom with hnear | hfar
    · have ht : (instant ⟨n⟩).Near (n / pow2 80) := Instant.near_ofMilliseconds hnear
      obtain ⟨s, htext, hs⟩ := Instant.text_of_near (t := instant ⟨n⟩) <| by
        rw [ht.seconds]
        unfold Instant.farFrom Date.farDay at *
        omega
      exact .inr ⟨hnear, s, htext, hs, ht⟩
    · exact .inl ⟨hfar, Instant.text_ofMilliseconds_far hfar hms⟩

/-- The last ULID there is has a time in the year 10889. -/
theorem creation_not_total :
    Encodes "7ZZZZZZZZZZZZZZZZZZZZZZZZZ".toList (pow2 128 - 1) ∧
      ofId? "7ZZZZZZZZZZZZZZZZZZZZZZZZZ" = some ⟨pow2 128 - 1⟩ ∧
      (instant ⟨pow2 128 - 1⟩).text = .error ⟨10889⟩ :=
  ⟨⟨by decide +kernel, by decide +kernel⟩, by decide +kernel, rfl⟩

end Ulid

end LiveSurface
