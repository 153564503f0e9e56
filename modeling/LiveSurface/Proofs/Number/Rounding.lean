import LiveSurface.Number.Double
import Mathlib.Algebra.Order.Field.Power
import Mathlib.Data.Nat.Cast.Order.Field
import Mathlib.Data.Rat.Cast.Order
import Mathlib.Tactic.FieldSimp
import Mathlib.Tactic.Linarith
import Mathlib.Tactic.Positivity
import Mathlib.Tactic.Ring
/-!
# How far rounding goes

A ratio is rounded twice on its way to a double: first it is decided what the last place of the significand is worth,
and then the nearest multiple of that is taken. Below `2 ^ (53 + e)` the last place is worth no more than `2 ^ e`, so a
double is at most half of that away from the ratio it was made of. What is more, no integer lies between the two as long
as the last place is no more than one.

Results:
* `roundHalfEven_near`, `le_roundHalfEven`, `roundHalfEven_le`: the nearest integer.
* `Double.lt_two_zpow_lastPlace`, `Double.lastPlace_le`: what the last place is worth.
* `Double.ofRatio_near`: how far a double is from its ratio.
-/
namespace LiveSurface

/-! ## The nearest integer -/

variable {num den k : Nat}

theorem roundHalfEven_cases (num den : Nat) :
    roundHalfEven num den = num / den ∧ 2 * (num % den) ≤ den ∨
      roundHalfEven num den = num / den + 1 ∧ den ≤ 2 * (num % den) := by
  unfold roundHalfEven
  simp only
  split
  · exact .inl ⟨rfl, by omega⟩
  split
  · exact .inr ⟨rfl, by omega⟩
  split
  · exact .inl ⟨rfl, by omega⟩
  · exact .inr ⟨rfl, by omega⟩

theorem roundHalfEven_near (num : Nat) (hden : 0 < den) :
    2 * (roundHalfEven num den * den) ≤ 2 * num + den ∧ 2 * num ≤ 2 * (roundHalfEven num den * den) + den := by
  have hdiv := Nat.div_add_mod' num den
  have hrem := Nat.mod_lt num hden
  have hcases := roundHalfEven_cases num den
  generalize num % den = rest at hdiv hrem hcases
  rcases hcases with ⟨h, hrest⟩ | ⟨h, hrest⟩
  · rw [h]
    omega
  · rw [h, Nat.add_mul]
    omega

theorem le_roundHalfEven (hden : 0 < den) (h : k * den ≤ num) : k ≤ roundHalfEven num den := by
  have hk : k ≤ num / den := (Nat.le_div_iff_mul_le hden).mpr h
  rcases roundHalfEven_cases num den with ⟨hr, -⟩ | ⟨hr, -⟩ <;> omega

theorem roundHalfEven_le (hden : 0 < den) (h : num ≤ k * den) : roundHalfEven num den ≤ k := by
  have hk : num / den ≤ k := Nat.div_le_of_le_mul (by rwa [Nat.mul_comm])
  have hdiv := Nat.div_add_mod num den
  rcases roundHalfEven_cases num den with ⟨hr, -⟩ | ⟨hr, hrest⟩
  · omega
  · rw [hr]
    by_contra hlt
    have heq : num / den = k := by omega
    rw [heq, Nat.mul_comm] at hdiv
    omega

theorem abs_roundHalfEven_sub_le (num : Nat) (hden : 0 < den) : |(roundHalfEven num den : ℚ) - num / den| ≤ 1 / 2 := by
  have hpos : (0 : ℚ) < den := by exact_mod_cast hden
  obtain ⟨hup, hdown⟩ := roundHalfEven_near num hden
  have hup' : 2 * ((roundHalfEven num den : ℚ) * den) ≤ 2 * num + den := by exact_mod_cast hup
  have hdown' : 2 * (num : ℚ) ≤ 2 * (roundHalfEven num den * den) + den := by exact_mod_cast hdown
  rw [abs_le]
  constructor
  · rw [neg_le_sub_iff_le_add, div_le_iff₀ hpos]
    linarith
  · rw [sub_le_iff_le_add, ← sub_le_iff_le_add', le_div_iff₀ hpos]
    linarith

namespace Double

theorem pow2_eq (n : Nat) : pow2 n = 2 ^ n := rfl

theorem scaled_pos (num : Nat) (hden : 0 < den) (e : Int) : 0 < (scaled num den e).2 := by
  unfold scaled
  split
  · exact Nat.mul_pos hden (pow2_pos _)
  · exact hden

theorem scaled_eq (num den : Nat) (e : Int) :
    ((scaled num den e).1 : ℚ) / (scaled num den e).2 = num / den / 2 ^ e := by
  unfold scaled
  split
  · next he =>
    obtain ⟨n, rfl⟩ := Int.eq_ofNat_of_zero_le he
    simp only [Int.toNat_natCast, pow2_eq, zpow_natCast]
    push_cast
    rw [div_mul_eq_div_div]
  · next he =>
    obtain ⟨n, hn⟩ := Int.eq_ofNat_of_zero_le (a := -e) (by omega)
    obtain rfl : e = -(n : Int) := by omega
    simp only [neg_neg, Int.toNat_natCast, pow2_eq, zpow_neg, zpow_natCast]
    push_cast
    rw [div_inv_eq_mul, div_mul_eq_mul_div]

theorem ratio_pos (m : Nat) (e : Int) : 0 < (ratio m e).2 := by
  unfold ratio
  split
  · exact Nat.one_pos
  · exact pow2_pos _

theorem ratio_eq (m : Nat) (e : Int) : ((ratio m e).1 : ℚ) / (ratio m e).2 = m * 2 ^ e := by
  unfold ratio
  split
  · next he =>
    obtain ⟨n, rfl⟩ := Int.eq_ofNat_of_zero_le he
    simp [pow2_eq]
  · next he =>
    obtain ⟨n, hn⟩ := Int.eq_ofNat_of_zero_le (a := -e) (by omega)
    obtain rfl : e = -(n : Int) := by omega
    simp [pow2_eq, div_eq_mul_inv]

/-! ## The last place -/

/-- The exponent of the last place of the significand of a ratio. -/
def lastPlace (num den : Nat) : Int :=
  let coarse : Int := max minExponent ((num.log2 : Int) - den.log2 - 53)
  if (scaled num den coarse).1 / (scaled num den coarse).2 < pow2 53 then coarse else coarse + 1

theorem ofRatio_eq (negative : Bool) (hnum : 0 < num) (hden : 0 < den) :
    ofRatio negative num den =
      let m := roundHalfEven (scaled num den (lastPlace num den)).1 (scaled num den (lastPlace num den)).2
      let (m, e) := if m < pow2 53 then (m, lastPlace num den) else (pow2 52, lastPlace num den + 1)
      if e ≤ maxExponent then .finite negative m e else .infinite negative := by
  rw [ofRatio, if_neg (by omega)]
  rfl

theorem div_lt_two_zpow (hden : 0 < den) (e : Int) :
    (scaled num den e).1 / (scaled num den e).2 < pow2 53 ↔ (num : ℚ) / den < 2 ^ (53 + e) := by
  have hpos := scaled_pos num hden e
  have hpos' : (0 : ℚ) < (scaled num den e).2 := by exact_mod_cast hpos
  have hnat : (scaled num den e).1 / (scaled num den e).2 < pow2 53 ↔
      ((scaled num den e).1 : ℚ) / (scaled num den e).2 < 2 ^ (53 : Nat) := by
    rw [Nat.div_lt_iff_lt_mul hpos, div_lt_iff₀ hpos', pow2_eq]
    exact_mod_cast Iff.rfl
  rw [hnat, scaled_eq, div_lt_iff₀ (by positivity), zpow_add₀ (by norm_num)]
  norm_num

/-- A ratio of numbers with so many bits. -/
theorem log2_bounds (hnum : 0 < num) (hden : 0 < den) :
    (2 : ℚ) ^ ((num.log2 : Int) - den.log2 - 1) < num / den ∧
      (num : ℚ) / den < 2 ^ ((num.log2 : Int) - den.log2 + 1) := by
  have hden' : (0 : ℚ) < den := by exact_mod_cast hden
  have hnumLow : (2 : ℚ) ^ (num.log2 : Int) ≤ num := by
    rw [zpow_natCast]
    exact_mod_cast Nat.log2_self_le (by omega)
  have hnumHigh : (num : ℚ) < 2 ^ ((num.log2 : Int) + 1) := by
    rw [← Nat.cast_succ, zpow_natCast]
    exact_mod_cast Nat.lt_log2_self
  have hdenLow : (2 : ℚ) ^ (den.log2 : Int) ≤ den := by
    rw [zpow_natCast]
    exact_mod_cast Nat.log2_self_le (by omega)
  have hdenHigh : (den : ℚ) < 2 ^ ((den.log2 : Int) + 1) := by
    rw [← Nat.cast_succ, zpow_natCast]
    exact_mod_cast Nat.lt_log2_self
  constructor
  · rw [lt_div_iff₀ hden']
    calc (2 : ℚ) ^ ((num.log2 : Int) - den.log2 - 1) * den
        < 2 ^ ((num.log2 : Int) - den.log2 - 1) * 2 ^ ((den.log2 : Int) + 1) := by gcongr
      _ = 2 ^ (num.log2 : Int) := by rw [← zpow_add₀ (by norm_num)]; congr 1; ring
      _ ≤ num := hnumLow
  · rw [div_lt_iff₀ hden']
    calc (num : ℚ) < 2 ^ ((num.log2 : Int) + 1) := hnumHigh
      _ = 2 ^ ((num.log2 : Int) - den.log2 + 1) * 2 ^ (den.log2 : Int) := by
        rw [← zpow_add₀ (by norm_num)]; congr 1; ring
      _ ≤ 2 ^ ((num.log2 : Int) - den.log2 + 1) * den := by gcongr

/-- The last place of a ratio is high enough for a significand of 53 bits. -/
theorem lt_two_zpow_lastPlace (hnum : 0 < num) (hden : 0 < den) :
    (num : ℚ) / den < 2 ^ (53 + lastPlace num den) := by
  unfold lastPlace
  simp only
  split
  · next hfits => exact (div_lt_two_zpow hden _).mp hfits
  · refine (log2_bounds hnum hden).2.trans_le ?_
    exact zpow_le_zpow_right₀ (by norm_num) (by omega)

/-- The last place of a ratio is no higher than it has to be. -/
theorem lastPlace_le (hnum : 0 < num) (hden : 0 < den) {bound : Int} (hlow : minExponent ≤ bound)
    (hlt : (num : ℚ) / den < 2 ^ (53 + bound)) : lastPlace num den ≤ bound := by
  have hcoarse : (num.log2 : Int) - den.log2 - 1 < 53 + bound :=
    (zpow_lt_zpow_iff_right₀ (by norm_num)).mp ((log2_bounds hnum hden).1.trans hlt)
  unfold lastPlace
  simp only
  split
  · omega
  · next hwide =>
    rw [div_lt_two_zpow hden, not_lt] at hwide
    have := (zpow_lt_zpow_iff_right₀ (by norm_num)).mp (hwide.trans_lt hlt)
    omega

/-! ## How far a double is from its ratio -/

/-- A number is half a last place away at most and on the same side of every integer. -/
structure Rounded (place : Int) (x r : ℚ) : Prop where
  near : |x - r| ≤ 2 ^ place / 2
  le_of_le : ∀ k : Nat, (k : ℚ) ≤ r → (k : ℚ) ≤ x
  ge_of_ge : ∀ k : Nat, r ≤ k → x ≤ k

theorem Rounded.mono {place bound : Int} {x r : ℚ} (h : Rounded place x r) (hle : place ≤ bound) :
    Rounded bound x r where
  near := h.near.trans (by gcongr; norm_num)
  le_of_le := h.le_of_le
  ge_of_ge := h.ge_of_ge

/-- An integer is a multiple of a last place of one or less. -/
theorem exists_cast_eq_div_zpow (k : Nat) {e : Int} (he : e ≤ 0) : ∃ n : Nat, (n : ℚ) = k / 2 ^ e := by
  obtain ⟨n, hn⟩ := Int.eq_ofNat_of_zero_le (a := -e) (by omega)
  obtain rfl : e = -(n : Int) := by omega
  exact ⟨k * 2 ^ n, by simp [div_eq_mul_inv]⟩

theorem rounded_roundHalfEven (hden : 0 < den) {e : Int} (he : e ≤ 0) :
    Rounded e (roundHalfEven (scaled num den e).1 (scaled num den e).2 * 2 ^ e) (num / den) := by
  have hpos := scaled_pos num hden e
  have hpos' : (0 : ℚ) < (scaled num den e).2 := by exact_mod_cast hpos
  have hplace : (0 : ℚ) < 2 ^ e := by positivity
  have hnear := abs_roundHalfEven_sub_le (scaled num den e).1 hpos
  have hscaled := scaled_eq num den e
  refine ⟨?_, fun k hk => ?_, fun k hk => ?_⟩
  · rw [hscaled] at hnear
    calc |(roundHalfEven (scaled num den e).1 (scaled num den e).2 : ℚ) * 2 ^ e - num / den|
        = |(roundHalfEven (scaled num den e).1 (scaled num den e).2 : ℚ) - num / den / 2 ^ e| * 2 ^ e := by
          rw [← abs_of_pos hplace, ← abs_mul, abs_of_pos hplace, sub_mul, div_mul_cancel₀ _ hplace.ne']
      _ ≤ 1 / 2 * 2 ^ e := by gcongr
      _ = 2 ^ e / 2 := by ring
  · obtain ⟨n, hn⟩ := exists_cast_eq_div_zpow k he
    have hle : (n : ℚ) ≤ (scaled num den e).1 / (scaled num den e).2 := by
      rw [hn, hscaled]
      gcongr
    rw [le_div_iff₀ hpos'] at hle
    rw [← div_le_iff₀ hplace, ← hn]
    exact_mod_cast le_roundHalfEven hpos (by exact_mod_cast hle)
  · obtain ⟨n, hn⟩ := exists_cast_eq_div_zpow k he
    have hle : (scaled num den e).1 / (scaled num den e).2 ≤ (n : ℚ) := by
      rw [hn, hscaled]
      gcongr
    rw [div_le_iff₀ hpos'] at hle
    rw [← le_div_iff₀ hplace, ← hn]
    exact_mod_cast roundHalfEven_le hpos (by exact_mod_cast hle)

/-- A double has the value of the rounded ratio, also where the significand is halved to keep it in 53 bits. -/
theorem exists_ofRatio_eq (negative : Bool) (hnum : 0 < num) (hden : 0 < den) (hle : lastPlace num den ≤ 0) :
    ∃ m e, ofRatio negative num den = .finite negative m e ∧
      (m : ℚ) * 2 ^ e =
        roundHalfEven (scaled num den (lastPlace num den)).1 (scaled num den (lastPlace num den)).2 *
          2 ^ lastPlace num den := by
  rw [ofRatio_eq negative hnum hden]
  have hmax : lastPlace num den + 1 ≤ maxExponent := by unfold maxExponent; omega
  have hpos := scaled_pos num hden (lastPlace num den)
  -- The ratio is below `2 ^ 53` last places, so that it cannot be rounded past that.
  have htop : roundHalfEven (scaled num den (lastPlace num den)).1 (scaled num den (lastPlace num den)).2 ≤
      pow2 53 := by
    have hlt := (div_lt_two_zpow hden _).mpr (lt_two_zpow_lastPlace hnum hden)
    exact roundHalfEven_le hpos ((Nat.div_lt_iff_lt_mul hpos).mp hlt).le
  generalize roundHalfEven (scaled num den (lastPlace num den)).1 (scaled num den (lastPlace num den)).2 = m
    at htop ⊢
  by_cases hlt : m < pow2 53
  · exact ⟨m, lastPlace num den, by simp only [hlt, ↓reduceIte]; rw [if_pos (by omega)], rfl⟩
  · obtain rfl : m = pow2 53 := by omega
    refine ⟨pow2 52, lastPlace num den + 1, by simp only [hlt, ↓reduceIte]; rw [if_pos hmax], ?_⟩
    rw [zpow_add₀ (by norm_num), pow2_eq, pow2_eq]
    push_cast
    ring

/-- A ratio below `2 ^ (53 + place)` loses no more than half of `2 ^ place` when it is made a double. -/
theorem ofRatio_near (negative : Bool) (num : Nat) (hden : 0 < den) {place : Int} (hlow : minExponent ≤ place)
    (hplace : place ≤ 0) (hlt : (num : ℚ) / den < 2 ^ (53 + place)) :
    ∃ m e, ofRatio negative num den = .finite negative m e ∧ Rounded place (m * 2 ^ e) (num / den) := by
  rcases Nat.eq_zero_or_pos num with rfl | hnum
  · refine ⟨0, minExponent, by simp [ofRatio, zero], ?_, ?_, ?_⟩ <;> simp
    positivity
  · have hle := lastPlace_le hnum hden hlow hlt
    obtain ⟨m, e, hof, hvalue⟩ := exists_ofRatio_eq negative hnum hden (by omega)
    refine ⟨m, e, hof, ?_⟩
    rw [hvalue]
    exact (rounded_roundHalfEven hden (by omega)).mono hle

end Double

end LiveSurface
