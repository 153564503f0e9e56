import LiveSurface.Proofs.Number.Rounding
import LiveSurface.Proofs.Time.Calendar
import LiveSurface.Time.Instant
/-!
# Instants given in milliseconds

The milliseconds become a double of seconds, and its fraction one of microseconds. The whole seconds are right for every
time of 48 bits; the microseconds are right up to the year 2242 and off by fifteen at most up to the year 9999, the last
one that a date can be written with.

Results:
* `Instant.ofRatio_near`, `Instant.ofMilliseconds_near`: whole seconds and how far off the microseconds are.
* `Instant.ofMilliseconds_exact`, `Instant.near_ofMilliseconds`: what that comes to.
* `Instant.text_of_near`, `Instant.text_ofMilliseconds_far`: which instants have a text, and what it says.
-/
namespace LiveSurface

namespace Instant

open Double

variable {ms num den : Nat}

theorem perSecond_cast : ((perSecond : Nat) : ℚ) = 1000000 := by norm_num [perSecond]

theorem ofRatio_eq {negative : Bool} {m : Nat} {e : Int}
    (hof : Double.ofRatio false (num % den * perSecond) den = .finite negative m e)
    (hbelow : roundHalfEven (ratio m e).1 (ratio m e).2 < perSecond) :
    ofRatio num den = ⟨num / den, roundHalfEven (ratio m e).1 (ratio m e).2⟩ := by
  -- Unfolded as a function: unfolded at its arguments, it is compared by counting up to a million.
  have hdef : ofRatio = ofRatio := rfl
  conv at hdef => rhs; delta ofRatio
  rcases hfraction : ratio m e with ⟨n, d⟩
  rw [hfraction] at hbelow
  rw [hdef]
  simp only [hof, hfraction, hbelow, ↓reduceIte]

theorem ofMilliseconds_eq {negative : Bool} {m : Nat} {e : Int}
    (hof : Double.ofRatio false ms 1000 = .finite negative m e) :
    ofMilliseconds ms = ofRatio (ratio m e).1 (ratio m e).2 := by
  rcases hseconds : ratio m e with ⟨n, d⟩
  simp only [ofMilliseconds, hof, hseconds]

/-- The microseconds of a ratio, as long as they do not come close to the next second. -/
theorem ofRatio_near (num : Nat) (hden : 0 < den) {micros : Nat} {error : ℚ}
    (hnear : |((num % den : Nat) : ℚ) / den * perSecond - micros| ≤ error)
    (hroom : (micros : ℚ) + error + 1 < perSecond) :
    ∃ n, ofRatio num den = ⟨num / den, n⟩ ∧ |(n : ℚ) - micros| ≤ error + 1 / 2 + 2 ^ (-33 : Int) / 2 := by
  have hpos : (0 : ℚ) < den := by exact_mod_cast hden
  have hfraction : ((num % den : Nat) : ℚ) < den := by exact_mod_cast Nat.mod_lt num hden
  have hlt : ((num % den * perSecond : Nat) : ℚ) / den < 2 ^ (53 + (-33) : Int) := by
    rw [div_lt_iff₀ hpos]
    push_cast
    calc ((num % den : Nat) : ℚ) * perSecond < den * perSecond := by rw [perSecond_cast]; gcongr
      _ ≤ 2 ^ (53 + (-33) : Int) * den := by rw [mul_comm, perSecond_cast]; gcongr; norm_num
  obtain ⟨m, e, hof, hrounded⟩ := Double.ofRatio_near false (num % den * perSecond) hden
    (by decide) (by decide) hlt
  have hmicros := abs_roundHalfEven_sub_le (ratio m e).1 (ratio_pos m e)
  rw [ratio_eq] at hmicros
  have hdouble := hrounded.near
  have hvalue : ((num % den * perSecond : Nat) : ℚ) / den = ((num % den : Nat) : ℚ) / den * perSecond := by
    push_cast
    ring
  rw [hvalue] at hdouble
  have hsmall : (2 : ℚ) ^ (-33 : Int) / 2 < 1 / 2 := by norm_num
  rw [abs_le] at hnear hmicros hdouble
  refine ⟨roundHalfEven (ratio m e).1 (ratio m e).2, ?_, by rw [abs_le]; constructor <;> linarith⟩
  have hbelow : roundHalfEven (ratio m e).1 (ratio m e).2 < perSecond := by
    have : (roundHalfEven (ratio m e).1 (ratio m e).2 : ℚ) < perSecond := by linarith
    exact_mod_cast this
  exact ofRatio_eq hof hbelow

/-- The whole seconds are right, and the microseconds are as far off as the double of seconds is. -/
theorem ofMilliseconds_near (place : Int) (hlow : minExponent ≤ place) (hplace : place ≤ -14)
    (hms : (ms : ℚ) < 2 ^ (53 + place) * 1000) :
    ∃ n, ofMilliseconds ms = ⟨ms / 1000, n⟩ ∧
      |(n : ℚ) - (ms % 1000 * 1000 : Nat)| ≤ 2 ^ place / 2 * perSecond + 1 / 2 + 2 ^ (-33 : Int) / 2 := by
  have hlt : (ms : ℚ) / (1000 : Nat) < 2 ^ (53 + place) := by
    rw [div_lt_iff₀ (by norm_num)]
    exact_mod_cast hms
  obtain ⟨m, e, hof, hrounded⟩ := Double.ofRatio_near false ms (by decide) hlow (by omega) hlt
  have hden : (0 : ℚ) < (ratio m e).2 := by exact_mod_cast ratio_pos m e
  have hfine : (2 : ℚ) ^ place / 2 ≤ 1 / 32768 := by
    calc (2 : ℚ) ^ place / 2 ≤ 2 ^ (-14 : Int) / 2 := by gcongr; norm_num
      _ = 1 / 32768 := by norm_num
  have hsplit : (ms : ℚ) / (1000 : Nat) = (ms / 1000 : Nat) + (ms % 1000 : Nat) / 1000 := by
    have : (ms : ℚ) = ((1000 * (ms / 1000) + ms % 1000 : Nat) : ℚ) := by rw [Nat.div_add_mod]
    rw [this]
    push_cast
    ring
  have hrest : ((ms % 1000 : Nat) : ℚ) ≤ 999 := by exact_mod_cast (by omega : ms % 1000 ≤ 999)
  have hrest' : (0 : ℚ) ≤ (ms % 1000 : Nat) := Nat.cast_nonneg _
  have hfrom := hrounded.le_of_le (ms / 1000) (by rw [hsplit]; linarith)
  have hnear := hrounded.near
  rw [hsplit, abs_le] at hnear
  -- Rounding does not leave the second.
  have hwhole : (ratio m e).1 / (ratio m e).2 = ms / 1000 := by
    have hto : (m : ℚ) * 2 ^ e < (ms / 1000 : Nat) + 1 := by linarith
    rw [← ratio_eq] at hfrom hto
    rw [le_div_iff₀ hden] at hfrom
    rw [div_lt_iff₀ hden] at hto
    refine Nat.div_eq_of_lt_le (by exact_mod_cast hfrom) ?_
    exact_mod_cast hto
  have hfraction : (((ratio m e).1 % (ratio m e).2 : Nat) : ℚ) / (ratio m e).2 = m * 2 ^ e - (ms / 1000 : Nat) := by
    rw [← ratio_eq, ← hwhole, eq_sub_iff_add_eq, div_add' _ _ _ hden.ne']
    congr 1
    exact_mod_cast Nat.mod_add_div' _ _
  have hmicros : |(((ratio m e).1 % (ratio m e).2 : Nat) : ℚ) / (ratio m e).2 * perSecond - (ms % 1000 * 1000 : Nat)| ≤
      2 ^ place / 2 * perSecond := by
    rw [hfraction, abs_le, perSecond_cast]
    push_cast
    constructor <;> linarith
  have hroom : ((ms % 1000 * 1000 : Nat) : ℚ) + 2 ^ place / 2 * perSecond + 1 < perSecond := by
    rw [perSecond_cast]
    push_cast
    linarith
  obtain ⟨n, heq, hn⟩ := ofRatio_near (ratio m e).1 (ratio_pos m e) hmicros hroom
  refine ⟨n, ?_, hn⟩
  rw [hwhole] at heq
  rw [ofMilliseconds_eq hof, heq]

/-- The milliseconds from which on a double of seconds does not tell microseconds apart. -/
def exactBelow : Nat := pow2 33 * 1000

/-- The milliseconds from which on the year has more than four digits. -/
def farFrom : Nat := Date.farDay * 86400 * 1000

/-- Integers that are not far apart. -/
theorem lt_add_of_abs_lt {n k room : Nat} (h : |(n : ℚ) - k| < room) : n < k + room ∧ k < n + room := by
  have hint : |(n : Int) - k| < room := by exact_mod_cast h
  rw [abs_lt] at hint
  omega

theorem seconds_ofMilliseconds (hms : ms < pow2 48) : (ofMilliseconds ms).seconds = ms / 1000 := by
  have hlt : (ms : ℚ) < 2 ^ (53 + (-14) : Int) * 1000 := by
    calc (ms : ℚ) < (pow2 48 : Nat) := Nat.cast_lt.mpr hms
      _ ≤ 2 ^ (53 + (-14) : Int) * 1000 := by rw [pow2_eq]; norm_num
  obtain ⟨n, heq, -⟩ := ofMilliseconds_near (-14) (by decide) (by decide) hlt
  rw [heq]

theorem ofMilliseconds_exact (hms : ms < exactBelow) : ofMilliseconds ms = ⟨ms / 1000, ms % 1000 * 1000⟩ := by
  have hlt : (ms : ℚ) < 2 ^ (53 + (-20) : Int) * 1000 := by
    calc (ms : ℚ) < (8589934592000 : Nat) := Nat.cast_lt.mpr hms
      _ = 2 ^ (53 + (-20) : Int) * 1000 := by norm_num
  obtain ⟨n, heq, hn⟩ := ofMilliseconds_near (-20) (by decide) (by decide) hlt
  have hless : |(n : ℚ) - (ms % 1000 * 1000 : Nat)| < (1 : Nat) := by
    rw [perSecond_cast] at hn
    refine hn.trans_lt ?_
    norm_num
  have hclose := lt_add_of_abs_lt hless
  have hn' : n = ms % 1000 * 1000 := by omega
  rw [heq, hn']

/-- An instant is at some milliseconds, as far as a double of seconds tells. -/
structure Near (t : Instant) (ms : Nat) : Prop where
  seconds : t.seconds = ms / 1000
  microseconds_le : t.microseconds ≤ ms % 1000 * 1000 + 15
  le_microseconds : ms % 1000 * 1000 ≤ t.microseconds + 15
  exact : ms < exactBelow → t.microseconds = ms % 1000 * 1000

theorem near_ofMilliseconds (hms : ms < farFrom) : (ofMilliseconds ms).Near ms := by
  have hlt : (ms : ℚ) < 2 ^ (53 + (-15) : Int) * 1000 := by
    calc (ms : ℚ) < (253402300800000 : Nat) := Nat.cast_lt.mpr hms
      _ ≤ 2 ^ (53 + (-15) : Int) * 1000 := by norm_num
  obtain ⟨n, heq, hn⟩ := ofMilliseconds_near (-15) (by decide) (by decide) hlt
  have hless : |(n : ℚ) - (ms % 1000 * 1000 : Nat)| < (16 : Nat) := by
    rw [perSecond_cast] at hn
    refine hn.trans_lt ?_
    norm_num
  obtain ⟨hle, hge⟩ := lt_add_of_abs_lt hless
  refine ⟨by rw [heq], by rw [heq]; show n ≤ _; omega, by rw [heq]; show _ ≤ n + 15; omega, fun hexact => ?_⟩
  rw [ofMilliseconds_exact hexact]

-- The last millisecond of the year 9999.
example : ofMilliseconds 253402300799999 = ⟨253402300799, 998993⟩ := by decide +kernel

/-! ## The text -/

/-- A text names the day and the time of day that an instant falls in. -/
def SpelledBy (t : Instant) (s : String) : Prop :=
  ∃ days hour minute second, hour < 24 ∧ minute < 60 ∧ second < 60 ∧
    t.seconds = ((days * 24 + hour) * 60 + minute) * 60 + second ∧
    s = padded 4 (Date.next^[days] Date.origin).year ++ "-" ++ padded 2 (Date.next^[days] Date.origin).month ++ "-" ++
      padded 2 (Date.next^[days] Date.origin).day ++ "T" ++ padded 2 hour ++ ":" ++ padded 2 minute ++ ":" ++
      padded 2 second ++ (if t.microseconds = 0 then "" else "." ++ padded 6 t.microseconds) ++ "+00:00"

variable {t : Instant}

theorem text_of_near (hnear : t.seconds / 86400 < Date.farDay) : ∃ s, t.text = .ok s ∧ t.SpelledBy s := by
  have hyear : ¬9999 < t.date.year := Nat.not_lt.mpr (Date.year_ofDays_le_iff.mpr hnear)
  have hdate : t.date = Date.next^[t.seconds / 86400] Date.origin := Date.ofDays_eq_iterate _
  unfold text
  rw [if_neg hyear, hdate]
  exact ⟨_, rfl, t.seconds / 86400, t.seconds % 86400 / 3600, t.seconds % 86400 / 60 % 60, t.seconds % 86400 % 60,
    by omega, by omega, by omega, by omega, rfl⟩

theorem text_of_far (hfar : Date.farDay ≤ t.seconds / 86400) :
    9999 < t.date.year ∧ t.text = .error ⟨t.date.year⟩ := by
  have hyear : 9999 < t.date.year := by
    rw [← Nat.not_le]
    exact fun hle => Nat.not_lt.mpr hfar (Date.year_ofDays_le_iff.mp hle)
  unfold text
  exact ⟨hyear, if_pos hyear⟩

theorem text_ofMilliseconds_far (hfar : farFrom ≤ ms) (hms : ms < pow2 48) :
    ∃ year, 9999 < year ∧ (ofMilliseconds ms).text = .error ⟨year⟩ := by
  refine ⟨_, text_of_far ?_⟩
  rw [seconds_ofMilliseconds hms]
  unfold farFrom Date.farDay at *
  omega

end Instant

end LiveSurface
