/-!
# Powers of two and ten

The powers that binary and decimal numbers are made of.

Results:
* `pow2_pos`, `pow10_pos`: no power is zero.
* `pow2_succ`, `pow10_succ`: one more factor.
* `pow10_le`: more factors make a greater power.
* `pow2_add`: the exponents of a product are added.
* `length_toDigits_le`: how many digits a number has below a power of ten.
-/
namespace LiveSurface

/-- A power of two. -/
def pow2 (n : Nat) : Nat := Nat.pow 2 n

/-- A power of ten. -/
def pow10 (n : Nat) : Nat := Nat.pow 10 n

theorem pow2_succ (n : Nat) : pow2 (n + 1) = pow2 n * 2 := rfl

theorem pow10_succ (n : Nat) : pow10 (n + 1) = pow10 n * 10 := rfl

theorem pow2_pos (n : Nat) : 0 < pow2 n := by
  induction n with
  | zero => decide
  | succ n ih => rw [pow2_succ]; omega

theorem pow10_pos (n : Nat) : 0 < pow10 n := by
  induction n with
  | zero => decide
  | succ n ih => rw [pow10_succ]; omega

theorem pow10_le {m n : Nat} (h : m ≤ n) : pow10 m ≤ pow10 n := Nat.pow_le_pow_right (by decide) h

theorem pow2_add (m n : Nat) : pow2 (m + n) = pow2 m * pow2 n := by
  induction n with
  | zero => show pow2 m = pow2 m * 1; omega
  | succ n ih => rw [← Nat.add_assoc, pow2_succ, ih, pow2_succ, Nat.mul_assoc]

theorem length_toDigits_le {n k : Nat} (hk : 0 < k) (hn : n < pow10 k) : (Nat.toDigits 10 n).length ≤ k :=
  (Nat.length_toDigits_le_iff (by decide) hk).mpr hn

end LiveSurface
