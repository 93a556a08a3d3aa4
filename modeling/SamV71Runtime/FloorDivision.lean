import Mathlib.Algebra.Order.Field.Basic
import Mathlib.Data.Nat.Cast.Field
import Mathlib.Data.Nat.Cast.Order.Field
import Mathlib.Tactic.FieldSimp
import Mathlib.Tactic.Linarith
import Mathlib.Tactic.Positivity

/-!
# Chains of integer divisions

A natural number that is at most an exact value, and less than `e` short of it. A product
scales the error; a division rounds once more and still does not let an error grow that is
at least 1.
-/
namespace FloorDivision

variable {K : Type*} [Field K] [LinearOrder K] [IsStrictOrderedRing K]

structure Below (e x : K) (v : ℕ) : Prop where
  le : (v : K) ≤ x
  lt : x < v + e

variable {e x : K} {v : ℕ}

theorem below_self (v : ℕ) : Below (1 : K) v v := ⟨le_refl _, lt_add_one _⟩

theorem Below.mul (h : Below e x v) {m : ℕ} (hm : 0 < m) : Below (e * m) (x * m) (v * m) := by
  have hpos : (0 : K) < m := Nat.cast_pos.mpr hm
  constructor
  case le =>
    rw [Nat.cast_mul]
    exact mul_le_mul_of_nonneg_right h.le hpos.le
  case lt =>
    rw [Nat.cast_mul, ← add_mul]
    exact mul_lt_mul_of_pos_right h.lt hpos

theorem Below.div (h : Below e x v) (he : 1 ≤ e) {p : ℕ} (hp : 0 < p) : Below e (x / p) (v / p) := by
  have hpos : (0 : K) < p := Nat.cast_pos.mpr hp
  have hsplit : (v : K) = p * (v / p : ℕ) + (v % p : ℕ) := by
    exact_mod_cast (Nat.div_add_mod v p).symm
  constructor
  case le => exact Nat.cast_div_le.trans (div_le_div_of_nonneg_right h.le hpos.le)
  case lt =>
    -- the remainder is at most `p - 1`, and `e + (p - 1) ≤ e * p`
    have hmod : ((v % p : ℕ) : K) ≤ p - 1 := by
      have hlt : v % p + 1 ≤ p := Nat.mod_lt v hp
      have hcast : ((v % p : ℕ) : K) + 1 ≤ p := by exact_mod_cast hlt
      linarith
    have hone : (1 : K) ≤ p := by exact_mod_cast hp
    have hgrow : e + (p - 1) ≤ e * p := by nlinarith
    rw [div_lt_iff₀ hpos]
    calc x < v + e := h.lt
      _ ≤ ((v / p : ℕ) + e) * p := by
        rw [hsplit]
        linarith

/-- Divide, multiply, and divide twice more. -/
theorem below_chain (f : ℕ) {d m p q : ℕ} (hd : 0 < d) (hm : 0 < m) (hp : 0 < p) (hq : 0 < q) :
    Below (m : K) (f * m / d / p / q) (f / d * m / p / q) := by
  have hone : (1 : K) ≤ m := by exact_mod_cast hm
  have hproduct := ((below_self (K := K) f).div le_rfl hd).mul hm
  rw [one_mul, ← mul_div_right_comm] at hproduct
  exact (hproduct.div hone hp).div hone hq

/-- Where the divisions are exact, so is their result. -/
theorem div_exact (hx : (v : K) = x) {p : ℕ} (hdvd : p ∣ v) (hp : 0 < p) :
    ((v / p : ℕ) : K) = x / p := by
  rw [Nat.cast_div hdvd (Nat.cast_ne_zero.mpr hp.ne'), hx]

end FloorDivision
