import Mathlib.Algebra.CharP.Two
import Mathlib.Algebra.Field.ZMod
import Mathlib.Data.List.Induction
import Mathlib.RingTheory.AdjoinRoot

/-!
# Cyclic redundancy checks as polynomial division

Words are polynomials over the field of two elements, the most significant bit first; a
message is the word its bytes form. A register that is shifted and reduced computes
remainders by its generator.
-/
namespace Crc
open Polynomial

variable {w v : ℕ}

def bit (b : Bool) : ZMod 2 := if b then 1 else 0

/-- The polynomial with the bits of a word as coefficients. -/
noncomputable def toPoly (x : BitVec w) : (ZMod 2)[X] :=
  ∑ i ∈ Finset.range w, monomial i (bit (x.getLsbD i))

/-- The generator of a register of width `w` whose lower coefficients are `p`. -/
noncomputable def generator (p : BitVec w) : (ZMod 2)[X] := X ^ w + toPoly p

/-- One shift of the register, reduced when a bit drops out. -/
def shift (p r : BitVec w) : BitVec w := if r.msb then r <<< 1 ^^^ p else r <<< 1

/-- A byte enters at the upper end of the register and is shifted through. -/
def absorb (p r : BitVec w) (b : BitVec 8) : BitVec w :=
  (shift p)^[8] (r ^^^ b.setWidth w <<< (w - 8))

def register (p start : BitVec w) (bytes : List (BitVec 8)) : BitVec w :=
  bytes.foldl (absorb p) start

noncomputable def messagePoly (bytes : List (BitVec 8)) : (ZMod 2)[X] :=
  bytes.foldl (fun m b => m * X ^ 8 + toPoly b) 0

section Words

theorem bit_xor (a b : Bool) : bit (a ^^ b) = bit a + bit b := by
  cases a <;> cases b <;> decide

theorem bit_false : bit false = 0 := rfl

theorem coeff_toPoly (x : BitVec w) (i : ℕ) : (toPoly x).coeff i = bit (x.getLsbD i) := by
  rw [toPoly, finsetSum_coeff]
  simp only [coeff_monomial, Finset.sum_ite_eq', Finset.mem_range]
  split
  · rfl
  · rename_i hi
    rw [BitVec.getLsbD_of_ge x i (Nat.le_of_not_lt hi), bit_false]

theorem toPoly_xor (x y : BitVec w) : toPoly (x ^^^ y) = toPoly x + toPoly y := by
  ext i
  rw [coeff_add, coeff_toPoly, coeff_toPoly, coeff_toPoly, BitVec.getLsbD_xor, bit_xor]

theorem toPoly_degree_lt (x : BitVec w) : (toPoly x).degree < w := by
  rw [degree_lt_iff_coeff_zero]
  intro i hi
  rw [coeff_toPoly, BitVec.getLsbD_of_ge x i hi, bit_false]

theorem toPoly_append (x : BitVec v) (y : BitVec w) :
    toPoly (x ++ y) = toPoly x * X ^ w + toPoly y := by
  ext i
  rw [coeff_add, coeff_mul_X_pow', coeff_toPoly, coeff_toPoly, coeff_toPoly, BitVec.getLsbD_append]
  by_cases hi : i < w
  · simp [hi, Nat.not_le_of_lt hi]
  · simp [hi, Nat.le_of_not_lt hi, bit_false]

theorem toPoly_twoPow {i : ℕ} (hi : i < w) : toPoly (BitVec.twoPow w i) = X ^ i := by
  ext j
  rw [coeff_toPoly, coeff_X_pow, BitVec.getLsbD_twoPow, decide_eq_true hi, Bool.true_and]
  by_cases hj : j = i
  · simp [hj, bit]
  · simp [hj, Ne.symm hj, bit]

/-- A byte moved to the upper end of a wider word. -/
theorem toPoly_upper (hw : 8 ≤ w) (b : BitVec 8) :
    toPoly (b.setWidth w <<< (w - 8)) = toPoly b * X ^ (w - 8) := by
  ext i
  rw [coeff_mul_X_pow', coeff_toPoly, coeff_toPoly, BitVec.getLsbD_shiftLeft, BitVec.getLsbD_setWidth]
  by_cases hlow : i < w - 8
  · rw [if_neg (Nat.not_le_of_lt hlow), decide_eq_true hlow]
    simp [bit_false]
  · rw [if_pos (Nat.le_of_not_lt hlow), decide_eq_false hlow]
    by_cases hi : i < w
    · have hin : i - (w - 8) < w := by omega
      simp [hi, hin]
    · rw [BitVec.getLsbD_of_ge b _ (by omega)]
      simp [hi]

/-- What a left shift by one drops is the most significant bit. -/
theorem X_mul_toPoly (r : BitVec w) :
    X * toPoly r = toPoly (r <<< 1) + monomial w (bit r.msb) := by
  ext i
  rw [coeff_add, coeff_toPoly, coeff_monomial, BitVec.getLsbD_shiftLeft]
  cases i with
  | zero =>
      rw [coeff_X_mul_zero]
      cases w with
      | zero => simp [bit_false, BitVec.of_length_zero]
      | succ w => simp [bit_false]
  | succ i =>
      rw [coeff_X_mul, coeff_toPoly, BitVec.msb_eq_getLsbD_last]
      rcases Nat.lt_trichotomy (i + 1) w with hlt | heq | hgt
      · simp [hlt, Nat.ne_of_gt hlt]
      · simp [← heq, bit_false]
      · rw [BitVec.getLsbD_of_ge r i (by omega)]
        simp [Nat.ne_of_lt hgt, bit_false, Nat.not_lt_of_gt hgt]

end Words

section Remainders
variable (p : BitVec w)

theorem generator_monic : (generator p).Monic := monic_X_pow_add (toPoly_degree_lt p)

theorem generator_degree : (generator p).degree = w := by
  rw [generator, degree_add_eq_left_of_degree_lt, degree_X_pow]
  rw [degree_X_pow]
  exact toPoly_degree_lt p

/-- Modulo the generator, a shift multiplies by `X`. -/
theorem mk_shift (r : BitVec w) :
    AdjoinRoot.mk (generator p) (toPoly (shift p r)) =
      AdjoinRoot.mk (generator p) (X * toPoly r) := by
  rw [AdjoinRoot.mk_eq_mk, X_mul_toPoly, shift]
  cases r.msb with
  | true =>
      rw [if_pos rfl, toPoly_xor, add_sub_add_left_eq_sub, CharTwo.sub_eq_add, add_comm]
      apply dvd_of_eq
      rw [generator, ← monomial_one_right_eq_X_pow]
      rfl
  | false =>
      rw [if_neg Bool.false_ne_true, bit_false, map_zero, add_zero, sub_self]
      exact dvd_zero _

theorem mk_shifts (r : BitVec w) (k : ℕ) :
    AdjoinRoot.mk (generator p) (toPoly ((shift p)^[k] r)) =
      AdjoinRoot.mk (generator p) (X ^ k * toPoly r) := by
  induction k with
  | zero => rw [Function.iterate_zero_apply, pow_zero, one_mul]
  | succ k ih =>
      rw [Function.iterate_succ_apply', mk_shift, map_mul, ih, ← map_mul, ← mul_assoc, pow_succ']

theorem mk_absorb (hw : 8 ≤ w) (r : BitVec w) (b : BitVec 8) :
    AdjoinRoot.mk (generator p) (toPoly (absorb p r b)) =
      AdjoinRoot.mk (generator p) (X ^ 8 * toPoly r + X ^ w * toPoly b) := by
  have hpow : (X : (ZMod 2)[X]) ^ w = X ^ 8 * X ^ (w - 8) := by
    rw [← pow_add, Nat.add_sub_cancel' hw]
  rw [absorb, mk_shifts, toPoly_xor, toPoly_upper hw, hpow]
  apply congrArg
  ring

theorem messagePoly_append_singleton (bytes : List (BitVec 8)) (b : BitVec 8) :
    messagePoly (bytes ++ [b]) = messagePoly bytes * X ^ 8 + toPoly b :=
  List.foldl_append

theorem mk_register (hw : 8 ≤ w) (start : BitVec w) (bytes : List (BitVec 8)) :
    AdjoinRoot.mk (generator p) (toPoly (register p start bytes)) =
      AdjoinRoot.mk (generator p)
        (X ^ (8 * bytes.length) * toPoly start + X ^ w * messagePoly bytes) := by
  induction bytes using List.reverseRecOn with
  | nil => simp [register, messagePoly]
  | append_singleton bytes b ih =>
      have hregister : register p start (bytes ++ [b]) = absorb p (register p start bytes) b :=
        List.foldl_append
      rw [hregister, mk_absorb p hw, map_add, map_mul, ih, ← map_mul, ← map_add,
        messagePoly_append_singleton, List.length_append, List.length_singleton]
      apply congrArg
      ring

/-- The register holds the remainder of the message, and of its start value ahead of it. -/
theorem toPoly_register (hw : 8 ≤ w) (start : BitVec w) (bytes : List (BitVec 8)) :
    toPoly (register p start bytes) =
      (X ^ (8 * bytes.length) * toPoly start + X ^ w * messagePoly bytes) %ₘ generator p := by
  have hsmall : (toPoly (register p start bytes)).degree < (generator p).degree := by
    rw [generator_degree]
    exact toPoly_degree_lt _
  have hdvd := AdjoinRoot.mk_eq_mk.mp (mk_register p hw start bytes)
  calc toPoly (register p start bytes)
      = toPoly (register p start bytes) %ₘ generator p :=
        ((modByMonic_eq_self_iff (generator_monic p)).mpr hsmall).symm
    _ = _ := modByMonic_eq_of_dvd_sub (generator_monic p) hdvd

end Remainders

theorem messagePoly_append (bytes rest : List (BitVec 8)) :
    messagePoly (bytes ++ rest) = messagePoly bytes * X ^ (8 * rest.length) + messagePoly rest := by
  induction rest using List.reverseRecOn with
  | nil => simp [messagePoly]
  | append_singleton rest b ih =>
      rw [← List.append_assoc, messagePoly_append_singleton, ih, messagePoly_append_singleton,
        List.length_append, List.length_singleton]
      ring

end Crc
