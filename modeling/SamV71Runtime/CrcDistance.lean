import SamV71Runtime.CrcErrors

/-!
# Errors in a message and in its check

A message with its check behind it leaves a register of 16 bits at 0, so that errors in the
check are errors in the message as well. Two errors are detected as long as no power of `X`
that is not longer than the message is 1 modulo the generator.
-/
namespace Crc
open Polynomial

variable {w : ℕ}

/-- None of the first `n` states of a register that is shifted on from `r` is 1. -/
def avoidsOne (p : BitVec w) : ℕ → BitVec w → Bool
  | 0, _ => true
  | n + 1, r => decide (r ≠ 1) && avoidsOne p n (shift p r)

section Pairs
variable {p start : BitVec w} {as bs : List (BitVec 8)}

theorem ne_one_of_avoidsOne {n : ℕ} {r : BitVec w} (h : avoidsOne p n r = true) {d : ℕ}
    (hd : d < n) : (shift p)^[d] r ≠ 1 := by
  induction n generalizing r d with
  | zero => exact absurd hd (Nat.not_lt_zero d)
  | succ n ih =>
      rw [avoidsOne, Bool.and_eq_true, decide_eq_true_iff] at h
      cases d with
      | zero => exact h.1
      | succ d => exact ih h.2 (Nat.lt_of_succ_lt_succ hd)

theorem toPoly_injective : Function.Injective (toPoly : BitVec w → (ZMod 2)[X]) := by
  intro x y h
  apply BitVec.eq_of_getLsbD_eq
  intro i _
  have hcoeff := congrArg (coeff · i) h
  simp only [coeff_toPoly] at hcoeff
  cases hx : x.getLsbD i <;> cases hy : y.getLsbD i <;> simp_all [bit]

theorem toPoly_one (hw : 0 < w) : toPoly (1 : BitVec w) = 1 := by
  have hone : (1 : BitVec w) = BitVec.twoPow w 0 := by simp [BitVec.twoPow]
  rw [hone, toPoly_twoPow hw, pow_zero]

/-- The generator divides `X ^ d + 1` only if the register comes back to 1 after `d` shifts. -/
theorem shifts_eq_one (hw : 0 < w) {d : ℕ} (h : generator p ∣ X ^ d + 1) : (shift p)^[d] 1 = 1 := by
  have hmk : AdjoinRoot.mk (generator p) (toPoly ((shift p)^[d] 1)) =
      AdjoinRoot.mk (generator p) (toPoly (1 : BitVec w)) := by
    rw [mk_shifts, toPoly_one hw, mul_one, AdjoinRoot.mk_eq_mk, CharTwo.sub_eq_add]
    exact h
  have hdvd := AdjoinRoot.mk_eq_mk.mp hmk
  apply toPoly_injective
  by_contra hne
  refine (generator_monic p).not_dvd_of_degree_lt (sub_ne_zero.mpr hne) ?_ hdvd
  rw [generator_degree]
  exact (degree_sub_le _ _).trans_lt (max_lt (toPoly_degree_lt _) (toPoly_degree_lt _))

theorem errorPoly_pair {n i j : ℕ} (hij : i < j) (hj : j < n) :
    errorPoly n {i, j} = X ^ (n - 1 - j) * (X ^ (j - i) + 1) := by
  rw [errorPoly, Finset.sum_pair (Nat.ne_of_lt hij), mul_add, mul_one, ← pow_add]
  congr 2
  omega

/-- Two errors are detected in messages that are short enough. -/
theorem register_ne_of_pair (hw : 8 ≤ w) (hp : p.getLsbD 0 = true)
    (hlength : as.length = bs.length) {n : ℕ} (hn : 8 * as.length ≤ n + 1)
    (havoids : avoidsOne p n (shift p 1) = true)
    (hpair : (errorPositions (messageBits as) (messageBits bs)).card = 2) :
    register p start as ≠ register p start bs := by
  intro h
  have hdvd := generator_dvd hw hp hlength h
  have hsubset := errorPositions_subset (messageBits as) (messageBits bs)
  obtain ⟨i, j, hne, hpositions⟩ := Finset.card_eq_two.mp hpair
  wlog hij : i < j generalizing i j
  · exact this j i hne.symm (by rw [hpositions, Finset.pair_comm]) (by omega)
  have hj : j < (messageBits as).length := by
    apply Finset.mem_range.mp
    apply hsubset
    rw [hpositions]
    exact Finset.mem_insert_of_mem (Finset.mem_singleton_self j)
  have hcoprime : IsCoprime (generator p) (X ^ ((messageBits as).length - 1 - j)) :=
    ((isCoprime_X_generator (by omega) hp).pow_left).symm
  rw [hpositions, errorPoly_pair hij hj] at hdvd
  have hback := shifts_eq_one (by omega) (hcoprime.dvd_of_dvd_mul_left hdvd)
  rw [length_messageBits] at hj
  obtain ⟨d, hd⟩ : ∃ d, j - i = d + 1 := ⟨j - i - 1, by omega⟩
  rw [hd, Function.iterate_succ_apply] at hback
  exact ne_one_of_avoidsOne havoids (by omega) hback

end Pairs

section Check
variable {p start : BitVec 16} {message : List (BitVec 8)}

/-- Shifts that drop no bit are not reduced. -/
theorem shift_iterate_of_small (p : BitVec w) {k : ℕ} (hk : k ≤ w) {r : BitVec w}
    (hr : r.toNat < 2 ^ (w - k)) : (shift p)^[k] r = r <<< k := by
  induction k generalizing r with
  | zero => simp
  | succ k ih =>
      have hhalf : 2 ^ (w - (k + 1)) ≤ 2 ^ (w - 1) := Nat.pow_le_pow_right (by decide) (by omega)
      have hmsb : r.msb = false := by
        rw [BitVec.msb_eq_decide, decide_eq_false_iff_not]
        omega
      have hdouble : 2 * 2 ^ (w - (k + 1)) = 2 ^ (w - k) := by
        rw [← pow_succ']
        congr 1
        omega
      have hsmall : (r <<< 1).toNat < 2 ^ (w - k) := by
        rw [BitVec.toNat_shiftLeft, Nat.shiftLeft_eq, pow_one]
        exact (Nat.mod_le _ _).trans_lt (by omega)
      rw [Function.iterate_succ_apply, shift, hmsb, if_neg Bool.false_ne_true,
        ih (by omega) hsmall, ← BitVec.shiftLeft_add, Nat.add_comm]

/-- A register that takes in its own two bytes is empty. -/
theorem absorb_own (p r : BitVec 16) :
    absorb p (absorb p r (r.extractLsb' 8 8)) (r.extractLsb' 0 8) = 0 := by
  have hlow : r ^^^ (r.extractLsb' 8 8).setWidth 16 <<< (16 - 8) =
      (r.extractLsb' 0 8).setWidth 16 := by
    ext i hi
    by_cases hlow : i < 8
    · simp [hlow, BitVec.getLsbD_eq_getElem hi]
    · have hback : 8 + (i - 8) = i := by omega
      have hin : i - 8 < 8 := by omega
      simp [hlow, hback, hin, BitVec.getLsbD_eq_getElem hi]
  have hsmall : ((r.extractLsb' 0 8).setWidth 16).toNat < 2 ^ (16 - 8) := by
    rw [BitVec.toNat_setWidth]
    exact (Nat.mod_le _ _).trans_lt (r.extractLsb' 0 8).isLt
  have hzero : (shift p)^[8] (0 : BitVec 16) = 0 :=
    (shift_iterate_of_small p (by decide) (by decide)).trans rfl
  rw [absorb, absorb, hlow, shift_iterate_of_small p (by decide) hsmall, BitVec.xor_self]
  exact hzero

/-- A message is left at 0 by the check behind it. -/
theorem register_check (p start : BitVec 16) (message : List (BitVec 8)) :
    register p start (message ++ [(register p start message).extractLsb' 8 8,
      (register p start message).extractLsb' 0 8]) = 0 := by
  rw [register, List.foldl_append]
  exact absorb_own p (register p start message)

end Check

section Count
variable {xs ys xs' ys' : List Bool}

theorem card_errorPositions_append (h : xs.length = ys.length) :
    (errorPositions (xs ++ xs') (ys ++ ys')).card =
      (errorPositions xs ys).card + (errorPositions xs' ys').card := by
  simp only [errorPositions, Finset.card_filter]
  rw [List.length_append, Finset.sum_range_add]
  congr 1
  · apply Finset.sum_congr rfl
    intro i hi
    have hlt := Finset.mem_range.mp hi
    rw [List.getElem?_append_left hlt, List.getElem?_append_left (h ▸ hlt)]
  · apply Finset.sum_congr rfl
    intro i _
    rw [List.getElem?_append_right (Nat.le_add_right _ _), h,
      List.getElem?_append_right (Nat.le_add_right _ _), Nat.add_sub_cancel_left]

end Count

end Crc
