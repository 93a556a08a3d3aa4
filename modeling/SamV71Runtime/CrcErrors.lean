import Mathlib.RingTheory.Coprime.Lemmas
import SamV71Runtime.Crc

/-!
# Which errors a cyclic redundancy check detects

Two messages of one length differ in a set of bit positions, the most significant bit
of the first byte being position 0. The difference of their polynomials has one term
for each of these positions, and their checks agree only if the generator divides it.
-/
namespace Crc
open Polynomial

variable {w : ℕ}

def byteBits (b : BitVec 8) : List Bool := (List.range 8).map b.getMsbD

def messageBits (bytes : List (BitVec 8)) : List Bool := bytes.flatMap byteBits

def errorPositions (xs ys : List Bool) : Finset ℕ :=
  (Finset.range xs.length).filter fun i => xs[i]? ≠ ys[i]?

/-- Bits as the coefficients of a polynomial, the leading one first. -/
noncomputable def bitsPoly (xs : List Bool) : (ZMod 2)[X] :=
  xs.foldl (fun m b => m * X + C (bit b)) 0

/-- The polynomial of an error in messages of `n` bits. -/
noncomputable def errorPoly (n : ℕ) (positions : Finset ℕ) : (ZMod 2)[X] :=
  ∑ i ∈ positions, X ^ (n - 1 - i)

section Bits

theorem bitsPoly_append_singleton (xs : List Bool) (b : Bool) :
    bitsPoly (xs ++ [b]) = bitsPoly xs * X + C (bit b) :=
  List.foldl_append

theorem bitsPoly_append (xs ys : List Bool) :
    bitsPoly (xs ++ ys) = bitsPoly xs * X ^ ys.length + bitsPoly ys := by
  induction ys using List.reverseRecOn with
  | nil => simp [bitsPoly]
  | append_singleton ys b ih =>
      rw [← List.append_assoc, bitsPoly_append_singleton, ih, bitsPoly_append_singleton,
        List.length_append, List.length_singleton]
      ring

theorem length_byteBits (b : BitVec 8) : (byteBits b).length = 8 := by simp [byteBits]

theorem length_messageBits (bytes : List (BitVec 8)) :
    (messageBits bytes).length = 8 * bytes.length := by
  induction bytes with
  | nil => rfl
  | cons b bytes ih =>
      rw [messageBits, List.flatMap_cons, List.length_append, length_byteBits, ← messageBits, ih,
        List.length_cons]
      omega

theorem bitsPoly_byteBits (b : BitVec 8) : bitsPoly (byteBits b) = toPoly b := by
  simp [bitsPoly, byteBits, toPoly, List.range_succ, Finset.sum_range_succ, BitVec.getMsbD,
    ← C_mul_X_pow_eq_monomial]
  ring

theorem messagePoly_eq (bytes : List (BitVec 8)) :
    messagePoly bytes = bitsPoly (messageBits bytes) := by
  induction bytes using List.reverseRecOn with
  | nil => rfl
  | append_singleton bytes b ih =>
      have hbits : messageBits (bytes ++ [b]) = messageBits bytes ++ byteBits b := by
        simp [messageBits]
      rw [messagePoly_append_singleton, ih, hbits, bitsPoly_append, length_byteBits,
        bitsPoly_byteBits]

theorem byteBits_injective : Function.Injective byteBits := by
  intro a b h
  apply BitVec.eq_of_getMsbD_eq
  intro i hi
  have hbit := congrArg (fun bits => bits[i]?) h
  simpa [byteBits, List.getElem?_range hi] using hbit

theorem messageBits_injective : Function.Injective messageBits := by
  intro as bs h
  have hlength : as.length = bs.length := by
    have := congrArg List.length h
    rw [length_messageBits, length_messageBits] at this
    omega
  induction as generalizing bs with
  | nil => exact (List.eq_nil_of_length_eq_zero hlength.symm).symm
  | cons a as ih =>
      cases bs with
      | nil => cases hlength
      | cons b bs =>
          rw [messageBits, messageBits, List.flatMap_cons, List.flatMap_cons] at h
          obtain ⟨hbyte, hrest⟩ :=
            List.append_inj h ((length_byteBits a).trans (length_byteBits b).symm)
          rw [byteBits_injective hbyte, ih hrest (Nat.succ.inj hlength)]

theorem bitsPoly_eq_sum (xs : List Bool) :
    bitsPoly xs = ∑ i ∈ Finset.range xs.length, C (bit (xs[i]?.getD false)) * X ^ (xs.length - 1 - i) := by
  induction xs using List.reverseRecOn with
  | nil => rfl
  | append_singleton xs b ih =>
      rw [bitsPoly_append_singleton, ih, List.length_append, List.length_singleton,
        Finset.sum_range_succ, Finset.sum_mul]
      congr 1
      · apply Finset.sum_congr rfl
        intro i hi
        have hlt := Finset.mem_range.mp hi
        have hexponent : xs.length + 1 - 1 - i = xs.length - 1 - i + 1 := by omega
        rw [List.getElem?_append_left hlt, hexponent, pow_succ, mul_assoc]
      · simp

/-- The polynomials of two messages differ in the terms of the error. -/
theorem bitsPoly_add {xs ys : List Bool} (h : xs.length = ys.length) :
    bitsPoly xs + bitsPoly ys = errorPoly xs.length (errorPositions xs ys) := by
  rw [bitsPoly_eq_sum, bitsPoly_eq_sum, ← h, ← Finset.sum_add_distrib, errorPoly, errorPositions,
    Finset.sum_filter]
  apply Finset.sum_congr rfl
  intro i hi
  have hx : i < xs.length := Finset.mem_range.mp hi
  have hy : i < ys.length := h ▸ hx
  rw [List.getElem?_eq_getElem hx, List.getElem?_eq_getElem hy]
  simp only [Option.getD_some, ← add_mul, ← C_add, ← bit_xor]
  cases xs[i] <;> cases ys[i] <;> simp [bit]

theorem errorPositions_subset (xs ys : List Bool) :
    errorPositions xs ys ⊆ Finset.range xs.length := Finset.filter_subset _ _

theorem errorPositions_nonempty {as bs : List (BitVec 8)} (hlength : as.length = bs.length)
    (hne : as ≠ bs) : (errorPositions (messageBits as) (messageBits bs)).Nonempty := by
  have hbits := length_messageBits as
  by_contra hempty
  apply hne
  apply messageBits_injective
  apply List.ext_getElem?
  intro i
  by_cases hi : i < (messageBits as).length
  · by_contra hdiffer
    exact hempty ⟨i, Finset.mem_filter.mpr ⟨Finset.mem_range.mpr hi, hdiffer⟩⟩
  · rw [List.getElem?_eq_none (Nat.le_of_not_lt hi), List.getElem?_eq_none]
    rw [length_messageBits, ← hlength]
    omega

end Bits

section Detection
variable {p start : BitVec w} {as bs : List (BitVec 8)}

theorem coeff_errorPoly {n i : ℕ} {positions : Finset ℕ} (hpositions : positions ⊆ Finset.range n)
    (hi : i ∈ positions) : (errorPoly n positions).coeff (n - 1 - i) = 1 := by
  rw [errorPoly, finsetSum_coeff, Finset.sum_eq_single_of_mem i hi]
  · exact coeff_X_pow_self _
  · intro j hj hne
    have hin := Finset.mem_range.mp (hpositions hi)
    have hjn := Finset.mem_range.mp (hpositions hj)
    rw [coeff_X_pow, if_neg]
    omega

theorem eval_one_errorPoly (n : ℕ) (positions : Finset ℕ) :
    (errorPoly n positions).eval 1 = positions.card := by
  simp [errorPoly, eval_finsetSum]

/-- An error of `w` consecutive bits at most is a power of `X` times a polynomial that
is shorter than the generator. -/
theorem errorPoly_burst {n first : ℕ} {positions : Finset ℕ}
    (hpositions : positions ⊆ Finset.range n) (hburst : positions ⊆ Finset.Ico first (first + w)) :
    ∃ (k : ℕ) (q : (ZMod 2)[X]), errorPoly n positions = X ^ k * q ∧ q.degree < (w : WithBot ℕ) := by
  refine ⟨n - min n (first + w), errorPoly (min n (first + w)) positions, ?_, ?_⟩
  · rw [errorPoly, errorPoly, Finset.mul_sum]
    apply Finset.sum_congr rfl
    intro i hi
    have hin := Finset.mem_range.mp (hpositions hi)
    have hib := Finset.mem_Ico.mp (hburst hi)
    rw [← pow_add]
    congr 1
    omega
  · refine (degree_sum_le _ _).trans_lt ((Finset.sup_lt_iff (WithBot.bot_lt_coe w)).mpr ?_)
    intro i hi
    have hib := Finset.mem_Ico.mp (hburst hi)
    have hlt : min n (first + w) - 1 - i < w := by omega
    rw [degree_X_pow]
    exact WithBot.coe_lt_coe.mpr hlt

theorem isCoprime_X_generator (hw : 0 < w) (hp : p.getLsbD 0 = true) :
    IsCoprime X (generator p) := by
  rw [irreducible_X.coprime_iff_not_dvd, X_dvd_iff, generator, coeff_add, coeff_X_pow, if_neg (by omega),
    coeff_toPoly, hp]
  decide

/-- Messages that leave the register in one state differ by a multiple of the generator. -/
theorem generator_dvd (hw : 8 ≤ w) (hp : p.getLsbD 0 = true) (hlength : as.length = bs.length)
    (h : register p start as = register p start bs) :
    generator p ∣
      errorPoly (messageBits as).length (errorPositions (messageBits as) (messageBits bs)) := by
  have hbits : (messageBits as).length = (messageBits bs).length := by
    rw [length_messageBits, length_messageBits, hlength]
  have hmk := (mk_register p hw start as).symm.trans ((congrArg _ (congrArg _ h)).trans
    (mk_register p hw start bs))
  rw [AdjoinRoot.mk_eq_mk, hlength, add_sub_add_left_eq_sub, ← mul_sub] at hmk
  rw [← bitsPoly_add hbits, ← messagePoly_eq, ← messagePoly_eq, ← CharTwo.sub_eq_add]
  have hcoprime : IsCoprime (generator p) (X ^ w) :=
    ((isCoprime_X_generator (by omega) hp).pow_left).symm
  exact hcoprime.dvd_of_dvd_mul_left hmk

/-- A burst no longer than the register is detected. -/
theorem register_ne_of_burst (hw : 8 ≤ w) (hp : p.getLsbD 0 = true)
    (hlength : as.length = bs.length) (hne : as ≠ bs) {first : ℕ}
    (hburst : errorPositions (messageBits as) (messageBits bs) ⊆ Finset.Ico first (first + w)) :
    register p start as ≠ register p start bs := by
  intro h
  have hdvd := generator_dvd hw hp hlength h
  have hpositions := errorPositions_subset (messageBits as) (messageBits bs)
  obtain ⟨i, hi⟩ := errorPositions_nonempty hlength hne
  have hcoeff := coeff_errorPoly hpositions hi
  obtain ⟨k, q, hq, hdegree⟩ := errorPoly_burst hpositions hburst
  have hcoprime : IsCoprime (generator p) (X ^ k) :=
    ((isCoprime_X_generator (by omega) hp).pow_left).symm
  rw [hq] at hcoeff
  have hq0 : q ≠ 0 := by
    rintro rfl
    rw [mul_zero, coeff_zero] at hcoeff
    exact zero_ne_one hcoeff
  rw [hq] at hdvd
  rw [← generator_degree p] at hdegree
  exact (generator_monic p).not_dvd_of_degree_lt hq0 hdegree (hcoprime.dvd_of_dvd_mul_left hdvd)

/-- A generator with an even number of terms detects every odd number of errors. -/
theorem register_ne_of_odd (hw : 8 ≤ w) (hp : p.getLsbD 0 = true)
    (heven : (generator p).eval 1 = 0) (hlength : as.length = bs.length)
    (hodd : Odd (errorPositions (messageBits as) (messageBits bs)).card) :
    register p start as ≠ register p start bs := by
  intro h
  obtain ⟨q, hq⟩ := generator_dvd hw hp hlength h
  have heval := congrArg (eval 1) hq
  rw [eval_one_errorPoly, eval_mul, heven, zero_mul, ZMod.natCast_eq_zero_iff] at heval
  exact Nat.not_even_iff_odd.mpr hodd (even_iff_two_dvd.mpr heval)

end Detection

end Crc
