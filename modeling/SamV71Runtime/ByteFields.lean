import Mathlib.Data.Nat.ModEq
import SamV71Runtime.ByteMemory

/-!
# Fields of a structure in memory

A field holds a natural number, least significant byte first. Fields are found by their offset
from a base, and nothing here wraps around the address space.
-/
namespace ByteMemory

def loadNat (memory : Memory) (address : Address) : ℕ → ℕ
  | 0 => 0
  | n + 1 => (memory address).toNat + 256 * loadNat memory (address + 1) n

def storeNat (memory : Memory) (address : Address) (n value : ℕ) : Memory := fun a =>
  if (a - address).toNat < n then BitVec.ofNat 8 (value / 256 ^ (a - address).toNat) else memory a

variable {memory memory' : Memory} {base address : Address} {n value x y : ℕ}

theorem loadNat_congr {address' : Address}
    (h : ∀ i < n, memory' (address' + BitVec.ofNat 32 i) = memory (address + BitVec.ofNat 32 i)) :
    loadNat memory' address' n = loadNat memory address n := by
  induction n generalizing address address' with
  | zero => rfl
  | succ n ih =>
      have hfirst := h 0 (Nat.succ_pos n)
      rw [BitVec.add_zero, BitVec.add_zero] at hfirst
      rw [loadNat, loadNat, hfirst, ih]
      intro i hi
      have hnext := h (i + 1) (Nat.succ_lt_succ hi)
      rw [BitVec.ofNat_add, BitVec.add_comm (BitVec.ofNat 32 i), ← BitVec.add_assoc,
        ← BitVec.add_assoc] at hnext
      exact hnext

theorem loadNat_of_bytes
    (h : ∀ i < n, memory (address + BitVec.ofNat 32 i) = BitVec.ofNat 8 (value / 256 ^ i)) :
    loadNat memory address n = value % 256 ^ n := by
  induction n generalizing address value with
  | zero => exact (Nat.mod_one value).symm
  | succ n ih =>
      have hfirst := h 0 (Nat.succ_pos n)
      rw [BitVec.add_zero, Nat.pow_zero, Nat.div_one] at hfirst
      have hrest : loadNat memory (address + 1) n = value / 256 % 256 ^ n := by
        apply ih
        intro i hi
        have hnext := h (i + 1) (Nat.succ_lt_succ hi)
        rw [BitVec.ofNat_add, BitVec.add_comm (BitVec.ofNat 32 i), ← BitVec.add_assoc] at hnext
        rw [Nat.div_div_eq_div_mul, ← Nat.pow_succ']
        exact hnext
      have hpow : 256 ^ (n + 1) = 256 * 256 ^ n := Nat.pow_succ'
      rw [loadNat, hfirst, hrest, BitVec.toNat_ofNat, hpow, Nat.mod_mul]

/-- What a store leaves at an offset: the byte of the value, inside, and what was there. -/
theorem storeNat_apply (hx : x < 2 ^ 32) (hy : y + n ≤ 2 ^ 32) :
    storeNat memory (base + BitVec.ofNat 32 y) n value (base + BitVec.ofNat 32 x) =
      if y ≤ x ∧ x < y + n then BitVec.ofNat 8 (value / 256 ^ (x - y))
      else memory (base + BitVec.ofNat 32 x) := by
  have hoffset : (base + BitVec.ofNat 32 x - (base + BitVec.ofNat 32 y)).toNat =
      (2 ^ 32 - y % 2 ^ 32 + x) % 2 ^ 32 := by
    rw [add_sub_add_left_eq_sub, BitVec.toNat_sub, BitVec.toNat_ofNat, BitVec.toNat_ofNat,
      Nat.mod_eq_of_lt hx]
  by_cases hin : y ≤ x ∧ x < y + n
  · obtain ⟨hle, hlt⟩ := hin
    have hsub : (base + BitVec.ofNat 32 x - (base + BitVec.ofNat 32 y)).toNat = x - y := by
      rw [hoffset]
      omega
    rw [storeNat, hsub, if_pos (by omega), if_pos ⟨hle, hlt⟩]
  · have hout : ¬ (base + BitVec.ofNat 32 x - (base + BitVec.ofNat 32 y)).toNat < n := by
      rw [hoffset]
      omega
    rw [storeNat, if_neg hout, if_neg hin]

theorem add_offset_add (base : Address) (x i : ℕ) :
    base + BitVec.ofNat 32 x + BitVec.ofNat 32 i = base + BitVec.ofNat 32 (x + i) := by
  rw [BitVec.add_assoc, ← BitVec.ofNat_add]

theorem loadNat_storeNat_self (hy : y + n ≤ 2 ^ 32) :
    loadNat (storeNat memory (base + BitVec.ofNat 32 y) n value) (base + BitVec.ofNat 32 y) n =
      value % 256 ^ n := by
  apply loadNat_of_bytes
  intro i hi
  rw [add_offset_add, storeNat_apply (by omega) hy, if_pos (by omega), Nat.add_sub_cancel_left]

/-- A field that shares no byte with the stored one. -/
theorem loadNat_storeNat_of_apart {m : ℕ} (hx : x + m ≤ 2 ^ 32) (hy : y + n ≤ 2 ^ 32)
    (hapart : x + m ≤ y ∨ y + n ≤ x) :
    loadNat (storeNat memory (base + BitVec.ofNat 32 y) n value) (base + BitVec.ofNat 32 x) m =
      loadNat memory (base + BitVec.ofNat 32 x) m := by
  apply loadNat_congr
  intro i hi
  rw [add_offset_add, storeNat_apply (by omega) hy, if_neg (by omega)]

/-- A store changes no byte outside a region that its field lies in. -/
theorem storeNat_outside {a : Address} {size : ℕ} (hy : y + n ≤ size) (hsize : size ≤ 2 ^ 32)
    (ha : ∀ i < size, a ≠ base + BitVec.ofNat 32 i) :
    storeNat memory (base + BitVec.ofNat 32 y) n value a = memory a := by
  have hoffset : a = base + BitVec.ofNat 32 (a - base).toNat := (add_offset base a).symm
  have hout : size ≤ (a - base).toNat := by
    by_contra hlt
    exact ha _ (Nat.lt_of_not_le hlt) hoffset
  rw [hoffset, storeNat_apply (a - base).isLt (by omega), if_neg (by omega)]

end ByteMemory
