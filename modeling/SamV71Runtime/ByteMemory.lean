import Mathlib.Data.BitVec

/-!
# Words in a memory of bytes

A memory is a function from 32-bit addresses to bytes. Words are little-endian, their
addresses need not be aligned, and a word at the end of the address space wraps around.
-/
namespace ByteMemory

abbrev Address := BitVec 32
abbrev Memory := Address → BitVec 8

def byteAt (memory : Memory) (address : Address) (i : ℕ) : BitVec 8 :=
  memory (address + BitVec.ofNat 32 i)

def byteOf (value : BitVec 32) (i : ℕ) : BitVec 8 := value.extractLsb' (8 * i) 8

def loadWord (memory : Memory) (address : Address) : BitVec 32 :=
  byteAt memory address 3 ++ byteAt memory address 2 ++ byteAt memory address 1 ++
    byteAt memory address 0

def storeWord (memory : Memory) (address : Address) (value : BitVec 32) : Memory := fun a =>
  if (a - address).toNat < 4 then byteOf value (a - address).toNat else memory a

def storeByte (memory : Memory) (address : Address) (value : BitVec 8) : Memory :=
  Function.update memory address value

/-- The words at the two addresses have no byte in common. -/
def Apart (a b : Address) : Prop := 4 ≤ (a - b).toNat ∧ 4 ≤ (b - a).toNat

instance (a b : Address) : Decidable (Apart a b) := inferInstanceAs (Decidable (_ ∧ _))

variable {memory memory' : Memory} {a b c : Address}

theorem apart_add_left (base a b : Address) : Apart (base + a) (base + b) ↔ Apart a b := by
  rw [Apart, Apart, add_sub_add_left_eq_sub, add_sub_add_left_eq_sub]

theorem offset_sub (a : Address) {i : ℕ} (hi : i < 4) : (a + BitVec.ofNat 32 i - a).toNat = i := by
  rw [add_sub_cancel_left, BitVec.toNat_ofNat]
  omega

theorem add_offset (a c : Address) : a + BitVec.ofNat 32 (c - a).toNat = c := by
  rw [BitVec.ofNat_toNat, BitVec.setWidth_eq, add_sub_cancel]

/-- Words share no byte when no byte of the one is a byte of the other. -/
theorem apart_of_bytes (h : ∀ i < 4, ∀ j < 4, a + BitVec.ofNat 32 i ≠ b + BitVec.ofNat 32 j) :
    Apart a b := by
  constructor
  · by_contra hlt
    apply h 0 (by decide) (a - b).toNat (Nat.lt_of_not_le hlt)
    rw [add_offset, BitVec.add_zero]
  · by_contra hlt
    apply h (b - a).toNat (Nat.lt_of_not_le hlt) 0 (by decide)
    rw [add_offset, BitVec.add_zero]

theorem Apart.bytes (h : Apart a b) {j : ℕ} (hj : j < 4) : 4 ≤ (b + BitVec.ofNat 32 j - a).toNat := by
  have hsplit : b + BitVec.ofNat 32 j - a = b - a + BitVec.ofNat 32 j := add_sub_right_comm _ _ _
  have hback : (a - b).toNat = (2 ^ 32 - (b - a).toNat) % 2 ^ 32 := by
    rw [← neg_sub b a, BitVec.toNat_neg]
  have hsmall := h.1
  have hlarge := h.2
  have hlt := (b - a).isLt
  rw [hsplit, BitVec.toNat_add, BitVec.toNat_ofNat]
  omega

theorem bytes_append (value : BitVec 32) :
    byteOf value 3 ++ byteOf value 2 ++ byteOf value 1 ++ byteOf value 0 = value := by
  ext i hi
  simp only [byteOf, BitVec.getElem_append, BitVec.getElem_extractLsb']
  grind

theorem byteOf_loadWord (memory : Memory) (a : Address) {i : ℕ} (hi : i < 4) :
    byteOf (loadWord memory a) i = byteAt memory a i := by
  ext k hk
  simp only [byteOf, loadWord, BitVec.getElem_extractLsb', BitVec.getLsbD_append]
  grind

theorem loadWord_congr (h : ∀ i < 4, byteAt memory a i = byteAt memory' b i) :
    loadWord memory a = loadWord memory' b := by
  rw [loadWord, loadWord, h 0 (by decide), h 1 (by decide), h 2 (by decide), h 3 (by decide)]

theorem storeWord_of_le (memory : Memory) (value : BitVec 32) (h : 4 ≤ (c - a).toNat) :
    storeWord memory a value c = memory c := if_neg (Nat.not_lt_of_le h)

@[simp] theorem loadWord_storeWord (memory : Memory) (a : Address) (value : BitVec 32) :
    loadWord (storeWord memory a value) a = value := by
  have hbyte (i : ℕ) (hi : i < 4) : byteAt (storeWord memory a value) a i = byteOf value i := by
    rw [byteAt, storeWord, offset_sub a hi, if_pos hi]
  rw [loadWord, hbyte 0 (by decide), hbyte 1 (by decide), hbyte 2 (by decide), hbyte 3 (by decide)]
  exact bytes_append value

theorem loadWord_storeWord_of_apart (memory : Memory) (value : BitVec 32) (h : Apart a b) :
    loadWord (storeWord memory a value) b = loadWord memory b :=
  loadWord_congr fun _ hi => storeWord_of_le memory value (h.bytes hi)

/-- Four bytes for each word, one word after the other, are the bytes in order. -/
theorem flatMap_range_bytes {β : Type*} (f : ℕ → β) (n : ℕ) :
    (List.range n).flatMap (fun k => [f (4 * k), f (4 * k + 1), f (4 * k + 2), f (4 * k + 3)]) =
      (List.range (4 * n)).map f := by
  induction n with
  | zero => rfl
  | succ n ih =>
      rw [List.range_succ, List.flatMap_append, ih, Nat.mul_succ, List.range_add, List.map_append]
      rfl

end ByteMemory
