import Mathlib.Data.Rat.Floor
import Mathlib.Tactic.FieldSimp
import Mathlib.Tactic.NormNum

/-!
# The runtime clock: from a timer reading to nanoseconds

`Hal_GetElapsedTimeInNs` after its loop, on the 32-bit target: `reloads` is a
`uint32_t`, `TICKS_PER_RELOAD` a 32-bit `unsigned long`, and the product is widened
to 64 bits only after it was taken. Doubles are read as exact rationals.
-/
namespace SamV71Runtime.Hal

def ticksPerReload : BitVec 32 := 65535

def clockSelectionPrescaller : ℚ := 8

def nanosecondInSecond : ℚ := 1000000000

/-- `(uint64_t)(reloads * TICKS_PER_RELOAD) + (uint64_t)ticks`. -/
def totalTicks (reloads ticks : BitVec 32) : BitVec 64 :=
  (reloads * ticksPerReload).setWidth 64 + ticks.setWidth 64

/-- The value returned once the loop has left `reloads` and `ticks` behind. The
conversion to `uint64_t` is defined in C only below `2^64`; see
`getElapsedTimeInNs_lt`. -/
def getElapsedTimeInNs (mckFrequency : BitVec 64) (reloads ticks : BitVec 32) : ℕ :=
  let clockFrequency : ℚ := (mckFrequency.toNat : ℚ) / clockSelectionPrescaller
  ⌊((totalTicks reloads ticks).toNat : ℚ) / (clockFrequency / nanosecondInSecond)⌋₊

/-- `reloads_counter` together with the 16-bit counter of the timer channel. -/
structure Reading where
  reloads : BitVec 32
  ticks : BitVec 16
  deriving DecidableEq, Repr

/-- Lexicographic order: `b` is not an earlier reading than `a`. -/
def Reading.NotAfter (a b : Reading) : Prop :=
  a.reloads < b.reloads ∨ a.reloads = b.reloads ∧ a.ticks ≤ b.ticks

instance (a b : Reading) : Decidable (a.NotAfter b) :=
  inferInstanceAs (Decidable (_ ∨ _))

def Reading.elapsed (mckFrequency : BitVec 64) (r : Reading) : ℕ :=
  getElapsedTimeInNs mckFrequency r.reloads (r.ticks.setWidth 32)

@[simp] theorem ticksPerReload_toNat : ticksPerReload.toNat = 65535 := rfl

theorem getElapsedTimeInNs_eq (f : BitVec 64) (reloads ticks : BitVec 32) :
    getElapsedTimeInNs f reloads ticks =
      (totalTicks reloads ticks).toNat * 8000000000 / f.toNat := by
  rw [← Rat.natFloor_natCast_div_natCast]
  simp only [getElapsedTimeInNs, clockSelectionPrescaller, nanosecondInSecond]
  congr 1
  push_cast
  rw [div_div, div_div_eq_mul_div]
  norm_num

theorem totalTicks_toNat (reloads ticks : BitVec 32) :
    (totalTicks reloads ticks).toNat =
      reloads.toNat * 65535 % 2 ^ 32 + ticks.toNat := by
  have hr := Nat.mod_lt (reloads.toNat * 65535) (show 0 < 2 ^ 32 by decide)
  have ht := ticks.isLt
  rw [totalTicks, BitVec.toNat_add, BitVec.toNat_setWidth, BitVec.toNat_setWidth,
    BitVec.toNat_mul, ticksPerReload_toNat]
  omega

theorem elapsed_eq (f : BitVec 64) (r : Reading) :
    r.elapsed f = (r.reloads.toNat * 65535 % 2 ^ 32 + r.ticks.toNat) * 8000000000 / f.toNat := by
  have ht : r.ticks.toNat % 2 ^ 32 = r.ticks.toNat :=
    Nat.mod_eq_of_lt (r.ticks.isLt.trans (by decide))
  simp only [Reading.elapsed, getElapsedTimeInNs_eq, totalTicks_toNat, BitVec.toNat_setWidth, ht]

/-- From 2 Hz on, every reading fits the `uint64_t` the function returns. -/
theorem getElapsedTimeInNs_lt (f : BitVec 64) (hf : 2 ≤ f.toNat) (r : Reading) :
    r.elapsed f < 2 ^ 64 := by
  have hr := Nat.mod_lt (r.reloads.toNat * 65535) (show 0 < 2 ^ 32 by decide)
  have ht := r.ticks.isLt
  rw [elapsed_eq]
  calc (r.reloads.toNat * 65535 % 2 ^ 32 + r.ticks.toNat) * 8000000000 / f.toNat
      ≤ (r.reloads.toNat * 65535 % 2 ^ 32 + r.ticks.toNat) * 8000000000 / 2 :=
        Nat.div_le_div_left hf (by decide)
    _ < 2 ^ 64 := by omega

end SamV71Runtime.Hal

namespace SamV71Runtime.ThreadsCommon

/-- `time_after_execution - time_before_execution`, an unsigned 64-bit difference. -/
def threadExecutionTime (timeBeforeExecution timeAfterExecution : BitVec 64) : BitVec 64 :=
  timeAfterExecution - timeBeforeExecution

theorem threadExecutionTime_exact {before after : ℕ} (h : before ≤ after) (hw : after < 2 ^ 64) :
    (threadExecutionTime (BitVec.ofNat 64 before) (BitVec.ofNat 64 after)).toNat + before =
      after := by
  simp only [threadExecutionTime, BitVec.toNat_sub, BitVec.toNat_ofNat]
  omega

end SamV71Runtime.ThreadsCommon

namespace SamV71Runtime.Hal
open ThreadsCommon

/-- Time never goes backwards while the reload count stays at most `R`: for two
readings, for the calls of a whole run, and for the two calls around a user function. -/
structure ElapsedTimeMonotone (f : BitVec 64) (R : ℕ) : Prop where
  readings : ∀ a b : Reading, a.NotAfter b → b.reloads.toNat ≤ R → a.elapsed f ≤ b.elapsed f
  runs : ∀ calls : List Reading, calls.Pairwise Reading.NotAfter →
    (∀ r ∈ calls, r.reloads.toNat ≤ R) →
    (calls.map (Reading.elapsed f)).Pairwise (fun before after => before ≤ after)
  difference : ∀ a b : Reading, a.NotAfter b → b.reloads.toNat ≤ R → b.elapsed f < 2 ^ 64 →
    (threadExecutionTime (BitVec.ofNat 64 (a.elapsed f)) (BitVec.ofNat 64 (b.elapsed f))).toNat +
      a.elapsed f = b.elapsed f

theorem Reading.notAfter_iff (a b : Reading) : a.NotAfter b ↔
    a.reloads.toNat < b.reloads.toNat ∨
      a.reloads.toNat = b.reloads.toNat ∧ a.ticks.toNat ≤ b.ticks.toNat := by
  simp only [Reading.NotAfter, BitVec.lt_def, BitVec.le_def, ← BitVec.toNat_inj]

/-- Up to reload 65537 the 32-bit product is the true one, and a tick counter that
wraps early never outruns the next reload. -/
theorem elapsed_le_of_notAfter (f : BitVec 64) {a b : Reading} (h : a.NotAfter b)
    (hb : b.reloads.toNat ≤ 65537) : a.elapsed f ≤ b.elapsed f := by
  rw [Reading.notAfter_iff] at h
  have ht := a.ticks.isLt
  have fits : ∀ r : Reading, r.reloads.toNat ≤ 65537 →
      r.reloads.toNat * 65535 % 2 ^ 32 = r.reloads.toNat * 65535 :=
    fun r hr => Nat.mod_eq_of_lt (by omega)
  rw [elapsed_eq, elapsed_eq, fits a (by omega), fits b hb]
  apply Nat.div_le_div_right
  apply Nat.mul_le_mul_right
  omega

theorem elapsedTimeMonotone_of_le (f : BitVec 64) {R : ℕ} (hR : R ≤ 65537) :
    ElapsedTimeMonotone f R where
  readings a b h hb := elapsed_le_of_notAfter f h (hb.trans hR)
  runs calls h hb := by
    rw [List.pairwise_map]
    refine h.imp_of_mem ?_
    intro a b _ hm hab
    exact elapsed_le_of_notAfter f hab ((hb b hm).trans hR)
  difference a b h hb hw :=
    threadExecutionTime_exact (elapsed_le_of_notAfter f h (hb.trans hR)) hw

/-- The last reading before the product of 65538 reloads is taken modulo `2^32`. -/
def lastReading : Reading := ⟨65537, 65535⟩

/-- The very next tick of the timer. -/
def nextReading : Reading := ⟨65538, 0⟩

theorem lastReading_elapsed (f : BitVec 64) :
    lastReading.elapsed f = 34360262640000000000 / f.toNat := by
  rw [elapsed_eq]
  simp [lastReading]

theorem nextReading_elapsed (f : BitVec 64) :
    nextReading.elapsed f = 524272000000000 / f.toNat := by
  rw [elapsed_eq]
  simp [nextReading]

theorem nextReading_elapsed_lt (f : BitVec 64) (hf : 0 < f) :
    nextReading.elapsed f < lastReading.elapsed f := by
  have hpos : 0 < f.toNat := by simpa [BitVec.lt_def] using hf
  have hlt := f.isLt
  rw [nextReading_elapsed, lastReading_elapsed]
  calc 524272000000000 / f.toNat
      < 524272000000000 / f.toNat + 1 := Nat.lt_succ_self _
    _ = (524272000000000 + f.toNat) / f.toNat := (Nat.add_div_right _ hpos).symm
    _ ≤ 34360262640000000000 / f.toNat := Nat.div_le_div_right (by omega)

/-- The clock is monotone exactly as long as `reloads * TICKS_PER_RELOAD` fits 32 bits. -/
theorem elapsedTimeMonotone_iff (f : BitVec 64) (hf : 0 < f) (R : ℕ) (hR : R < 2 ^ 32) :
    ElapsedTimeMonotone f R ↔ R ≤ 65537 := by
  refine ⟨?_, elapsedTimeMonotone_of_le f⟩
  intro h
  by_contra hlarge
  have hnext : nextReading.reloads.toNat ≤ R := by
    change 65538 ≤ R
    omega
  exact absurd (h.readings lastReading nextReading (by decide) hnext)
    (Nat.not_le.mpr (nextReading_elapsed_lt f hf))

theorem elapsedTimeMonotone_iff_at_75MHz :
    (ElapsedTimeMonotone 75000000#64 65537 ↔ 65537 ≤ 65537) ∧
      (ElapsedTimeMonotone 75000000#64 65538 ↔ 65538 ≤ 65537) :=
  ⟨elapsedTimeMonotone_iff _ (by decide) _ (by decide),
    elapsedTimeMonotone_iff _ (by decide) _ (by decide)⟩

/-- At 75 MHz one tick takes the clock back from 458136835200 ns to 6990293 ns. -/
theorem elapsedTime_goes_backwards :
    lastReading.NotAfter nextReading ∧
      ¬ lastReading.elapsed 75000000#64 ≤ nextReading.elapsed 75000000#64 := by
  refine ⟨by decide, ?_⟩
  rw [lastReading_elapsed, nextReading_elapsed]
  decide

end SamV71Runtime.Hal
