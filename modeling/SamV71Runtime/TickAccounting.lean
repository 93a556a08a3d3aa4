import Mathlib.Algebra.Order.Group.Nat
import SamV71Runtime.HalClockReaders

/-!
# Counting ticks through reloads

The hardware counter passes 0 once every 65536 ticks, and `Hal_GetElapsedTimeInNs` counts
`TICKS_PER_RELOAD`, one less, for each of these passages.
-/
namespace SamV71Runtime.Hal
open Runs

variable {Tid : Type*}

def ClockAction.isTick : ClockAction Tid → Bool
  | .tick => true
  | .call _ | .statement _ => false

/-- The ticks since `Hal_InitTimer`. -/
def elapsedTicks (as : List (ClockAction Tid)) : ℕ := as.countP ClockAction.isTick

/-- What the two counters show after `n` ticks. -/
def consistentReading (n : ℕ) : Reading := ⟨BitVec.ofNat 32 (n / 65536), BitVec.ofNat 16 (n % 65536)⟩

def Reading.totalTicks (r : Reading) : BitVec 64 := Hal.totalTicks r.reloads (r.ticks.setWidth 32)

/-- A reading taken after `n` ticks counts all of them, so that the time it gives is off
by the rounding to whole nanoseconds only. -/
structure ExactTicks (n : ℕ) (r : Reading) : Prop where
  total : r.totalTicks.toNat = n
  time : ∀ mckFrequency : BitVec 64, r.elapsed mckFrequency = n * 8000000000 / mckFrequency.toNat

theorem initial_reading : (ClockState.initial : ClockState Tid).reading = consistentReading 0 := by
  rw [consistentReading]
  rfl

theorem tickCounter_reading (s : ClockState Tid) {n : ℕ} (h : s.reading = consistentReading n) :
    (tickCounter s).reading = consistentReading (n + 1) := by
  obtain ⟨hreloads, hcounter⟩ := Reading.mk.inj h
  have hnext : s.counter + 1 = BitVec.ofNat 16 ((n + 1) % 65536) := by
    rw [hcounter]
    apply BitVec.eq_of_toNat_eq
    simp only [BitVec.toNat_add, BitVec.toNat_ofNat, BitVec.ofNat_eq_ofNat]
    omega
  unfold tickCounter
  split
  · rename_i hzero
    rw [hnext] at hzero
    have hwrap := congrArg BitVec.toNat hzero
    simp only [BitVec.toNat_ofNat, BitVec.ofNat_eq_ofNat] at hwrap
    have hdiv : (n + 1) / 65536 = n / 65536 + 1 := by omega
    have hmod : (n + 1) % 65536 = 0 := by omega
    rw [consistentReading, hdiv, hmod, BitVec.ofNat_add]
    simp only [ClockState.reading, timerIrqHandler, hreloads]
    rfl
  · rename_i hnonzero
    rw [hnext] at hnonzero
    have hdiv : (n + 1) / 65536 = n / 65536 := by
      have hmod : (n + 1) % 65536 ≠ 0 := fun hzero => hnonzero (by rw [hzero]; rfl)
      omega
    simp only [ClockState.reading, consistentReading, hreloads, hnext, hdiv]

variable [DecidableEq Tid]

theorem loopStatement_reading {s t : ClockState Tid} {i : Tid} (hs : loopStatement s i = some t) :
    t.reading = s.reading := by
  unfold loopStatement at hs
  cases hpc : (s.reader i).pc with
  | outside => simp [hpc] at hs
  | resetFlag | loadReloads | readCounter | checkFlag =>
      simp only [hpc, Option.some.injEq] at hs
      subst hs
      rfl

/-- Only ticks move the counters. -/
theorem clockStep_reading {s t : ClockState Tid} {a : ClockAction Tid} {n : ℕ}
    (h : s.reading = consistentReading n) (hs : clockStep s a = some t) :
    t.reading = consistentReading (n + a.isTick.toNat) := by
  cases a with
  | tick =>
      obtain rfl := Option.some.inj hs
      exact tickCounter_reading s h
  | call i =>
      simp only [clockStep] at hs
      split at hs
      · obtain rfl := Option.some.inj hs
        exact h
      · cases hs
  | statement i => exact (loopStatement_reading hs).trans h

/-- After any run, whatever the readers did, the counters show the ticks of the run. -/
theorem run_reading {as : List (ClockAction Tid)} {t : ClockState Tid}
    (hr : run clockStep .initial as = some t) : t.reading = consistentReading (elapsedTicks as) := by
  refine run_induction (I := fun as t => t.reading = consistentReading (elapsedTicks as))
    (along_true _ as) hr initial_reading ?_
  intro as s a t _ h _ hs
  have hcount : elapsedTicks (as ++ [a]) = elapsedTicks as + a.isTick.toNat := by
    cases hticks : a.isTick with
    | true => simp [elapsedTicks, hticks]
    | false => simp [elapsedTicks, hticks]
  rw [hcount]
  exact clockStep_reading h hs

/-- Each reload that a reading counts makes it one tick short. -/
theorem totalTicks_consistentReading {n : ℕ} (hfits : n / 65536 * 65535 < 2 ^ 32) :
    (consistentReading n).totalTicks.toNat + n / 65536 = n := by
  have hreloads : (BitVec.ofNat 32 (n / 65536)).toNat = n / 65536 := by
    rw [BitVec.toNat_ofNat]
    omega
  have hticks : (BitVec.setWidth 32 (BitVec.ofNat 16 (n % 65536))).toNat = n % 65536 := by
    rw [BitVec.toNat_setWidth, BitVec.toNat_ofNat]
    omega
  rw [Reading.totalTicks, totalTicks_toNat, consistentReading, hreloads, hticks,
    Nat.mod_eq_of_lt hfits]
  omega

theorem exactTicks_iff (as : List (ClockAction Tid)) (t : ClockState Tid)
    (hr : run clockStep .initial as = some t) (hfits : elapsedTicks as / 65536 * 65535 < 2 ^ 32) :
    ExactTicks (elapsedTicks as) t.reading ↔ elapsedTicks as < 65536 := by
  have hshort := totalTicks_consistentReading hfits
  rw [run_reading hr]
  constructor
  · intro h
    have htotal := h.total
    omega
  · intro hless
    have htotal : (consistentReading (elapsedTicks as)).totalTicks.toNat = elapsedTicks as := by
      omega
    refine ⟨htotal, fun mckFrequency => ?_⟩
    rw [Reading.elapsed, getElapsedTimeInNs_eq, ← Reading.totalTicks, htotal]

theorem exactTicks_of_three_ticks :
    ExactTicks 3 (Reading.mk 0 3) ↔ 3 < 65536 :=
  exactTicks_iff ([.tick, .tick, .tick] : List (ClockAction Unit)) _ rfl (by decide)

theorem run_tick_total (n : ℕ) :
    ∃ t, run clockStep (ClockState.initial : ClockState Tid) (List.replicate n .tick) = some t := by
  induction n with
  | zero => exact ⟨_, rfl⟩
  | succ n ih =>
      obtain ⟨t, ht⟩ := ih
      exact ⟨tickCounter t, by rw [List.replicate_succ', run_concat, ht]; rfl⟩

/-- The first reload: 65536 ticks are counted as 65535. -/
theorem first_reload_loses_a_tick : ∃ t : ClockState Unit,
    run clockStep .initial (List.replicate 65536 .tick) = some t ∧
    t.reading.totalTicks.toNat = 65535 ∧ ¬ ExactTicks 65536 t.reading := by
  obtain ⟨t, ht⟩ : ∃ t : ClockState Unit,
      run clockStep .initial (List.replicate 65536 .tick) = some t := run_tick_total 65536
  have hcount : elapsedTicks (List.replicate 65536 (ClockAction.tick : ClockAction Unit)) = 65536 := by
    rw [elapsedTicks, List.countP_replicate]
    rfl
  have htotal : t.reading.totalTicks.toNat = 65535 := by
    rw [run_reading ht, hcount]
    decide
  refine ⟨t, ht, htotal, fun h => ?_⟩
  have hexact := h.total
  omega

end SamV71Runtime.Hal
