import Mathlib.Tactic.Ring
import SamV71Runtime.CyclicRequests
import SamV71Runtime.HalClock

/-!
# From nanoseconds to ticks

`Hal_SleepNs` multiplies with the frequency of the main clock, doubles being read as exact
rationals, and `ThreadsCommon_CreateCyclicRequest` goes through whole milliseconds.
-/
namespace SamV71Runtime.Hal

/-- `sleep_tick_count`. -/
def sleepTickCount (mckFrequency timeNs : BitVec 64) : ℚ :=
  timeNs.toNat * (mckFrequency.toNat / nanosecondInSecond)

/-- What is passed to `rtems_task_wake_after`. The conversion to `rtems_interval` is
undefined in C from `2^32` on. -/
def sleepInterval (mckFrequency timeNs : BitVec 64) : Option RtemsInterval :=
  if ⌊sleepTickCount mckFrequency timeNs⌋₊ < 2 ^ 32 then
    some (BitVec.ofNat 32 ⌊sleepTickCount mckFrequency timeNs⌋₊)
  else none

def sleepNs (rtemsTaskWakeAfter : RtemsInterval → RtemsStatusCode)
    (mckFrequency timeNs : BitVec 64) : Option Bool :=
  (sleepInterval mckFrequency timeNs).map fun interval => rtemsTaskWakeAfter interval = .successful

theorem floor_sleepTickCount (mckFrequency timeNs : BitVec 64) :
    ⌊sleepTickCount mckFrequency timeNs⌋₊ =
      timeNs.toNat * mckFrequency.toNat / 1000000000 := by
  rw [← Rat.natFloor_natCast_div_natCast]
  simp only [sleepTickCount, nanosecondInSecond]
  congr 1
  push_cast
  rw [mul_div_assoc]

theorem sleepInterval_eq_some_iff {mckFrequency timeNs : BitVec 64} {interval : RtemsInterval} :
    sleepInterval mckFrequency timeNs = some interval ↔
      timeNs.toNat * mckFrequency.toNat / 1000000000 = interval.toNat := by
  have hlt := interval.isLt
  rw [sleepInterval, floor_sleepTickCount]
  split
  · rename_i hfits
    rw [Option.some.injEq, ← BitVec.toNat_inj, BitVec.toNat_ofNat, Nat.mod_eq_of_lt hfits]
  · simp only [reduceCtorEq, false_iff]
    omega

end SamV71Runtime.Hal

namespace SamV71Runtime.ThreadsCommon
open Hal

/-- The tick length in nanoseconds. -/
def CyclicConfig.nanosecondsPerTick (cfg : CyclicConfig) : ℕ := cfg.microsecondsPerTick.toNat * 1000

section Milliseconds
variable (cfg : CyclicConfig) (r : CyclicRequest) (timerId : RtemsId)

/-- The product is taken in 64 bits and does not overflow there. -/
theorem toNat_rtemsMillisecondsToTicks (ns : BitVec 64) :
    (rtemsMillisecondsToTicks cfg (ns / nanosecondsInMillisecond)).toNat =
      ns.toNat / 1000000 * 1000 / cfg.microsecondsPerTick.toNat := by
  have hns := ns.isLt
  have hms : (ns / nanosecondsInMillisecond).toNat = ns.toNat / 1000000 := BitVec.toNat_udiv
  have hproduct : (ns / nanosecondsInMillisecond * 1000#64).toNat = ns.toNat / 1000000 * 1000 := by
    rw [BitVec.toNat_mul, hms, BitVec.toNat_ofNat]
    omega
  have hwide : (cfg.microsecondsPerTick.setWidth 64).toNat = cfg.microsecondsPerTick.toNat :=
    BitVec.toNat_setWidth_of_le (by decide)
  rw [rtemsMillisecondsToTicks, BitVec.toNat_udiv, hproduct, hwide]

theorem toNat_entry_intervalTicks :
    (r.entry cfg timerId).intervalTicks.toNat =
      r.intervalNs.toNat / 1000000 * 1000 / cfg.microsecondsPerTick.toNat % 2 ^ 32 := by
  simp only [CyclicRequest.entry, CyclicRequest.intervalTicks, BitVec.toNat_setWidth,
    toNat_rtemsMillisecondsToTicks]

theorem toNat_entry_nextWakeupTicks :
    (r.entry cfg timerId).nextWakeupTicks.toNat =
      r.dispatchOffsetNs.toNat / 1000000 * 1000 / cfg.microsecondsPerTick.toNat % 2 ^ 32 := by
  simp only [CyclicRequest.entry, CyclicRequest.offsetTicks, BitVec.toNat_setWidth,
    toNat_rtemsMillisecondsToTicks]

end Milliseconds

section Periods
variable (cfg : CyclicConfig)

/-- A whole number of milliseconds, of fewer than `2^32` ticks. -/
def CyclicConfig.Representable (ns : BitVec 64) : Prop :=
  1000000 ∣ ns.toNat ∧ ns.toNat < 2 ^ 32 * cfg.nanosecondsPerTick

instance (ns : BitVec 64) : Decidable (cfg.Representable ns) := inferInstanceAs (Decidable (_ ∧ _))

/-- A created cyclic request keeps the period and the offset that were asked for. -/
structure PeriodKept (r : CyclicRequest) (timerId : RtemsId) (created : CyclicRequestData) : Prop where
  nonzero : created.intervalTicks ≠ 0
  interval : created.intervalTicks.toNat * cfg.nanosecondsPerTick = r.intervalNs.toNat
  offset : (r.entry cfg timerId).nextWakeupTicks.toNat * cfg.nanosecondsPerTick =
    r.dispatchOffsetNs.toNat

/-- Milliseconds lose a part of a period that has one, and 32 bits what is too long. -/
theorem ticks_exact_iff {u ns : ℕ} (hu : 0 < u) (hdvd : u * 1000 ∣ ns) :
    ns / 1000000 * 1000 / u % 2 ^ 32 * (u * 1000) = ns ↔
      1000000 ∣ ns ∧ ns < 2 ^ 32 * (u * 1000) := by
  obtain ⟨m, rfl⟩ := hdvd
  have htick : 0 < u * 1000 := Nat.mul_pos hu (by decide)
  have hproduct : u * 1000 * m = u * m * 1000 := by ring
  have hms : u * 1000 * m / 1000000 = u * m / 1000 := by omega
  have hwhole : 1000000 ∣ u * 1000 * m ↔ 1000 ∣ u * m := by omega
  have hshort : u * 1000 * m < 2 ^ 32 * (u * 1000) ↔ m < 2 ^ 32 := by
    rw [Nat.mul_comm (u * 1000) m]
    exact Nat.mul_lt_mul_right htick
  have hequal (ticks : ℕ) : ticks * (u * 1000) = u * 1000 * m ↔ ticks = m := by
    rw [Nat.mul_comm (u * 1000) m]
    exact Nat.mul_right_cancel_iff htick
  rw [hms, hwhole, hshort, hequal]
  have hle : u * m / 1000 * 1000 ≤ u * m := Nat.div_mul_le_self _ _
  constructor
  · intro h
    have hticks : m ≤ u * m / 1000 * 1000 / u := h.symm.le.trans (Nat.mod_le _ _)
    have hback := (Nat.le_div_iff_mul_le hu).mp hticks
    refine ⟨⟨u * m / 1000, ?_⟩, ?_⟩
    · rw [Nat.mul_comm m u] at hback
      omega
    · exact h ▸ Nat.mod_lt _ (by decide)
  · rintro ⟨hdvd, hlt⟩
    rw [Nat.div_mul_cancel hdvd, Nat.mul_div_cancel_left m hu, Nat.mod_eq_of_lt hlt]

variable {cfg} {r : CyclicRequest} {s t : CyclicState} {status : RtemsStatusCode} {timerId : RtemsId}

/-- A granted creation leaves the converted interval in its entry of the table. -/
theorem createCyclicRequest_interval (h : createCyclicRequest cfg s r status timerId = some (true, t)) :
    (t.cyclicRequestData s.cyclicRequestsCount).intervalTicks =
      (r.entry cfg timerId).intervalTicks := by
  obtain ⟨⟨granted, u⟩, harm, heq⟩ := Option.map_eq_some_iff.mp h
  obtain ⟨rfl, rfl⟩ := Prod.mk.inj heq
  rcases armCyclicRequest_cases harm with ⟨_, _, _, rfl⟩ | ⟨hrefused, _⟩
  · rw [scheduleNextTick_eq]
    simp [countCyclicRequest, fillEntry, CyclicRequestData.advance]
  · cases hrefused

theorem periodKept_iff (cfg : CyclicConfig) (r : CyclicRequest) (s t : CyclicState)
    (status : RtemsStatusCode) (timerId : RtemsId) (htick : 0 < cfg.microsecondsPerTick.toNat)
    (hinterval : cfg.nanosecondsPerTick ∣ r.intervalNs.toNat) (hpositive : 0 < r.intervalNs.toNat)
    (hoffset : cfg.nanosecondsPerTick ∣ r.dispatchOffsetNs.toNat)
    (hcreated : createCyclicRequest cfg s r status timerId = some (true, t)) :
    PeriodKept cfg r timerId (t.cyclicRequestData s.cyclicRequestsCount) ↔
      cfg.Representable r.intervalNs ∧ cfg.Representable r.dispatchOffsetNs := by
  have hticks := createCyclicRequest_interval hcreated
  have hkept := ticks_exact_iff htick hinterval
  have hkeptOffset := ticks_exact_iff htick hoffset
  rw [← toNat_entry_intervalTicks cfg r timerId, ← hticks] at hkept
  rw [← toNat_entry_nextWakeupTicks cfg r timerId] at hkeptOffset
  constructor
  · intro h
    exact ⟨hkept.mp h.interval, hkeptOffset.mp h.offset⟩
  · rintro ⟨hrepresentable, hrepresentableOffset⟩
    have hequal := hkept.mpr hrepresentable
    refine ⟨?_, hequal, hkeptOffset.mpr hrepresentableOffset⟩
    intro hzero
    rw [hzero] at hequal
    simp only [BitVec.toNat_ofNat, BitVec.ofNat_eq_ofNat] at hequal
    omega

/-- One interface, with ticks of the given length. -/
def oneInterface (microsecondsPerTick : BitVec 32) : CyclicConfig := ⟨1, microsecondsPerTick⟩

theorem periodKept_of_two_milliseconds :
    PeriodKept (oneInterface 1000) ⟨2000000, 1000000, 1, 0⟩ 1 ⟨1, 3, 2, 1, 0⟩ ↔
      (oneInterface 1000).Representable 2000000 ∧ (oneInterface 1000).Representable 1000000 :=
  periodKept_iff (oneInterface 1000) ⟨2000000, 1000000, 1, 0⟩ .initial _ .successful 1 (by decide)
    (by decide) (by decide) (by decide) rfl

/-- Ticks of 500 us: a period of 3 ticks is shortened to 2. Ticks of 1 ms: a period of
`2^32` ticks is stored as 0, and its timer is never armed. -/
theorem periods_not_kept :
    (∃ t, createCyclicRequest (oneInterface 500) .initial ⟨1500000, 0, 1, 0⟩ .successful 1 =
        some (true, t) ∧ (t.cyclicRequestData 0).intervalTicks = 2#32 ∧
        ¬ PeriodKept (oneInterface 500) ⟨1500000, 0, 1, 0⟩ 1 (t.cyclicRequestData 0)) ∧
    ∃ t, createCyclicRequest (oneInterface 1000) .initial ⟨4294967296000000, 0, 1, 0⟩ .successful 1 =
        some (true, t) ∧ (t.cyclicRequestData 0).intervalTicks = 0#32 ∧ t.armed 1 = none ∧
        ¬ PeriodKept (oneInterface 1000) ⟨4294967296000000, 0, 1, 0⟩ 1 (t.cyclicRequestData 0) :=
  ⟨⟨_, rfl, by decide, fun h => absurd h.interval (by decide)⟩,
    ⟨_, rfl, by decide, by decide, fun h => h.nonzero (by decide)⟩⟩

end Periods

section Sleeping
variable (cfg : CyclicConfig) (mckFrequency : BitVec 64)

/-- Sleeping and cyclic requests convert alike, and a sleep lasts the time that was asked
for up to one tick, whenever the ticks fit the interval type. -/
structure ConversionsAgree : Prop where
  agree : ∀ (r : CyclicRequest) (timerId : RtemsId), 1000000 ∣ r.intervalNs.toNat →
    r.intervalNs.toNat / cfg.nanosecondsPerTick < 2 ^ 32 →
    sleepInterval mckFrequency r.intervalNs = some (r.entry cfg timerId).intervalTicks
  lasts : ∀ timeNs : BitVec 64, timeNs.toNat / cfg.nanosecondsPerTick < 2 ^ 32 →
    ∃ interval, sleepInterval mckFrequency timeNs = some interval ∧
      interval.toNat * cfg.nanosecondsPerTick ≤ timeNs.toNat + cfg.nanosecondsPerTick ∧
      timeNs.toNat ≤ interval.toNat * cfg.nanosecondsPerTick + cfg.nanosecondsPerTick

variable {cfg} {mckFrequency}

/-- For `ms` milliseconds: the main clock may exceed the tick rate by less than `1000 / ms`. -/
theorem sleepInterval_agrees_iff (htick : 0 < cfg.microsecondsPerTick.toNat)
    (hdvd : cfg.microsecondsPerTick.toNat ∣ 1000) (r : CyclicRequest) (timerId : RtemsId) {ms : ℕ}
    (hms : r.intervalNs.toNat = ms * 1000000)
    (hfits : r.intervalNs.toNat / cfg.nanosecondsPerTick < 2 ^ 32) :
    sleepInterval mckFrequency r.intervalNs = some (r.entry cfg timerId).intervalTicks ↔
      ms * 1000000 ≤ ms * (mckFrequency.toNat * cfg.microsecondsPerTick.toNat) ∧
      ms * (mckFrequency.toNat * cfg.microsecondsPerTick.toNat) <
        ms * 1000000 + 1000 * cfg.microsecondsPerTick.toNat := by
  rw [sleepInterval_eq_some_iff, toNat_entry_intervalTicks, hms]
  rw [hms, CyclicConfig.nanosecondsPerTick] at hfits
  generalize cfg.microsecondsPerTick.toNat = u at *
  generalize mckFrequency.toNat = f
  obtain ⟨k, hk⟩ := hdvd
  have hrate : ms * 1000000 = ms * k * 1000 * u := by
    calc ms * 1000000 = ms * 1000 * 1000 := by omega
      _ = ms * (u * k) * 1000 := by rw [← hk]
      _ = ms * k * 1000 * u := by ring
  have hticks : ms * 1000000 / (u * 1000) = ms * k := by
    rw [hrate, show ms * k * 1000 * u = ms * k * (u * 1000) by ring]
    exact Nat.mul_div_cancel _ (Nat.mul_pos htick (by decide))
  have hcyclic : ms * 1000000 / 1000000 * 1000 / u = ms * k := by
    rw [Nat.mul_div_cancel _ (by decide), hk, Nat.mul_left_comm, Nat.mul_div_cancel_left _ htick]
  have hsleep : ms * 1000000 * f / 1000000000 = ms * f / 1000 := by
    rw [Nat.mul_right_comm]
    exact Nat.mul_div_mul_right (ms * f) 1000 (show 0 < 1000000 by decide)
  rw [hcyclic, hsleep, Nat.mod_eq_of_lt (hticks ▸ hfits), Nat.div_eq_iff (by decide)]
  have hcycles : ms * (f * u) = ms * f * u := by ring
  rw [hrate, hcycles]
  constructor
  · rintro ⟨hlow, hhigh⟩
    refine ⟨Nat.mul_le_mul_right u hlow, ?_⟩
    rw [← Nat.add_mul]
    exact Nat.mul_lt_mul_of_pos_right (by omega) htick
  · rintro ⟨hlow, hhigh⟩
    rw [← Nat.add_mul] at hhigh
    have hupper := Nat.lt_of_mul_lt_mul_right hhigh
    exact ⟨Nat.le_of_mul_le_mul_right hlow htick, by omega⟩

/-- At the tick rate, a sleep is the time in ticks, rounded down. -/
theorem sleepInterval_of_tickRate (hrate : mckFrequency.toNat * cfg.microsecondsPerTick.toNat = 1000000)
    {timeNs : BitVec 64} (hfits : timeNs.toNat / cfg.nanosecondsPerTick < 2 ^ 32) :
    sleepInterval mckFrequency timeNs =
      some (BitVec.ofNat 32 (timeNs.toNat / cfg.nanosecondsPerTick)) := by
  rw [sleepInterval_eq_some_iff, BitVec.toNat_ofNat, Nat.mod_eq_of_lt hfits,
    CyclicConfig.nanosecondsPerTick]
  generalize cfg.microsecondsPerTick.toNat = u at *
  generalize mckFrequency.toNat = f at *
  have hpositive : 0 < f := by
    rcases Nat.eq_zero_or_pos f with rfl | hf
    · omega
    · exact hf
  calc timeNs.toNat * f / 1000000000
      = timeNs.toNat * f / (u * 1000 * f) := by
        congr 1
        rw [Nat.mul_right_comm, Nat.mul_comm u f, hrate]
    _ = timeNs.toNat / (u * 1000) := Nat.mul_div_mul_right _ _ hpositive

/-- One second is enough: its clock cycles are the frequency itself. -/
theorem tickRate_of_agree (htick : 0 < cfg.microsecondsPerTick.toNat)
    (hdvd : cfg.microsecondsPerTick.toNat ∣ 1000) (h : ConversionsAgree cfg mckFrequency) :
    mckFrequency.toNat * cfg.microsecondsPerTick.toNat = 1000000 := by
  have hsecond : (1000000000#64).toNat = 1000 * 1000000 := rfl
  have hfits : (1000000000#64).toNat / cfg.nanosecondsPerTick < 2 ^ 32 :=
    (Nat.div_le_self _ _).trans_lt (by decide)
  have hagree := h.agree ⟨1000000000#64, 0, 0, 0⟩ 0 (by decide) hfits
  rw [sleepInterval_agrees_iff htick hdvd ⟨1000000000#64, 0, 0, 0⟩ 0 hsecond hfits] at hagree
  obtain ⟨hlow, hhigh⟩ := hagree
  obtain ⟨k, hk⟩ := hdvd
  generalize cfg.microsecondsPerTick.toNat = u at *
  have hmillion : 1000000 = 1000 * k * u := by
    calc 1000000 = 1000 * 1000 := rfl
      _ = 1000 * (u * k) := by rw [← hk]
      _ = 1000 * k * u := by ring
  have hfrequency : mckFrequency.toNat = 1000 * k := by
    apply Nat.le_antisymm
    · apply Nat.le_of_lt_succ
      apply Nat.lt_of_mul_lt_mul_right (a := u)
      rw [Nat.succ_mul, ← hmillion]
      omega
    · apply Nat.le_of_mul_le_mul_right (c := u) _ htick
      rw [← hmillion]
      omega
  rw [hfrequency, ← hmillion]

/-- The two conversions agree on every time if the main clock runs at the tick rate. For a
single time in milliseconds, they agree if it is faster by less than `1000 / ms` hertz. -/
theorem conversionsAgree_iff (cfg : CyclicConfig) (mckFrequency : BitVec 64)
    (htick : 0 < cfg.microsecondsPerTick.toNat) (hdvd : cfg.microsecondsPerTick.toNat ∣ 1000) :
    (ConversionsAgree cfg mckFrequency ↔
      mckFrequency.toNat * cfg.microsecondsPerTick.toNat = 1000000) ∧
    ∀ (r : CyclicRequest) (timerId : RtemsId) (ms : ℕ), r.intervalNs.toNat = ms * 1000000 →
      r.intervalNs.toNat / cfg.nanosecondsPerTick < 2 ^ 32 →
      (sleepInterval mckFrequency r.intervalNs = some (r.entry cfg timerId).intervalTicks ↔
        ms * 1000000 ≤ ms * (mckFrequency.toNat * cfg.microsecondsPerTick.toNat) ∧
        ms * (mckFrequency.toNat * cfg.microsecondsPerTick.toNat) <
          ms * 1000000 + 1000 * cfg.microsecondsPerTick.toNat) := by
  refine ⟨⟨tickRate_of_agree htick hdvd, fun hrate => ⟨?_, ?_⟩⟩, ?_⟩
  · intro r timerId hwhole hfits
    obtain ⟨ms, hms⟩ := hwhole
    rw [Nat.mul_comm] at hms
    rw [sleepInterval_agrees_iff htick hdvd r timerId hms hfits, hrate]
    exact ⟨Nat.le_refl _, Nat.lt_add_of_pos_right (Nat.mul_pos (by decide) htick)⟩
  · intro timeNs hfits
    have hpositive : 0 < cfg.nanosecondsPerTick := Nat.mul_pos htick (by decide)
    have hle := Nat.div_mul_le_self timeNs.toNat cfg.nanosecondsPerTick
    have hlt := Nat.lt_div_mul_add hpositive (a := timeNs.toNat)
    refine ⟨_, sleepInterval_of_tickRate hrate hfits, ?_⟩
    rw [BitVec.toNat_ofNat, Nat.mod_eq_of_lt hfits]
    omega
  · intro r timerId ms hms hfits
    exact sleepInterval_agrees_iff htick hdvd r timerId hms hfits

theorem conversionsAgree_at_one_kilohertz :
    ConversionsAgree (oneInterface 1000) 1000 ↔ (1000#64).toNat * (1000#32).toNat = 1000000 :=
  (conversionsAgree_iff (oneInterface 1000) 1000 (by decide) (by decide)).1

/-- At 75 MHz, one millisecond is 75000 ticks for a sleep and one for a cyclic request. -/
theorem conversions_disagree_at_75MHz :
    sleepInterval 75000000 1000000 = some 75000 ∧
    (CyclicRequest.entry (oneInterface 1000) ⟨1000000, 0, 1, 0⟩ 1).intervalTicks = 1 ∧
    ¬ ConversionsAgree (oneInterface 1000) 75000000 := by
  have hsleep : sleepInterval 75000000 1000000 = some 75000 :=
    sleepInterval_eq_some_iff.mpr (by decide)
  refine ⟨hsleep, by decide, fun h => ?_⟩
  have hagree := h.agree ⟨1000000, 0, 1, 0⟩ 1 (by decide) (by decide)
  rw [hsleep] at hagree
  exact absurd hagree (by decide)

end Sleeping

end SamV71Runtime.ThreadsCommon
