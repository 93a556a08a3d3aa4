import Mathlib.Algebra.Order.Ring.NNRat
import Mathlib.Data.NNRat.Lemmas
import Mathlib.Tactic.NormNum
import Mathlib.Data.Rat.Cast.Order
import SamV71Runtime.Runs
import SamV71Runtime.RunningStatistics

/-!
# The CPU usage of the idle thread

Floats are read as exact rationals. Usage percentages are not negative; how one comes
from the times that RTEMS reports is left open.
-/
namespace SamV71Runtime.Monitor
open Runs RunningStatistics

structure CpuUsageData where
  maximumCpuUsage : ℚ
  minimumCpuUsage : ℚ
  averageCpuUsage : ℚ
  deriving DecidableEq

structure IdleMonitor where
  benchmarkingTicks : BitVec 32
  idleCpuUsageData : CpuUsageData
  deriving DecidableEq

/-- The variables of the program at its start; `Monitor_Init` leaves them alone. -/
def IdleMonitor.initial : IdleMonitor where
  benchmarkingTicks := 0
  idleCpuUsageData := ⟨0, 0, 0⟩

/-- `none` is the division by a `benchmarking_ticks + 1` that has wrapped to 0. -/
def cpuUsageVisitor (s : IdleMonitor) (usagePercent : ℚ≥0) : Option CpuUsageData :=
  let data := s.idleCpuUsageData
  let divisor := s.benchmarkingTicks + 1
  if divisor = 0 then none
  else some {
    minimumCpuUsage :=
      if (usagePercent : ℚ) < data.minimumCpuUsage then usagePercent else data.minimumCpuUsage
    maximumCpuUsage :=
      if data.maximumCpuUsage < (usagePercent : ℚ) then usagePercent else data.maximumCpuUsage
    averageCpuUsage :=
      data.averageCpuUsage + (usagePercent - data.averageCpuUsage) / divisor.toNat }

/-- The iteration over the tasks stops after the first idle thread. -/
def monitoringTick (s : IdleMonitor) (usagePercent : ℚ≥0) : Option IdleMonitor :=
  (cpuUsageVisitor s usagePercent).map fun data =>
    ⟨s.benchmarkingTicks + 1, data⟩

def getIdleCpuUsageData (s : IdleMonitor) : CpuUsageData := s.idleCpuUsageData

/-- The samples as the floats that are compared and averaged. -/
def usages (xs : List ℚ≥0) : List ℚ := xs.map fun x : ℚ≥0 => (x : ℚ)

/-- The data are the minimum, the maximum and the mean of the samples. -/
structure IdleStatistics (xs : List ℚ≥0) (data : CpuUsageData) : Prop where
  minimum : IsLeast {x | x ∈ usages xs} data.minimumCpuUsage
  maximum : IsGreatest {x | x ∈ usages xs} data.maximumCpuUsage
  average : data.averageCpuUsage = mean (usages xs)
  ordered : data.minimumCpuUsage ≤ data.averageCpuUsage ∧
    data.averageCpuUsage ≤ data.maximumCpuUsage

/-- What the running values are after the samples `xs`, from all zeros on. -/
structure Sampled (xs : List ℚ≥0) (s : IdleMonitor) : Prop where
  counted : s.benchmarkingTicks.toNat = xs.length
  minimum : Lowest 0 (usages xs) s.idleCpuUsageData.minimumCpuUsage
  maximum : Highest 0 (usages xs) s.idleCpuUsageData.maximumCpuUsage
  average : s.idleCpuUsageData.averageCpuUsage = mean (usages xs)

section Ticks
variable {s t : IdleMonitor} {xs : List ℚ≥0} {x : ℚ≥0}

theorem sampled_initial : Sampled [] .initial where
  counted := rfl
  minimum := lowest_nil 0
  maximum := highest_nil 0
  average := by simp [mean, usages, IdleMonitor.initial]

theorem usages_append_singleton (xs : List ℚ≥0) (x : ℚ≥0) :
    usages (xs ++ [x]) = usages xs ++ [(x : ℚ)] := by
  simp [usages]

theorem divisor_toNat_of_ne {ticks : BitVec 32} (h : ticks + 1 ≠ 0) :
    (ticks + 1).toNat = ticks.toNat + 1 := by
  have hlt := ticks.isLt
  have hne : (ticks + 1).toNat ≠ 0 := fun hz => h (BitVec.toNat_inj.mp hz)
  rw [BitVec.toNat_add] at hne ⊢
  change (ticks.toNat + 1) % 2 ^ 32 ≠ 0 at hne
  change (ticks.toNat + 1) % 2 ^ 32 = _
  omega

theorem Sampled.tick (h : Sampled xs s) (hs : monitoringTick s x = some t) :
    Sampled (xs ++ [x]) t := by
  obtain ⟨data, hvisit, rfl⟩ := Option.map_eq_some_iff.mp hs
  dsimp only [cpuUsageVisitor] at hvisit
  split at hvisit
  · cases hvisit
  · rename_i hdivisor
    have hnext := divisor_toNat_of_ne hdivisor
    cases hvisit
    constructor
    case counted => rw [hnext, h.counted, List.length_append, List.length_singleton]
    case minimum =>
      rw [usages_append_singleton]
      exact h.minimum.push _
    case maximum =>
      rw [usages_append_singleton]
      exact h.maximum.push _
    case average =>
      rw [usages_append_singleton, mean_append_singleton, hnext, h.counted, h.average, nextMean,
        Nat.cast_add, Nat.cast_one, usages, List.length_map]

theorem monitoringTick_of_lt (h : Sampled xs s) (hlt : xs.length + 1 < 2 ^ 32) (x : ℚ≥0) :
    ∃ t, monitoringTick s x = some t := by
  have hticks : s.benchmarkingTicks.toNat + 1 < 2 ^ 32 := by
    rw [h.counted]
    exact hlt
  have hdivisor : s.benchmarkingTicks + 1 ≠ 0 := by
    intro hz
    have hzero := congrArg BitVec.toNat hz
    rw [BitVec.toNat_add] at hzero
    change (s.benchmarkingTicks.toNat + 1) % 2 ^ 32 = 0 at hzero
    omega
  simp only [monitoringTick, cpuUsageVisitor, if_neg hdivisor, Option.map_some]
  exact ⟨_, rfl⟩

theorem run_sampled (hr : run monitoringTick .initial xs = some t) : Sampled xs t :=
  run_induction (I := Sampled) (along_true _ xs) hr sampled_initial
    fun _ _ _ _ _ h _ hs => h.tick hs

theorem run_ticks (xs : List ℚ≥0) :
    (∃ t, run monitoringTick .initial xs = some t) ↔ xs.length < 2 ^ 32 := by
  constructor
  · rintro ⟨t, hr⟩
    rw [← (run_sampled hr).counted]
    exact t.benchmarkingTicks.isLt
  · intro hlt
    induction xs using List.reverseRecOn with
    | nil => exact ⟨_, rfl⟩
    | append_singleton xs x ih =>
        rw [List.length_append, List.length_singleton] at hlt
        obtain ⟨s, hr⟩ := ih (by omega)
        obtain ⟨t, hs⟩ := monitoringTick_of_lt (run_sampled hr) hlt x
        exact ⟨t, run_concat_some.mpr ⟨s, hr, hs⟩⟩

theorem nonneg_of_mem_usages {y : ℚ} (hy : y ∈ usages xs) : 0 ≤ y := by
  obtain ⟨x, _, rfl⟩ := List.mem_map.mp hy
  exact x.coe_nonneg

theorem zero_mem_usages : 0 ∈ usages xs ↔ 0 ∈ xs := by
  simp [usages]

/-- The minimum starts at 0 and no usage is below it. -/
theorem Sampled.minimum_eq (h : Sampled xs s) : s.idleCpuUsageData.minimumCpuUsage = 0 := by
  apply le_antisymm (h.minimum.2 (Set.mem_insert _ _))
  rcases h.minimum.1 with hzero | hmem
  · exact hzero.ge
  · exact nonneg_of_mem_usages hmem

theorem Sampled.statistics (h : Sampled xs s) (hne : xs ≠ []) (hzero : 0 ∈ xs) :
    IdleStatistics xs (getIdleCpuUsageData s) := by
  have hne' : usages xs ≠ [] := fun hnil => hne (List.map_eq_nil_iff.mp hnil)
  have hmaximum := h.maximum.isGreatest hne' fun _ => nonneg_of_mem_usages
  have hminimum : IsLeast {x | x ∈ usages xs} s.idleCpuUsageData.minimumCpuUsage := by
    rw [h.minimum_eq]
    exact ⟨zero_mem_usages.mpr hzero, fun _ => nonneg_of_mem_usages⟩
  refine ⟨hminimum, hmaximum, h.average, ?_⟩
  rw [getIdleCpuUsageData, h.average]
  exact ⟨le_mean hne' fun _ hx => hminimum.2 hx, mean_le hne' fun _ hx => hmaximum.2 hx⟩

end Ticks

/-- The reported data are the statistics of the samples, and no divisor was 0, exactly
when one of the samples is 0 and there are fewer than `2^32` of them. -/
theorem idleStatistics_iff (xs : List ℚ≥0) (hne : xs ≠ []) :
    (∃ s, run monitoringTick .initial xs = some s ∧
      IdleStatistics xs (getIdleCpuUsageData s)) ↔ 0 ∈ xs ∧ xs.length < 2 ^ 32 := by
  constructor
  · rintro ⟨s, hr, hstatistics⟩
    refine ⟨?_, (run_ticks xs).mp ⟨s, hr⟩⟩
    have hmem := hstatistics.minimum.1
    rw [getIdleCpuUsageData, (run_sampled hr).minimum_eq] at hmem
    exact zero_mem_usages.mp hmem
  · rintro ⟨hzero, hlt⟩
    obtain ⟨s, hr⟩ := (run_ticks xs).mpr hlt
    exact ⟨s, hr, (run_sampled hr).statistics hne hzero⟩

theorem idleStatistics_of_a_zero : ∃ s, run monitoringTick .initial [3, 0] = some s ∧
    IdleStatistics [3, 0] (getIdleCpuUsageData s) :=
  (idleStatistics_iff [3, 0] (by decide)).mpr ⟨by decide, by decide⟩

/-- A single sample of 50 %: the reported minimum is 0. -/
theorem not_idleStatistics_of_fifty : ∃ s, run monitoringTick .initial [50] = some s ∧
    getIdleCpuUsageData s = ⟨50, 0, 50⟩ ∧ ¬ IdleStatistics [50] (getIdleCpuUsageData s) := by
  have hrun : run monitoringTick .initial [50] = some ⟨1, ⟨50, 0, 50⟩⟩ := by
    simp [run, monitoringTick, cpuUsageVisitor, IdleMonitor.initial]
  refine ⟨⟨1, ⟨50, 0, 50⟩⟩, hrun, rfl, fun h => ?_⟩
  have hmem := h.minimum.1
  simp [usages, getIdleCpuUsageData] at hmem

end SamV71Runtime.Monitor
