import Mathlib.Algebra.Order.Floor.Ring
import Mathlib.Data.List.Induction
import Mathlib.Data.Rat.Cast.Order
import Mathlib.Data.Rat.Floor
import Mathlib.Logic.Function.Basic
import SamV71Runtime.RunningStatistics

/-!
# Execution times of the threads

Doubles are read as exact rationals. The counter of the samples has 64 bits and wraps.
-/
namespace SamV71Runtime

structure ThreadInfo where
  threadExecutionTime : BitVec 64
  minThreadExecutionTime : BitVec 64
  maxThreadExecutionTime : BitVec 64
  meanThreadExecutionTime : ℚ
  executionTimeCounter : BitVec 64
  deriving DecidableEq

/-- A generated entry; only the stored execution time is left open. -/
def ThreadInfo.generated (threadExecutionTime : BitVec 64) : ThreadInfo where
  threadExecutionTime := threadExecutionTime
  minThreadExecutionTime := 0xFFFFFFFFFFFFFFFF#64
  maxThreadExecutionTime := 0#64
  meanThreadExecutionTime := 0
  executionTimeCounter := 0#64

variable {n : ℕ}

namespace ThreadsCommon

def ThreadInfo.withSample (info : ThreadInfo) (threadExecutionTime : BitVec 64) : ThreadInfo :=
  { info with
    minThreadExecutionTime :=
      if threadExecutionTime < info.minThreadExecutionTime then threadExecutionTime
      else info.minThreadExecutionTime
    maxThreadExecutionTime :=
      if info.maxThreadExecutionTime < threadExecutionTime then threadExecutionTime
      else info.maxThreadExecutionTime
    meanThreadExecutionTime :=
      info.meanThreadExecutionTime +
        ((threadExecutionTime.toNat : ℚ) - info.meanThreadExecutionTime) /
          ((info.executionTimeCounter.toNat : ℚ) + 1)
    executionTimeCounter := info.executionTimeCounter + 1 }

def updateExecutionTimeData (threadsInfo : Fin n → ThreadInfo) (threadId : Fin n)
    (threadExecutionTime : BitVec 64) : Fin n → ThreadInfo :=
  Function.update threadsInfo threadId
    (ThreadInfo.withSample (threadsInfo threadId) threadExecutionTime)

end ThreadsCommon

namespace Monitor

structure InterfaceUsageData (n : ℕ) where
  interface : Fin n
  maximumExecutionTime : BitVec 64
  minimumExecutionTime : BitVec 64
  averageExecutionTime : BitVec 64
  deriving DecidableEq

/-- The conversion of the mean drops its fraction. -/
def getUsageData (threadsInfo : Fin n → ThreadInfo) (interface : Fin n) : InterfaceUsageData n where
  interface := interface
  maximumExecutionTime := (threadsInfo interface).maxThreadExecutionTime
  minimumExecutionTime := (threadsInfo interface).minThreadExecutionTime
  averageExecutionTime := BitVec.ofNat 64 ⌊(threadsInfo interface).meanThreadExecutionTime⌋₊

end Monitor

namespace ThreadsCommon
open Monitor RunningStatistics

/-- A call of `update_execution_time_data`. -/
structure ExecutionSample (n : ℕ) where
  threadId : Fin n
  threadExecutionTime : BitVec 64
  deriving DecidableEq

def updateAll (threadsInfo : Fin n → ThreadInfo) (calls : List (ExecutionSample n)) :
    Fin n → ThreadInfo :=
  calls.foldl (fun infos call => updateExecutionTimeData infos call.threadId call.threadExecutionTime)
    threadsInfo

def samplesOf (i : Fin n) (calls : List (ExecutionSample n)) : List (BitVec 64) :=
  (calls.filter fun call => call.threadId = i).map ExecutionSample.threadExecutionTime

def nanoseconds (xs : List (BitVec 64)) : List ℕ := xs.map BitVec.toNat

def doubles (xs : List (BitVec 64)) : List ℚ := xs.map fun x => (x.toNat : ℚ)

/-- What an entry holds after the samples `xs`. -/
structure Timed (xs : List (BitVec 64)) (info : ThreadInfo) : Prop where
  counted : info.executionTimeCounter = BitVec.ofNat 64 xs.length
  minimum : Lowest (2 ^ 64 - 1) (nanoseconds xs) info.minThreadExecutionTime.toNat
  maximum : Highest 0 (nanoseconds xs) info.maxThreadExecutionTime.toNat
  average : info.meanThreadExecutionTime = mean (sinceWrap (2 ^ 64) (doubles xs))

section Samples
variable {xs : List (BitVec 64)} {info : ThreadInfo}

theorem timed_generated (stored : BitVec 64) : Timed [] (.generated stored) where
  counted := rfl
  minimum := lowest_nil _
  maximum := highest_nil _
  average := by simp [ThreadInfo.generated, doubles, sinceWrap, mean]

theorem Timed.withSample (h : Timed xs info) (x : BitVec 64) :
    Timed (xs ++ [x]) (ThreadInfo.withSample info x) := by
  have hnanoseconds : nanoseconds (xs ++ [x]) = nanoseconds xs ++ [x.toNat] := by
    simp [nanoseconds]
  constructor
  case counted =>
    simp only [ThreadInfo.withSample, h.counted, List.length_append, List.length_singleton,
      BitVec.ofNat_add]
    rfl
  case minimum =>
    rw [hnanoseconds]
    convert h.minimum.push x.toNat using 1
    exact apply_ite BitVec.toNat _ _ _
  case maximum =>
    rw [hnanoseconds]
    convert h.maximum.push x.toNat using 1
    exact apply_ite BitVec.toNat _ _ _
  case average =>
    have hdoubles : doubles (xs ++ [x]) = doubles xs ++ [(x.toNat : ℚ)] := by
      simp [doubles]
    rw [hdoubles, mean_sinceWrap_append_singleton, ← h.average, doubles, List.length_map,
      ← BitVec.toNat_ofNat, ← h.counted]
    rfl

/-- Up to the first wrap of the counter, the mean is that of all samples. -/
theorem Timed.average_of_le (h : Timed xs info) (hle : xs.length ≤ 2 ^ 64) :
    info.meanThreadExecutionTime = mean (doubles xs) := by
  have hlength : (doubles xs).length ≤ 2 ^ 64 := by rwa [doubles, List.length_map]
  rw [h.average, sinceWrap_of_le hlength]

theorem ne_nil_of_map {α : Type*} {f : BitVec 64 → α} (hne : xs ≠ []) : xs.map f ≠ [] :=
  fun hnil => hne (List.map_eq_nil_iff.mp hnil)

theorem Timed.isLeast (h : Timed xs info) (hne : xs ≠ []) :
    IsLeast {x | x ∈ nanoseconds xs} info.minThreadExecutionTime.toNat := by
  refine h.minimum.isLeast (ne_nil_of_map hne) fun y hy => ?_
  obtain ⟨x, _, rfl⟩ := List.mem_map.mp hy
  have hlt := x.isLt
  omega

theorem Timed.isGreatest (h : Timed xs info) (hne : xs ≠ []) :
    IsGreatest {x | x ∈ nanoseconds xs} info.maxThreadExecutionTime.toNat :=
  h.maximum.isGreatest (ne_nil_of_map hne) fun _ _ => Nat.zero_le _

/-- The mean lies between the extremes, whatever samples it still covers. -/
theorem Timed.mean_bounds (h : Timed xs info) (hne : xs ≠ []) :
    (info.minThreadExecutionTime.toNat : ℚ) ≤ info.meanThreadExecutionTime ∧
      info.meanThreadExecutionTime ≤ info.maxThreadExecutionTime.toNat := by
  have hne' : sinceWrap (2 ^ 64) (doubles xs) ≠ [] := sinceWrap_ne_nil (ne_nil_of_map hne)
  have hsample (y : ℚ) (hy : y ∈ sinceWrap (2 ^ 64) (doubles xs)) :
      ∃ x ∈ nanoseconds xs, y = x := by
    obtain ⟨x, hx, rfl⟩ := List.mem_map.mp (mem_of_mem_sinceWrap hy)
    exact ⟨x.toNat, List.mem_map_of_mem hx, rfl⟩
  rw [h.average]
  refine ⟨le_mean hne' fun y hy => ?_, mean_le hne' fun y hy => ?_⟩
  · obtain ⟨x, hx, rfl⟩ := hsample y hy
    exact Nat.cast_le.mpr ((h.isLeast hne).2 hx)
  · obtain ⟨x, hx, rfl⟩ := hsample y hy
    exact Nat.cast_le.mpr ((h.isGreatest hne).2 hx)

end Samples

section Calls
variable (threadsInfo : Fin n → ThreadInfo) (calls : List (ExecutionSample n))

theorem updateAll_append_singleton (call : ExecutionSample n) :
    updateAll threadsInfo (calls ++ [call]) =
      updateExecutionTimeData (updateAll threadsInfo calls) call.threadId call.threadExecutionTime :=
  List.foldl_append

theorem updateExecutionTimeData_of_ne {threadId j : Fin n} (hj : j ≠ threadId)
    (threadExecutionTime : BitVec 64) :
    updateExecutionTimeData threadsInfo threadId threadExecutionTime j = threadsInfo j :=
  Function.update_of_ne hj ..

theorem samplesOf_append_singleton (i : Fin n) (call : ExecutionSample n) :
    samplesOf i (calls ++ [call]) =
      samplesOf i calls ++ if call.threadId = i then [call.threadExecutionTime] else [] := by
  unfold samplesOf
  split
  · rename_i hi
    simp [List.filter_append, hi]
  · rename_i hi
    simp [List.filter_append, hi]

theorem updateAll_timed (stored : Fin n → BitVec 64) (i : Fin n) :
    Timed (samplesOf i calls) (updateAll (fun i => .generated (stored i)) calls i) := by
  induction calls using List.reverseRecOn with
  | nil => exact timed_generated (stored i)
  | append_singleton calls call ih =>
      rw [updateAll_append_singleton, samplesOf_append_singleton]
      by_cases hi : call.threadId = i
      · rw [if_pos hi, hi, updateExecutionTimeData, Function.update_self]
        exact ih.withSample call.threadExecutionTime
      · rw [if_neg hi, List.append_nil, updateExecutionTimeData_of_ne _ (Ne.symm hi)]
        exact ih

end Calls

/-- The statistics of the samples `xs` of a thread, and what is reported of them. -/
structure ExactStatistics (xs : List (BitVec 64)) (info : ThreadInfo)
    (usage : InterfaceUsageData n) : Prop where
  minimum : IsLeast {x | x ∈ nanoseconds xs} info.minThreadExecutionTime.toNat
  maximum : IsGreatest {x | x ∈ nanoseconds xs} info.maxThreadExecutionTime.toNat
  average : info.meanThreadExecutionTime = mean (sinceWrap (2 ^ 64) (doubles xs))
  averageOfAll : xs.length ≤ 2 ^ 64 → info.meanThreadExecutionTime = mean (doubles xs)
  counted : info.executionTimeCounter.toNat = xs.length % 2 ^ 64
  reportedMinimum : usage.minimumExecutionTime = info.minThreadExecutionTime
  reportedMaximum : usage.maximumExecutionTime = info.maxThreadExecutionTime
  reportedAverage : (usage.averageExecutionTime.toNat : ℤ) = ⌊info.meanThreadExecutionTime⌋
  ordered : usage.minimumExecutionTime.toNat ≤ usage.averageExecutionTime.toNat ∧
    usage.averageExecutionTime.toNat ≤ usage.maximumExecutionTime.toNat

theorem toNat_averageExecutionTime {xs : List (BitVec 64)} {threadsInfo : Fin n → ThreadInfo}
    {i : Fin n} (h : Timed xs (threadsInfo i)) (hne : xs ≠ []) :
    (getUsageData threadsInfo i).averageExecutionTime.toNat =
      ⌊(threadsInfo i).meanThreadExecutionTime⌋₊ := by
  have hmax := (threadsInfo i).maxThreadExecutionTime.isLt
  have hfloor : ⌊(threadsInfo i).meanThreadExecutionTime⌋₊ ≤
      (threadsInfo i).maxThreadExecutionTime.toNat := by
    have hle := Nat.floor_le_floor (h.mean_bounds hne).2
    rwa [Nat.floor_natCast] at hle
  rw [getUsageData, BitVec.toNat_ofNat]
  omega

/-- The statistics of every thread are those of its own samples, in whatever order the
threads call; the mean is that of the samples since the counter last wrapped. -/
theorem executionTimes_exact (stored : Fin n → BitVec 64) (calls : List (ExecutionSample n)) :
    (∀ i, samplesOf i calls ≠ [] →
      ExactStatistics (samplesOf i calls) (updateAll (fun i => .generated (stored i)) calls i)
        (getUsageData (updateAll (fun i => .generated (stored i)) calls) i)) ∧
    ∀ call : ExecutionSample n, ∀ j, j ≠ call.threadId →
      updateAll (fun i => .generated (stored i)) (calls ++ [call]) j =
        updateAll (fun i => .generated (stored i)) calls j := by
  refine ⟨fun i hne => ?_, fun call j hj => ?_⟩
  · have h := updateAll_timed calls stored i
    have haverage := toNat_averageExecutionTime h hne
    obtain ⟨hlow, hhigh⟩ := h.mean_bounds hne
    have hpositive := (Nat.cast_nonneg' _).trans hlow
    constructor
    case minimum => exact h.isLeast hne
    case maximum => exact h.isGreatest hne
    case average => exact h.average
    case averageOfAll => exact h.average_of_le
    case counted => rw [h.counted, BitVec.toNat_ofNat]
    case reportedMinimum => rfl
    case reportedMaximum => rfl
    case reportedAverage => rw [haverage, Int.natCast_floor_eq_floor hpositive]
    case ordered =>
      rw [haverage]
      refine ⟨Nat.le_floor hlow, ?_⟩
      have hle := Nat.floor_le_floor hhigh
      rwa [Nat.floor_natCast] at hle
  · rw [updateAll_append_singleton]
    exact updateExecutionTimeData_of_ne _ hj _

theorem executionTimes_of_two_threads :
    ExactStatistics [9#64, 4#64]
      (updateAll (fun _ => .generated 0) [⟨0, 9#64⟩, ⟨1, 7#64⟩, ⟨0, 4#64⟩] (0 : Fin 2))
      (getUsageData (updateAll (fun _ => .generated 0) [⟨0, 9#64⟩, ⟨1, 7#64⟩, ⟨0, 4#64⟩]) (0 : Fin 2)) :=
  (executionTimes_exact (fun _ => 0) [⟨0, 9#64⟩, ⟨1, 7#64⟩, ⟨0, 4#64⟩]).1 0 (by decide)

/-- One execution that took time, after `m` that took none. -/
def idleCalls (i : Fin n) (m : ℕ) : List (ExecutionSample n) :=
  List.replicate m ⟨i, 0#64⟩ ++ [⟨i, 1#64⟩]

theorem samplesOf_idleCalls (i : Fin n) (m : ℕ) :
    samplesOf i (idleCalls i m) = List.replicate m 0#64 ++ [1#64] := by
  simp [samplesOf, idleCalls]

theorem doubles_idleCalls (i : Fin n) (m : ℕ) :
    doubles (samplesOf i (idleCalls i m)) = List.replicate m 0 ++ [1] := by
  simp [samplesOf_idleCalls, doubles]

theorem mean_idleCalls (i : Fin n) (m : ℕ) :
    mean (doubles (samplesOf i (idleCalls i m))) = 1 / (m + 1) := by
  rw [doubles_idleCalls, mean, List.sum_append, List.sum_replicate, List.length_append,
    List.length_replicate, List.length_singleton, List.sum_singleton, nsmul_zero, zero_add,
    Nat.cast_add, Nat.cast_one]

/-- Over `2^64 + 1` samples, the counter is 1 and the mean is the last sample. -/
theorem executionTimes_wrap :
    (samplesOf 0 (idleCalls (0 : Fin 1) (2 ^ 64))).length = 2 ^ 64 + 1 ∧
    (updateAll (fun _ => .generated 0) (idleCalls (0 : Fin 1) (2 ^ 64)) 0).executionTimeCounter = 1#64 ∧
    (updateAll (fun _ => .generated 0) (idleCalls (0 : Fin 1) (2 ^ 64)) 0).meanThreadExecutionTime = 1 ∧
    mean (doubles (samplesOf 0 (idleCalls (0 : Fin 1) (2 ^ 64)))) ≠ 1 := by
  have h := updateAll_timed (idleCalls (0 : Fin 1) (2 ^ 64)) (fun _ => 0) 0
  have hlength : (samplesOf 0 (idleCalls (0 : Fin 1) (2 ^ 64))).length = 2 ^ 64 + 1 := by
    rw [samplesOf_idleCalls, List.length_append, List.length_replicate, List.length_singleton]
  refine ⟨hlength, ?_, ?_, ?_⟩
  · rw [h.counted, hlength]
    rfl
  · rw [h.average, doubles_idleCalls, sinceWrap_append_singleton, List.length_replicate, Nat.mod_self,
      if_pos rfl, mean_singleton]
  · rw [mean_idleCalls]
    norm_num

end ThreadsCommon

end SamV71Runtime
