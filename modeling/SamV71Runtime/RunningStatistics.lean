import Mathlib.Algebra.BigOperators.Group.List.Basic
import Mathlib.Algebra.Order.BigOperators.Group.List
import Mathlib.Algebra.Order.Field.Basic
import Mathlib.Algebra.CharZero.Defs
import Mathlib.Order.Bounds.Basic
import Mathlib.Tactic.FieldSimp
import Mathlib.Tactic.Ring

/-!
# Statistics kept sample by sample

The mean of a list updated from its last value, also with a counter of the samples that
wraps, and the extremes updated by one comparison.
-/
namespace RunningStatistics

section SinceWrap
variable {α : Type*} {period : ℕ}

/-- The samples from the last one on that a counter modulo `period` met at 0. -/
def sinceWrap (period : ℕ) (xs : List α) : List α :=
  xs.drop ((xs.length - 1) / period * period)

theorem sinceWrap_of_le {xs : List α} (h : xs.length ≤ period) : sinceWrap period xs = xs := by
  unfold sinceWrap
  rcases Nat.eq_zero_or_pos xs.length with hzero | hpos
  · rw [hzero, Nat.zero_sub, Nat.zero_div, Nat.zero_mul, List.drop_zero]
  · rw [Nat.div_eq_of_lt (by omega), Nat.zero_mul, List.drop_zero]

theorem sinceWrap_ne_nil {xs : List α} (h : xs ≠ []) : sinceWrap period xs ≠ [] := by
  have hpos := List.length_pos_iff.mpr h
  have hle := Nat.div_mul_le_self (xs.length - 1) period
  intro hnil
  have hlength := congrArg List.length hnil
  rw [sinceWrap, List.length_drop, List.length_nil] at hlength
  omega

theorem mem_of_mem_sinceWrap {xs : List α} {x : α} (h : x ∈ sinceWrap period xs) : x ∈ xs :=
  List.mem_of_mem_drop h

theorem pred_div {n : ℕ} (h : n % period ≠ 0) : (n - 1) / period = n / period := by
  cases n with
  | zero => exact absurd (Nat.zero_mod period) h
  | succ n =>
      rw [Nat.succ_div_of_not_dvd fun hdvd => h (Nat.mod_eq_zero_of_dvd hdvd)]
      rfl

theorem length_sinceWrap {xs : List α} (h : xs.length % period ≠ 0) :
    (sinceWrap period xs).length = xs.length % period := by
  have hdiv := Nat.div_add_mod' xs.length period
  rw [sinceWrap, List.length_drop, pred_div h]
  omega

theorem sinceWrap_append_singleton (xs : List α) (x : α) :
    sinceWrap period (xs ++ [x]) =
      if xs.length % period = 0 then [x] else sinceWrap period xs ++ [x] := by
  unfold sinceWrap
  rw [List.length_append, List.length_singleton, Nat.add_sub_cancel]
  split
  · rename_i hzero
    rw [Nat.div_mul_cancel (Nat.dvd_of_mod_eq_zero hzero), List.drop_left]
  · rename_i hne
    rw [pred_div hne, List.drop_append_of_le_length (Nat.div_mul_le_self _ _)]

end SinceWrap

section Mean
variable {K : Type*} [Field K]

def mean (xs : List K) : K := xs.sum / xs.length

/-- The mean after the sample `x`, given the mean `m` of the `count` samples before. -/
def nextMean (m x : K) (count : ℕ) : K := m + (x - m) / (count + 1)

theorem mean_singleton (x : K) : mean [x] = x := by
  simp [mean]

theorem nextMean_zero (m x : K) : nextMean m x 0 = x := by
  simp [nextMean]

theorem length_mul_mean [CharZero K] (xs : List K) : xs.length * mean xs = xs.sum := by
  cases xs with
  | nil => simp
  | cons x xs =>
      have hne : ((x :: xs).length : K) ≠ 0 := Nat.cast_ne_zero.mpr (Nat.succ_ne_zero _)
      exact mul_div_cancel₀ _ hne

theorem mean_append_singleton [CharZero K] (xs : List K) (x : K) :
    mean (xs ++ [x]) = nextMean (mean xs) x xs.length := by
  have hnext : (xs.length : K) + 1 ≠ 0 := Nat.cast_add_one_ne_zero xs.length
  have hlength : ((xs ++ [x]).length : K) = xs.length + 1 := by
    rw [List.length_append, List.length_singleton, Nat.cast_add, Nat.cast_one]
  unfold nextMean
  rw [mean, hlength, List.sum_append, List.sum_singleton, ← length_mul_mean]
  field_simp
  ring

/-- With a counter that wraps, the mean is that of the samples since the wrap. -/
theorem mean_sinceWrap_append_singleton [CharZero K] (period : ℕ) (xs : List K) (x : K) :
    mean (sinceWrap period (xs ++ [x])) =
      nextMean (mean (sinceWrap period xs)) x (xs.length % period) := by
  rw [sinceWrap_append_singleton]
  split
  · rename_i hzero
    rw [hzero, nextMean_zero, mean_singleton]
  · rename_i hne
    rw [mean_append_singleton, length_sinceWrap hne]

variable [LinearOrder K] [IsStrictOrderedRing K] {xs : List K} {b : K}

theorem le_mean (hne : xs ≠ []) (h : ∀ x ∈ xs, b ≤ x) : b ≤ mean xs := by
  have hpos : (0 : K) < xs.length := Nat.cast_pos.mpr (List.length_pos_iff.mpr hne)
  rw [mean, le_div_iff₀ hpos, mul_comm, ← nsmul_eq_mul]
  exact List.card_nsmul_le_sum xs b h

theorem mean_le (hne : xs ≠ []) (h : ∀ x ∈ xs, x ≤ b) : mean xs ≤ b := by
  have hpos : (0 : K) < xs.length := Nat.cast_pos.mpr (List.length_pos_iff.mpr hne)
  rw [mean, div_le_iff₀ hpos, mul_comm, ← nsmul_eq_mul]
  exact List.sum_le_card_nsmul xs b h

end Mean

theorem insert_append_singleton {α : Type*} (start x : α) (xs : List α) :
    insert start {y | y ∈ xs ++ [x]} = insert x (insert start {y | y ∈ xs}) := by
  ext y
  simp only [List.mem_append, List.mem_singleton, Set.mem_insert_iff, Set.mem_ofPred_eq]
  tauto

section Extremes
variable {α : Type*} [LinearOrder α] {start m : α} {xs : List α}

/-- `m` is the smallest of a start value and the samples. -/
def Lowest (start : α) (xs : List α) (m : α) : Prop := IsLeast (insert start {x | x ∈ xs}) m

def Highest (start : α) (xs : List α) (m : α) : Prop := IsGreatest (insert start {x | x ∈ xs}) m

theorem lowest_nil (start : α) : Lowest start [] start := by
  simp [Lowest]

theorem highest_nil (start : α) : Highest start [] start := by
  simp [Highest]

theorem Lowest.push (h : Lowest start xs m) (x : α) :
    Lowest start (xs ++ [x]) (if x < m then x else m) := by
  rw [Lowest, insert_append_singleton]
  convert h.insert x using 1
  split
  · rename_i hlt
    exact (min_eq_left hlt.le).symm
  · rename_i hge
    exact (min_eq_right (not_lt.mp hge)).symm

theorem Highest.push (h : Highest start xs m) (x : α) :
    Highest start (xs ++ [x]) (if m < x then x else m) := by
  rw [Highest, insert_append_singleton]
  convert h.insert x using 1
  split
  · rename_i hlt
    exact (max_eq_left hlt.le).symm
  · rename_i hge
    exact (max_eq_right (not_lt.mp hge)).symm

/-- A start value above all samples leaves no trace once there is a sample. -/
theorem Lowest.isLeast (h : Lowest start xs m) (hne : xs ≠ []) (htop : ∀ x ∈ xs, x ≤ start) :
    IsLeast {x | x ∈ xs} m := by
  refine ⟨?_, fun x hx => h.2 (Set.mem_insert_of_mem _ hx)⟩
  rcases h.1 with rfl | hmem
  · obtain ⟨x, hx⟩ := List.exists_mem_of_ne_nil xs hne
    have hx' := le_antisymm (htop x hx) (h.2 (Set.mem_insert_of_mem _ hx))
    exact hx' ▸ hx
  · exact hmem

theorem Highest.isGreatest (h : Highest start xs m) (hne : xs ≠ [])
    (hbottom : ∀ x ∈ xs, start ≤ x) : IsGreatest {x | x ∈ xs} m := by
  refine ⟨?_, fun x hx => h.2 (Set.mem_insert_of_mem _ hx)⟩
  rcases h.1 with rfl | hmem
  · obtain ⟨x, hx⟩ := List.exists_mem_of_ne_nil xs hne
    have hx' := le_antisymm (h.2 (Set.mem_insert_of_mem _ hx)) (hbottom x hx)
    exact hx' ▸ hx
  · exact hmem

end Extremes

end RunningStatistics
