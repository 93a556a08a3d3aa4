import Mathlib.Algebra.Order.Group.Nat
import SamV71Runtime.Rtems

/-!
# Maximum stack usage

The stacks are painted with a pattern and grow down. `memory` gives the word at an address,
and the addresses that are read are written down.
-/
namespace SamV71Runtime.Monitor

def stackBytePattern : BitVec 32 := 0xA5A5A5A5#32

/-- A stack area of whole words that ends below the last address; `area` is 0 for NULL. -/
structure StackControl where
  area : BitVec 32
  size : BitVec 32
  area_aligned : 4 ∣ area.toNat
  size_aligned : 4 ∣ size.toNat
  size_lt : size.toNat < 2 ^ 31
  end_lt : area.toNat + size.toNat < 2 ^ 32

structure ThreadControl where
  id : RtemsId
  initialStack : StackControl

/-- The loop over the words from `pointer` on. `none` is a loop that goes on. -/
def scan (memory : BitVec 32 → BitVec 32) (stackEnd : BitVec 32) :
    ℕ → BitVec 32 → Option (BitVec 32 × List (BitVec 32))
  | 0, _ => none
  | fuel + 1, pointer =>
      if pointer < stackEnd then
        if memory pointer ≠ stackBytePattern then some (pointer, [pointer])
        else (scan memory stackEnd fuel (pointer + 4)).map fun r => (r.1, pointer :: r.2)
      else some (0, [])

def findHighWaterMark (memory : BitVec 32 → BitVec 32) (stackStart stackSize : BitVec 32) :
    Option (BitVec 32 × List (BitVec 32)) :=
  scan memory (stackStart + stackSize) (stackSize.toNat / 4 + 1) stackStart

def calculateUsedStack (stackStart stackSize highWaterMark : BitVec 32) : BitVec 32 :=
  stackStart + stackSize - highWaterMark

structure MaximumStackUsageData (n : ℕ) where
  interface : Fin n
  maximumStackUsage : BitVec 32
  isFound : Bool

/-- What a visitor returns, makes of its argument and reads. -/
structure Visit (D : Type*) where
  stop : Bool
  data : D
  reads : List (BitVec 32)

def threadStackUsageVisitor {n : ℕ} (memory : BitVec 32 → BitVec 32) (threadsInfo : Fin n → RtemsId)
    (theThread : ThreadControl) (data : MaximumStackUsageData n) :
    Option (Visit (MaximumStackUsageData n)) :=
  let stack := theThread.initialStack
  if threadsInfo data.interface ≠ theThread.id then some ⟨false, data, []⟩
  else if stack.area = 0 then some ⟨true, data, []⟩
  else (findHighWaterMark memory stack.area stack.size).map fun r =>
    { stop := true
      data :=
        { data with
          maximumStackUsage :=
            if r.1 ≠ 0#32 then calculateUsedStack stack.area stack.size r.1
            else data.maximumStackUsage
          isFound := true }
      reads := r.2 }

/-- The iteration stops at the first thread for which the visitor returns true. -/
def rtemsTaskIterate {D : Type*} (visitor : ThreadControl → D → Option (Visit D)) :
    List ThreadControl → D → Option (D × List (BitVec 32))
  | [], data => some (data, [])
  | theThread :: rest, data =>
      (visitor theThread data).bind fun visit =>
        if visit.stop then some (visit.data, visit.reads)
        else (rtemsTaskIterate visitor rest visit.data).map fun r => (r.1, visit.reads ++ r.2)

/-- The usage that is returned, and the addresses that have been read. -/
def getMaximumStackUsage {n : ℕ} (rtMeasureStack : Bool) (memory : BitVec 32 → BitVec 32)
    (threadsInfo : Fin n → RtemsId) (threads : List ThreadControl) (interface : Fin n) :
    Option (ℤ × List (BitVec 32)) :=
  if ¬ rtMeasureStack then some (-1, [])
  else (rtemsTaskIterate (threadStackUsageVisitor memory threadsInfo) threads
    ⟨interface, 0, false⟩).map fun r =>
      (if r.1.isFound then r.1.maximumStackUsage.toInt else -1, r.2)

namespace StackControl
variable (stack : StackControl) (memory : BitVec 32 → BitVec 32)

def words : ℕ := stack.size.toNat / 4

/-- The address of a word, from the low end on. -/
def word (k : ℕ) : BitVec 32 := stack.area + BitVec.ofNat 32 (4 * k)

/-- How many of the `d` words from word `k` on, from the low end, still hold the pattern. -/
def untouchedFrom (k d : ℕ) : ℕ :=
  (((List.range' k d).map (memory ∘ stack.word)).takeWhile (· == stackBytePattern)).length

def untouched : ℕ :=
  (((List.range stack.words).map (memory ∘ stack.word)).takeWhile (· == stackBytePattern)).length

/-- A whole word of the area. -/
def Within (address : BitVec 32) : Prop :=
  4 ∣ address.toNat ∧ stack.area.toNat ≤ address.toNat ∧
    address.toNat + 4 ≤ stack.area.toNat + stack.size.toNat

theorem size_eq : stack.size.toNat = 4 * stack.words :=
  (Nat.mul_div_cancel' stack.size_aligned).symm

theorem word_toNat {k : ℕ} (hk : k ≤ stack.words) :
    (stack.word k).toNat = stack.area.toNat + 4 * k := by
  have hend := stack.end_lt
  rw [size_eq] at hend
  rw [word, BitVec.toNat_add, BitVec.toNat_ofNat]
  omega

theorem limit_toNat : (stack.area + stack.size).toNat = stack.area.toNat + 4 * stack.words := by
  have hend := stack.end_lt
  rw [BitVec.toNat_add, Nat.mod_eq_of_lt hend, size_eq]

theorem word_lt_limit {k : ℕ} (hk : k ≤ stack.words) :
    stack.word k < stack.area + stack.size ↔ k < stack.words := by
  rw [BitVec.lt_def, word_toNat stack hk, limit_toNat]
  omega

theorem word_zero : stack.word 0 = stack.area := by simp [word]

theorem word_succ (k : ℕ) : stack.word k + 4 = stack.word (k + 1) := by
  rw [word, word, Nat.mul_succ, BitVec.ofNat_add, BitVec.add_assoc]
  rfl

theorem word_within {k : ℕ} (hk : k < stack.words) : stack.Within (stack.word k) := by
  have haligned := stack.area_aligned
  rw [Within, word_toNat stack (Nat.le_of_lt hk), size_eq]
  omega

theorem untouchedFrom_zero (k : ℕ) : stack.untouchedFrom memory k 0 = 0 := rfl

theorem untouchedFrom_succ_of_pattern (k d : ℕ) (h : memory (stack.word k) = stackBytePattern) :
    stack.untouchedFrom memory k (d + 1) = stack.untouchedFrom memory (k + 1) d + 1 := by
  rw [untouchedFrom, List.range'_succ, List.map_cons, Function.comp_apply,
    List.takeWhile_cons_of_pos (by simp [h]), List.length_cons]
  rfl

theorem untouchedFrom_succ_of_changed (k d : ℕ) (h : memory (stack.word k) ≠ stackBytePattern) :
    stack.untouchedFrom memory k (d + 1) = 0 := by
  rw [untouchedFrom, List.range'_succ, List.map_cons, Function.comp_apply,
    List.takeWhile_cons_of_neg (by simp [h]), List.length_nil]

theorem untouched_eq : stack.untouched memory = stack.untouchedFrom memory 0 stack.words := by
  rw [untouched, untouchedFrom, List.range_eq_range']

theorem untouchedFrom_le (k d : ℕ) : stack.untouchedFrom memory k d ≤ d := by
  have h := (List.takeWhile_sublist (· == stackBytePattern)
    (l := (List.range' k d).map (memory ∘ stack.word))).length_le
  rwa [List.length_map, List.length_range'] at h

/-- Words that lose the pattern make the untouched part no longer. -/
theorem untouchedFrom_mono {memory' : BitVec 32 → BitVec 32}
    (h : ∀ a, memory' a = stackBytePattern → memory a = stackBytePattern) (k d : ℕ) :
    stack.untouchedFrom memory' k d ≤ stack.untouchedFrom memory k d := by
  induction d generalizing k with
  | zero => exact Nat.le_refl 0
  | succ d ih =>
      by_cases hword : memory' (stack.word k) = stackBytePattern
      · rw [untouchedFrom_succ_of_pattern stack memory' k d hword,
          untouchedFrom_succ_of_pattern stack memory k d (h _ hword)]
        exact Nat.succ_le_succ (ih (k + 1))
      · rw [untouchedFrom_succ_of_changed stack memory' k d hword]
        exact Nat.zero_le _

/-- The loop from word `k` on: it stops at the first word without the pattern. -/
theorem scan_word (d k fuel : ℕ) (hk : k + d = stack.words) (hfuel : d < fuel) :
    scan memory (stack.area + stack.size) fuel (stack.word k) =
      some (if stack.untouchedFrom memory k d < d then
          stack.word (k + stack.untouchedFrom memory k d) else 0,
        (List.range' k (min (stack.untouchedFrom memory k d + 1) d)).map stack.word) := by
  induction d generalizing k fuel with
  | zero =>
      obtain ⟨fuel, rfl⟩ := Nat.exists_eq_succ_of_ne_zero (Nat.ne_of_gt hfuel)
      have hstop : ¬ stack.word k < stack.area + stack.size := by
        rw [word_lt_limit stack (by omega)]
        omega
      rw [scan, if_neg hstop, untouchedFrom_zero]
      rfl
  | succ d ih =>
      obtain ⟨fuel, rfl⟩ := Nat.exists_eq_succ_of_ne_zero (Nat.ne_of_gt (Nat.zero_lt_of_lt hfuel))
      have hgo : stack.word k < stack.area + stack.size := by
        rw [word_lt_limit stack (by omega)]
        omega
      rw [scan, if_pos hgo]
      by_cases hword : memory (stack.word k) = stackBytePattern
      · have hnext : k + 1 + stack.untouchedFrom memory (k + 1) d =
            k + (stack.untouchedFrom memory (k + 1) d + 1) := by omega
        rw [if_neg fun h => h hword, word_succ, ih (k + 1) fuel (by omega) (by omega),
          untouchedFrom_succ_of_pattern stack memory k d hword, Option.map_some, hnext,
          Nat.add_min_add_right, List.range'_succ, List.map_cons]
        simp only [Nat.add_lt_add_iff_right]
      · rw [if_pos hword, untouchedFrom_succ_of_changed stack memory k d hword,
          if_pos (Nat.succ_pos d), Nat.add_zero, Nat.zero_add, Nat.min_eq_left (Nat.succ_pos d)]
        rfl

theorem findHighWaterMark_eq :
    findHighWaterMark memory stack.area stack.size =
      some (if stack.untouched memory < stack.words then stack.word (stack.untouched memory) else 0,
        (List.range (min (stack.untouched memory + 1) stack.words)).map stack.word) := by
  have h := stack.scan_word memory stack.words 0 (stack.words + 1) (by omega) (by omega)
  rw [word_zero, Nat.zero_add, ← untouched_eq, ← List.range_eq_range'] at h
  exact h

/-- The usage that the high-water mark stands for. -/
def usage : ℤ := stack.size.toNat - 4 * stack.untouched memory

theorem usage_nonneg : 0 ≤ stack.usage memory := by
  have hle := stack.untouchedFrom_le memory 0 stack.words
  rw [← untouched_eq] at hle
  rw [usage, size_eq]
  omega

theorem usage_mono {memory' : BitVec 32 → BitVec 32}
    (h : ∀ a, memory' a = stackBytePattern → memory a = stackBytePattern) :
    stack.usage memory ≤ stack.usage memory' := by
  have hle := stack.untouchedFrom_mono memory h 0 stack.words
  rw [← untouched_eq, ← untouched_eq] at hle
  rw [usage, usage]
  omega

/-- A mark of NULL leaves the usage 0, and the area is then untouched as a whole. -/
theorem visited_usage (h : stack.area ≠ 0) :
    (if (if stack.untouched memory < stack.words then stack.word (stack.untouched memory) else 0) ≠
        0#32 then
      calculateUsedStack stack.area stack.size
        (if stack.untouched memory < stack.words then stack.word (stack.untouched memory) else 0)
      else 0#32).toInt = stack.usage memory := by
  have hle := stack.untouchedFrom_le memory 0 stack.words
  rw [← untouched_eq] at hle
  have hsize := stack.size_eq
  have hsmall := stack.size_lt
  by_cases hfound : stack.untouched memory < stack.words
  · have hmark := stack.word_toNat (Nat.le_of_lt hfound)
    have hend := stack.limit_toNat
    have hne : stack.word (stack.untouched memory) ≠ 0#32 := by
      intro hzero
      have hpos : 0 < stack.area.toNat :=
        Nat.pos_of_ne_zero fun hnat => h (BitVec.eq_of_toNat_eq hnat)
      rw [hzero] at hmark
      change 0 = _ at hmark
      omega
    have hused : (calculateUsedStack stack.area stack.size
        (stack.word (stack.untouched memory))).toNat =
          stack.size.toNat - 4 * stack.untouched memory := by
      rw [calculateUsedStack, BitVec.toNat_sub_of_le (by rw [BitVec.le_def]; omega)]
      omega
    rw [if_pos hfound, if_pos hne, BitVec.toInt_eq_toNat_of_lt (by omega), hused, usage]
    omega
  · rw [if_neg hfound, if_neg fun h => h rfl, usage]
    simp
    omega

end StackControl

section Threads
variable {n : ℕ} (memory : BitVec 32 → BitVec 32) (threadsInfo : Fin n → RtemsId)

/-- The addresses that are read of a stack. -/
def StackControl.scanned (stack : StackControl) : List (BitVec 32) :=
  (List.range (min (stack.untouched memory + 1) stack.words)).map stack.word

theorem scanned_within (stack : StackControl) :
    ∀ address ∈ stack.scanned memory, stack.Within address := by
  intro address hmem
  obtain ⟨k, hk, rfl⟩ := List.mem_map.mp hmem
  exact stack.word_within (Nat.lt_of_lt_of_le (List.mem_range.mp hk) (Nat.min_le_right _ _))

/-- What is returned and read: the first thread with the interface's id decides. -/
def measured (thread : Option ThreadControl) : ℤ × List (BitVec 32) :=
  match thread with
  | none => (-1, [])
  | some theThread =>
      if theThread.initialStack.area = 0 then (-1, [])
      else (theThread.initialStack.usage memory, theThread.initialStack.scanned memory)

variable {memory} in
theorem measured_null {theThread : ThreadControl} (h : theThread.initialStack.area = 0) :
    measured memory (some theThread) = (-1, []) := if_pos h

variable {memory} in
theorem measured_area {theThread : ThreadControl} (h : theThread.initialStack.area ≠ 0) :
    measured memory (some theThread) =
      (theThread.initialStack.usage memory, theThread.initialStack.scanned memory) := if_neg h

theorem measured_eq_neg_one_iff (thread : Option ThreadControl) :
    (measured memory thread).1 = -1 ↔
      ∀ theThread, thread = some theThread → theThread.initialStack.area = 0 := by
  cases thread with
  | none => exact iff_of_true rfl fun theThread h => nomatch h
  | some first =>
      by_cases harea : first.initialStack.area = 0
      · rw [measured_null harea]
        refine iff_of_true rfl fun theThread h => ?_
        cases h
        exact harea
      · rw [measured_area harea]
        refine iff_of_false (fun husage => ?_) fun h => harea (h first rfl)
        have hnonneg := first.initialStack.usage_nonneg memory
        exact absurd (hnonneg.trans_eq husage) (by decide)

theorem measured_reads (thread : Option ThreadControl) :
    ∀ address ∈ (measured memory thread).2, ∃ theThread, thread = some theThread ∧
      theThread.initialStack.area ≠ 0 ∧ theThread.initialStack.Within address := by
  intro address hmem
  cases thread with
  | none => cases hmem
  | some first =>
      by_cases harea : first.initialStack.area = 0
      · rw [measured_null harea] at hmem
        cases hmem
      · rw [measured_area harea] at hmem
        exact ⟨first, rfl, harea, scanned_within memory first.initialStack address hmem⟩

theorem getMaximumStackUsage_eq (threads : List ThreadControl) (interface : Fin n) :
    getMaximumStackUsage true memory threadsInfo threads interface =
      some (measured memory (threads.find? (·.id = threadsInfo interface))) := by
  rw [getMaximumStackUsage, if_neg fun h => h rfl]
  induction threads with
  | nil => rfl
  | cons theThread rest ih =>
      rw [rtemsTaskIterate, threadStackUsageVisitor]
      by_cases hid : theThread.id = threadsInfo interface
      · have hfirst : (theThread :: rest).find? (·.id = threadsInfo interface) = some theThread :=
          List.find?_cons_of_pos (decide_eq_true hid)
        rw [if_neg fun h => h hid.symm, hfirst]
        by_cases harea : theThread.initialStack.area = 0
        · rw [if_pos harea, measured_null harea]
          rfl
        · rw [if_neg harea, measured_area harea, StackControl.findHighWaterMark_eq,
            ← theThread.initialStack.visited_usage memory harea]
          rfl
      · have hnext : (theThread :: rest).find? (·.id = threadsInfo interface) =
            rest.find? (·.id = threadsInfo interface) :=
          List.find?_cons_of_neg fun h => hid (of_decide_eq_true h)
        rw [if_pos fun h => hid h.symm, hnext, ← ih, Option.bind_some,
          if_neg Bool.false_ne_true]
        simp only [List.nil_append, Option.map_map]
        rfl

variable {memory} {threadsInfo} in
theorem measured_mono {memory' : BitVec 32 → BitVec 32}
    (h : ∀ a, memory' a = memory a ∨ memory' a ≠ stackBytePattern) (thread : Option ThreadControl) :
    (measured memory thread).1 ≤ (measured memory' thread).1 := by
  have hkept : ∀ a, memory' a = stackBytePattern → memory a = stackBytePattern := by
    intro a ha
    rcases h a with hsame | hnew
    · rw [← hsame, ha]
    · exact absurd ha hnew
  cases thread with
  | none => exact Int.le_refl _
  | some theThread =>
      by_cases harea : theThread.initialStack.area = 0
      · rw [measured_null harea, measured_null harea]
      · rw [measured_area harea, measured_area harea]
        exact theThread.initialStack.usage_mono memory hkept

/-- The maximum stack usage is -1 when the interface has no thread with a stack area, and else
the part of the area from the first word on that has lost the pattern. -/
theorem getMaximumStackUsage_exact (threads : List ThreadControl) (interface : Fin n) :
    ∃ usage reads,
      getMaximumStackUsage true memory threadsInfo threads interface = some (usage, reads) ∧
      (usage = -1 ↔ ∀ theThread, threads.find? (·.id = threadsInfo interface) = some theThread →
        theThread.initialStack.area = 0) ∧
      (∀ theThread, threads.find? (·.id = threadsInfo interface) = some theThread →
        theThread.initialStack.area ≠ 0 →
          usage = theThread.initialStack.size.toNat - 4 * theThread.initialStack.untouched memory) ∧
      (∀ address ∈ reads, ∃ theThread,
        threads.find? (·.id = threadsInfo interface) = some theThread ∧
          theThread.initialStack.area ≠ 0 ∧ theThread.initialStack.Within address) ∧
      ∀ memory', (∀ a, memory' a = memory a ∨ memory' a ≠ stackBytePattern) →
        ∃ usage' reads',
          getMaximumStackUsage true memory' threadsInfo threads interface = some (usage', reads') ∧
            usage ≤ usage' := by
  refine ⟨(measured memory (threads.find? (·.id = threadsInfo interface))).1,
    (measured memory (threads.find? (·.id = threadsInfo interface))).2,
    getMaximumStackUsage_eq memory threadsInfo threads interface,
    measured_eq_neg_one_iff memory _, ?_, measured_reads memory _, ?_⟩
  · intro theThread hfirst harea
    rw [hfirst, measured_area harea, StackControl.usage]
  · intro memory' h
    exact ⟨_, _, getMaximumStackUsage_eq memory' threadsInfo threads interface, measured_mono h _⟩

/-- Two of the four words are untouched, and the third one is the last that is read. -/
example :
    getMaximumStackUsage true (fun a => if a < 0x20400008#32 then stackBytePattern else 0)
      (fun _ : Fin 1 => 7) [⟨7, 0x20400000, 16, by decide, by decide, by decide, by decide⟩] 0 =
        some (8, [0x20400000, 0x20400004, 0x20400008]) := by decide

end Threads

end SamV71Runtime.Monitor
