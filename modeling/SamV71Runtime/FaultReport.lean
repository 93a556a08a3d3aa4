import SamV71Runtime.FaultHandler

/-!
# The death report of a fault

`DeathReportWriter_GenerateDeathReport` as the tail of the fault handler calls it, load by
load and store by store, on the memory that the handler leaves: the report of the record
comes out of it when neither the stack nor the linker symbol lies in the report. The core
registers that the tail works with and the stack frames of its calls are left out.
-/
namespace SamV71Runtime.FaultHandler
open ByteMemory Thumb
open DeathReportWriter hiding Address

def stackTraceLengthOffset : BitVec 32 := wordOffset 28

def stackTraceOffset (i : ℕ) : BitVec 32 := wordOffset (29 + i)

/-- The loop of `save_stack`, from index `i` on: the length is read in the report each time. -/
def copyLoop (deathReportBegin stack : Address) : ℕ → ℕ → Machine → Option Machine
  | 0, _, _ => none
  | fuel + 1, i, m =>
      if BitVec.ofNat 32 i < m.load (deathReportBegin + stackTraceLengthOffset) then
        copyLoop deathReportBegin stack fuel (i + 1)
          (m.store (deathReportBegin + stackTraceOffset i) (m.load (stack + BitVec.ofNat 32 (4 * i))))
      else some m

def saveStackTo (fuel : ℕ) (bspSectionRtemsstackEnd deathReportBegin : Address) (m : Machine) :
    Option Machine :=
  let distance := m.load bspSectionRtemsstackEnd - m.load (deathReportBegin + spOffset)
  let m := m.store (deathReportBegin + stackTraceLengthOffset)
    (if distance < deathReportStackTraceSize then distance else deathReportStackTraceSize)
  copyLoop deathReportBegin (m.load (deathReportBegin + spOffset)) fuel 0 m

def sizeofDeathReport : ℕ := 632

/-- The stores behind `save_stack`: `padding`, `was_seen`, and the checksum of the bytes
that follow it. -/
def sealReport (deathReportBegin : Address) (memory : Memory) : Memory :=
  let memory := storeByte memory (deathReportBegin + 3#32) 0#8
  let memory := storeByte memory (deathReportBegin + 2#32) 0#8
  let checksum := calculateCrc ((List.range (sizeofDeathReport - sizeofUint16)).map
    (byteAt memory (deathReportBegin + 2#32)))
  let memory := storeByte memory (deathReportBegin + 0#32) (checksum.extractLsb' 0 8)
  storeByte memory (deathReportBegin + 1#32) (checksum.extractLsb' 8 8)

def generateDeathReportIn (fuel : ℕ) (bspSectionRtemsstackEnd deathReportBegin : Address)
    (m : Machine) : Option Machine :=
  (saveStackTo fuel bspSectionRtemsstackEnd deathReportBegin m).map fun m =>
    { m with memory := sealReport deathReportBegin m.memory }

/-- The report is in memory. -/
def InMemory (deathReportBegin : Address) : Prop :=
  ∀ j < 632, isDevice (deathReportBegin + BitVec.ofNat 32 j) = false

/-- The word at an address shares no byte with the report. -/
def OutsideReport (deathReportBegin address : Address) : Prop :=
  ∀ i < 4, ∀ j < 632, address + BitVec.ofNat 32 i ≠ deathReportBegin + BitVec.ofNat 32 j

section Bytes
variable {deathReportBegin : Address} {memory memory' : Memory}

theorem offset_sub_offset (base : Address) {x y : ℕ} (hx : x < 632) (hy : y < 632) :
    (base + BitVec.ofNat 32 y - (base + BitVec.ofNat 32 x)).toNat =
      if x ≤ y then y - x else 2 ^ 32 + y - x := by
  rw [add_sub_add_left_eq_sub, BitVec.toNat_sub, BitVec.toNat_ofNat, BitVec.toNat_ofNat]
  split <;> omega

/-- A byte of the report after a word has been stored at an offset. -/
theorem byteAt_storeWord (memory : Memory) (value : BitVec 32) {x y : ℕ} (hx : x + 4 ≤ 632)
    (hy : y < 632) :
    byteAt (storeWord memory (deathReportBegin + BitVec.ofNat 32 x) value) deathReportBegin y =
      if x ≤ y ∧ y < x + 4 then byteOf value (y - x) else byteAt memory deathReportBegin y := by
  rw [byteAt, storeWord, offset_sub_offset _ (by omega) hy]
  by_cases hxy : x ≤ y
  · rw [if_pos hxy]
    by_cases hin : y < x + 4
    · rw [if_pos (by omega), if_pos ⟨hxy, hin⟩]
    · rw [if_neg (by omega), if_neg fun h => hin h.2, byteAt]
  · rw [if_neg hxy, if_neg (by omega), if_neg fun h => hxy h.1, byteAt]

theorem byteAt_storeByte (memory : Memory) (value : BitVec 8) {x y : ℕ} (hx : x < 632)
    (hy : y < 632) :
    byteAt (storeByte memory (deathReportBegin + BitVec.ofNat 32 x) value) deathReportBegin y =
      if y = x then value else byteAt memory deathReportBegin y := by
  have hsame : deathReportBegin + BitVec.ofNat 32 y = deathReportBegin + BitVec.ofNat 32 x ↔
      y = x := by
    constructor
    · intro h
      have hnat := congrArg BitVec.toNat (add_left_cancel h)
      rw [BitVec.toNat_ofNat, BitVec.toNat_ofNat] at hnat
      omega
    · rintro rfl
      rfl
  rw [byteAt, storeByte, Function.update_apply, byteAt]
  simp only [hsame]

/-- A word of the report is made of its bytes. -/
theorem loadWord_report {k : ℕ}
    (h : ∀ i < 4, byteAt memory deathReportBegin (4 + 4 * k + i) =
      byteAt memory' deathReportBegin (4 + 4 * k + i)) :
    loadWord memory (deathReportBegin + wordOffset k) =
      loadWord memory' (deathReportBegin + wordOffset k) := by
  apply loadWord_congr
  intro i hi
  rw [byteAt, byteAt, BitVec.add_assoc, wordOffset_byte]
  exact h i hi

end Bytes

/-- The first `n` words of the stack have been copied into the report, and only they have
been stored since. -/
structure Copied (deathReportBegin stack : Address) (before : Machine) (n : ℕ) (m : Machine) :
    Prop where
  only : m = { before with memory := m.memory }
  copied : ∀ i < n, loadWord m.memory (deathReportBegin + stackTraceOffset i) =
    before.load (stack + BitVec.ofNat 32 (4 * i))
  kept : ∀ j < 632, (j < 120 ∨ 120 + 4 * n ≤ j) →
    byteAt m.memory deathReportBegin j = byteAt before.memory deathReportBegin j
  elsewhere : ∀ a, (∀ j < 632, a ≠ deathReportBegin + BitVec.ofNat 32 j) →
    m.memory a = before.memory a

section Copying
variable {deathReportBegin stack address : Address} {before m : Machine} {n : ℕ}

theorem load_report (hmemory : InMemory deathReportBegin) {k : ℕ} (hk : k < 157) :
    m.load (deathReportBegin + wordOffset k) = loadWord m.memory (deathReportBegin + wordOffset k) := by
  rw [Machine.load, wordOffset, hmemory (4 + 4 * k) (by omega), if_neg Bool.false_ne_true]

theorem store_report (hmemory : InMemory deathReportBegin) {k : ℕ} (hk : k < 157)
    (value : BitVec 32) : m.store (deathReportBegin + wordOffset k) value =
      { m with memory := storeWord m.memory (deathReportBegin + wordOffset k) value } := by
  rw [Machine.store, wordOffset, hmemory (4 + 4 * k) (by omega), if_neg Bool.false_ne_true]

/-- What is loaded outside the report is not changed by stores into it. -/
theorem load_outside (hout : OutsideReport deathReportBegin address)
    (hdevice : m.device = before.device)
    (helsewhere : ∀ a, (∀ j < 632, a ≠ deathReportBegin + BitVec.ofNat 32 j) →
      m.memory a = before.memory a) : m.load address = before.load address := by
  have hword : loadWord m.memory address = loadWord before.memory address :=
    loadWord_congr fun i hi => helsewhere _ (hout i hi)
  rw [Machine.load, Machine.load, hdevice, hword]

theorem storeWord_elsewhere (memory : Memory) (value : BitVec 32) {k : ℕ} (hk : k < 157)
    {a : Address} (ha : ∀ j < 632, a ≠ deathReportBegin + BitVec.ofNat 32 j) :
    storeWord memory (deathReportBegin + wordOffset k) value a = memory a := by
  apply storeWord_of_le
  by_contra hlt
  refine ha (4 + 4 * k + (a - (deathReportBegin + wordOffset k)).toNat) (by omega) ?_
  rw [← wordOffset_byte, ← BitVec.add_assoc, add_offset]

theorem Copied.device (h : Copied deathReportBegin stack before n m) : m.device = before.device := by
  rw [h.only]

theorem Copied.store (h : Copied deathReportBegin stack before n m)
    (hmemory : InMemory deathReportBegin) (hn : n < 128)
    (hout : OutsideReport deathReportBegin (stack + BitVec.ofNat 32 (4 * n))) :
    Copied deathReportBegin stack before (n + 1)
      (m.store (deathReportBegin + stackTraceOffset n) (m.load (stack + BitVec.ofNat 32 (4 * n)))) := by
  rw [stackTraceOffset, store_report hmemory (by omega), load_outside hout h.device h.elsewhere]
  constructor
  case only => rw [h.only]
  case copied =>
    intro i hi
    rcases Nat.lt_succ_iff_lt_or_eq.mp hi with hi | rfl
    · refine (loadWord_report fun b hb => ?_).trans (h.copied i hi)
      rw [wordOffset, byteAt_storeWord _ _ (by omega) (by omega), if_neg (by omega)]
    · exact loadWord_storeWord ..
  case kept =>
    intro j hj hfar
    rw [wordOffset, byteAt_storeWord _ _ (by omega) hj, if_neg (by omega)]
    exact h.kept j hj (by omega)
  case elsewhere =>
    intro a ha
    exact (storeWord_elsewhere m.memory _ (by omega) ha).trans (h.elsewhere a ha)

/-- The loop ends with as many words as the length says. -/
theorem copyLoop_copied (hmemory : InMemory deathReportBegin) {length : ℕ} (hlength : length ≤ 128)
    (hstored : (loadWord before.memory (deathReportBegin + stackTraceLengthOffset)).toNat = length)
    (hout : ∀ i < length, OutsideReport deathReportBegin (stack + BitVec.ofNat 32 (4 * i)))
    {fuel : ℕ} (hn : n ≤ length) (hfuel : length < fuel + n)
    (h : Copied deathReportBegin stack before n m) :
    ∃ final, copyLoop deathReportBegin stack fuel n m = some final ∧
      Copied deathReportBegin stack before length final := by
  induction fuel generalizing n m with
  | zero => omega
  | succ fuel ih =>
      have hread : m.load (deathReportBegin + stackTraceLengthOffset) =
          loadWord before.memory (deathReportBegin + stackTraceLengthOffset) := by
        rw [stackTraceLengthOffset, load_report hmemory (by decide)]
        exact loadWord_report fun i hi => h.kept _ (by omega) (Or.inl (by omega))
      have hless : BitVec.ofNat 32 n < m.load (deathReportBegin + stackTraceLengthOffset) ↔
          n < length := by
        rw [hread, BitVec.lt_def, hstored, BitVec.toNat_ofNat]
        omega
      rw [copyLoop]
      by_cases hlast : n < length
      · rw [if_pos (hless.mpr hlast)]
        exact ih hlast (by omega) (h.store hmemory (by omega) (hout n hlast))
      · have hdone : n = length := by omega
        rw [if_neg (mt hless.mp hlast)]
        exact ⟨m, rfl, hdone ▸ h⟩

end Copying

section Seal
variable {deathReportBegin : Address} {memory : Memory}

theorem sealReport_byteAt (deathReportBegin : Address) (memory : Memory) {j : ℕ} (hj : j < 628) :
    byteAt (sealReport deathReportBegin memory) deathReportBegin (4 + j) =
      byteAt memory deathReportBegin (4 + j) := by
  rw [sealReport, byteAt_storeByte _ _ (by decide) (by omega), if_neg (by omega),
    byteAt_storeByte _ _ (by decide) (by omega), if_neg (by omega),
    byteAt_storeByte _ _ (by decide) (by omega), if_neg (by omega),
    byteAt_storeByte _ _ (by decide) (by omega), if_neg (by omega)]

/-- The bytes that the checksum is taken of. -/
theorem covered_bytes (deathReportBegin : Address) (memory : Memory) :
    (List.range (sizeofDeathReport - sizeofUint16)).map
      (byteAt (storeByte (storeByte memory (deathReportBegin + 3#32) 0#8)
        (deathReportBegin + 2#32) 0#8) (deathReportBegin + 2#32)) =
      [0#8, 0#8] ++ (List.range 628).map fun j => byteAt memory deathReportBegin (4 + j) := by
  have hbyte (j : ℕ) : byteAt (storeByte (storeByte memory (deathReportBegin + 3#32) 0#8)
      (deathReportBegin + 2#32) 0#8) (deathReportBegin + 2#32) j =
      byteAt (storeByte (storeByte memory (deathReportBegin + 3#32) 0#8)
        (deathReportBegin + 2#32) 0#8) deathReportBegin (2 + j) := by
    rw [byteAt, byteAt, BitVec.add_assoc, ← BitVec.ofNat_add]
  have htail : (List.range 628).map (fun j => byteAt (storeByte (storeByte memory
      (deathReportBegin + 3#32) 0#8) (deathReportBegin + 2#32) 0#8) deathReportBegin (2 + (2 + j))) =
      (List.range 628).map fun j => byteAt memory deathReportBegin (4 + j) := by
    apply List.map_congr_left
    intro j hj
    have hlt := List.mem_range.mp hj
    rw [byteAt_storeByte _ _ (by decide) (by omega), if_neg (by omega),
      byteAt_storeByte _ _ (by decide) (by omega), if_neg (by omega), ← Nat.add_assoc]
  have hpadding : byteAt (storeByte (storeByte memory (deathReportBegin + 3#32) 0#8)
      (deathReportBegin + 2#32) 0#8) deathReportBegin 3 = 0#8 := by
    rw [byteAt_storeByte _ _ (by decide) (by decide), if_neg (by decide),
      byteAt_storeByte _ _ (by decide) (by decide), if_pos rfl]
  have hwasSeen : byteAt (storeByte (storeByte memory (deathReportBegin + 3#32) 0#8)
      (deathReportBegin + 2#32) 0#8) deathReportBegin 2 = 0#8 := by
    rw [byteAt_storeByte _ _ (by decide) (by decide), if_pos rfl]
  have hfront : (List.range 2).map (fun j => byteAt (storeByte (storeByte memory
      (deathReportBegin + 3#32) 0#8) (deathReportBegin + 2#32) 0#8) deathReportBegin (2 + j)) =
      [0#8, 0#8] := by
    rw [show List.range 2 = [0, 1] from rfl, List.map_cons, List.map_cons, List.map_nil, hwasSeen,
      hpadding]
  rw [show sizeofDeathReport - sizeofUint16 = 2 + 628 from rfl, funext hbyte, List.range_add,
    List.map_append, List.map_map, hfront]
  exact congrArg _ htail

/-- The bytes of a sealed report, of which the checksum covers all but its own. -/
theorem sealReport_bytes (deathReportBegin : Address) (memory : Memory) {body : List (BitVec 8)}
    (hbody : (List.range 628).map (fun j => byteAt memory deathReportBegin (4 + j)) = body)
    {checksum : BitVec 16} (hchecksum : calculateCrc ([0#8, 0#8] ++ body) = checksum) :
    (List.range 632).map (byteAt (sealReport deathReportBegin memory) deathReportBegin) =
      [checksum.extractLsb' 0 8, checksum.extractLsb' 8 8, 0#8, 0#8] ++ body := by
  have htail : (List.range 628).map (fun j =>
      byteAt (sealReport deathReportBegin memory) deathReportBegin (4 + j)) = body := by
    rw [← hbody]
    apply List.map_congr_left
    intro j hj
    exact sealReport_byteAt deathReportBegin memory (List.mem_range.mp hj)
  have hfront : (List.range 4).map (byteAt (sealReport deathReportBegin memory) deathReportBegin) =
      [checksum.extractLsb' 0 8, checksum.extractLsb' 8 8, 0#8, 0#8] := by
    rw [sealReport, covered_bytes, hbody, hchecksum, show List.range 4 = [0, 1, 2, 3] from rfl]
    simp (disch := decide) [-BitVec.add_zero, byteAt_storeByte]
  rw [show 632 = 4 + 628 from rfl, List.range_add, List.map_append, List.map_map, hfront]
  exact congrArg _ htail

end Seal

section Refinement
variable {stackEnd deathReportBegin : Address} {before m : Machine} {fuel : ℕ}

/-- What `save_stack` makes of the report in memory. -/
def savedRecord (stackEnd deathReportBegin : Address) (before : Machine) : SavedStack :=
  saveStack before.load stackEnd (reportAt before.memory deathReportBegin)

/-- `save_stack` has been run on the report: its words are those of the record, and nothing
but the report has been stored to. -/
structure StackSaved (stackEnd deathReportBegin : Address) (before m : Machine) : Prop where
  only : m = { before with memory := m.memory }
  fixed : ∀ k < 28, loadWord m.memory (deathReportBegin + wordOffset k) =
    loadWord before.memory (deathReportBegin + wordOffset k)
  length : loadWord m.memory (deathReportBegin + wordOffset 28) =
    (savedRecord stackEnd deathReportBegin before).report.stackTraceLength
  trace : ∀ i < 128, loadWord m.memory (deathReportBegin + wordOffset (29 + i)) =
    (savedRecord stackEnd deathReportBegin before).report.stackTrace i
  elsewhere : ∀ a, (∀ j < 632, a ≠ deathReportBegin + BitVec.ofNat 32 j) →
    m.memory a = before.memory a

theorem words_savedRecord (stackEnd deathReportBegin : Address) (before : Machine) :
    (savedRecord stackEnd deathReportBegin before).report.words =
      (List.range 28).map (fun k => loadWord before.memory (deathReportBegin + wordOffset k)) ++
      [(savedRecord stackEnd deathReportBegin before).report.stackTraceLength] ++
      (List.range 128).map (savedRecord stackEnd deathReportBegin before).report.stackTrace := rfl

theorem copied_zero (m : Machine) (deathReportBegin stack : Address) :
    Copied deathReportBegin stack m 0 m where
  only := rfl
  copied _ hi := absurd hi (Nat.not_lt_zero _)
  kept _ _ _ := rfl
  elsewhere _ _ := rfl

/-- The machine once the length has been stored. -/
def lengthStored (stackEnd deathReportBegin : Address) (before : Machine) : Machine :=
  before.store (deathReportBegin + stackTraceLengthOffset)
    (savedRecord stackEnd deathReportBegin before).report.stackTraceLength

theorem lengthStored_eq (hmemory : InMemory deathReportBegin) :
    lengthStored stackEnd deathReportBegin before =
      { before with
        memory := storeWord before.memory (deathReportBegin + stackTraceLengthOffset)
          (savedRecord stackEnd deathReportBegin before).report.stackTraceLength } :=
  store_report hmemory (by decide) _

theorem lengthStored_only (hmemory : InMemory deathReportBegin) :
    lengthStored stackEnd deathReportBegin before =
      { before with memory := (lengthStored stackEnd deathReportBegin before).memory } := by
  rw [lengthStored_eq hmemory]

theorem lengthStored_device (hmemory : InMemory deathReportBegin) :
    (lengthStored stackEnd deathReportBegin before).device = before.device := by
  rw [lengthStored_eq hmemory]

theorem lengthStored_word (hmemory : InMemory deathReportBegin) {k : ℕ} (hk : k < 157)
    (hother : k ≠ 28) :
    loadWord (lengthStored stackEnd deathReportBegin before).memory
      (deathReportBegin + wordOffset k) =
        loadWord before.memory (deathReportBegin + wordOffset k) := by
  rw [lengthStored_eq hmemory]
  apply loadWord_report
  intro i hi
  rw [stackTraceLengthOffset, wordOffset, byteAt_storeWord _ _ (by decide) (by omega),
    if_neg (by omega)]

theorem lengthStored_length (hmemory : InMemory deathReportBegin) :
    loadWord (lengthStored stackEnd deathReportBegin before).memory
      (deathReportBegin + stackTraceLengthOffset) =
        (savedRecord stackEnd deathReportBegin before).report.stackTraceLength := by
  rw [lengthStored_eq hmemory, loadWord_storeWord]

theorem lengthStored_elsewhere (hmemory : InMemory deathReportBegin) {a : Address}
    (ha : ∀ j < 632, a ≠ deathReportBegin + BitVec.ofNat 32 j) :
    (lengthStored stackEnd deathReportBegin before).memory a = before.memory a := by
  rw [lengthStored_eq hmemory]
  exact storeWord_elsewhere before.memory _ (by decide) ha

theorem saveStackTo_eq (hmemory : InMemory deathReportBegin) (fuel : ℕ) :
    saveStackTo fuel stackEnd deathReportBegin before =
      copyLoop deathReportBegin (reportAt before.memory deathReportBegin).stackTracePointer fuel 0
        (lengthStored stackEnd deathReportBegin before) := by
  have hpointer : before.load (deathReportBegin + spOffset) =
      (reportAt before.memory deathReportBegin).stackTracePointer :=
    load_report hmemory (by decide)
  have hkept : (lengthStored stackEnd deathReportBegin before).load (deathReportBegin + spOffset) =
      (reportAt before.memory deathReportBegin).stackTracePointer :=
    (load_report hmemory (by decide)).trans (lengthStored_word hmemory (by decide) (by decide))
  have hstart : saveStackTo fuel stackEnd deathReportBegin before = copyLoop deathReportBegin
      ((lengthStored stackEnd deathReportBegin before).load (deathReportBegin + spOffset)) fuel 0
      (lengthStored stackEnd deathReportBegin before) := by
    rw [saveStackTo, hpointer]
    rfl
  rw [hstart, hkept]

theorem mem_stackReads {i : ℕ}
    (hi : i < (savedRecord stackEnd deathReportBegin before).report.stackTraceLength.toNat) :
    (reportAt before.memory deathReportBegin).stackTracePointer + BitVec.ofNat 32 (4 * i) ∈
      (savedRecord stackEnd deathReportBegin before).stackReads := by
  rw [savedRecord, saveStack_reads]
  exact List.mem_map.mpr ⟨i, List.mem_range.mpr hi, rfl⟩

section Words
variable (hmemory : InMemory deathReportBegin)
  (hstack : ∀ address ∈ (savedRecord stackEnd deathReportBegin before).stackReads,
    OutsideReport deathReportBegin address)
  (h : Copied deathReportBegin (reportAt before.memory deathReportBegin).stackTracePointer
    (lengthStored stackEnd deathReportBegin before)
    (savedRecord stackEnd deathReportBegin before).report.stackTraceLength.toNat m)
include hmemory h

theorem copied_fixed {k : ℕ} (hk : k < 28) :
    loadWord m.memory (deathReportBegin + wordOffset k) =
      loadWord before.memory (deathReportBegin + wordOffset k) := by
  have hstored : loadWord (lengthStored stackEnd deathReportBegin before).memory
      (deathReportBegin + wordOffset k) = loadWord before.memory (deathReportBegin + wordOffset k) :=
    lengthStored_word hmemory (by omega) (by omega)
  rw [← hstored]
  exact loadWord_report fun i hi => h.kept _ (by omega) (Or.inl (by omega))

theorem copied_length :
    loadWord m.memory (deathReportBegin + wordOffset 28) =
      (savedRecord stackEnd deathReportBegin before).report.stackTraceLength := by
  refine Eq.trans ?_ (lengthStored_length hmemory)
  exact loadWord_report fun i hi => h.kept _ (by omega) (Or.inl (by omega))

include hstack in
theorem copied_trace {i : ℕ} (hi : i < 128) :
    loadWord m.memory (deathReportBegin + wordOffset (29 + i)) =
      (savedRecord stackEnd deathReportBegin before).report.stackTrace i := by
  by_cases hlive : i < (savedRecord stackEnd deathReportBegin before).report.stackTraceLength.toNat
  · have hread : (lengthStored stackEnd deathReportBegin before).load
        ((reportAt before.memory deathReportBegin).stackTracePointer + BitVec.ofNat 32 (4 * i)) =
        before.load ((reportAt before.memory deathReportBegin).stackTracePointer +
          BitVec.ofNat 32 (4 * i)) :=
      load_outside (hstack _ (mem_stackReads hlive))
        (lengthStored_device hmemory)
        fun a ha => lengthStored_elsewhere hmemory ha
    have hsaved := saveStack_copied before.load stackEnd _ hlive
    exact (h.copied i hlive).trans (hread.trans hsaved.symm)
  · have hframe := saveStack_frame before.load stackEnd (reportAt before.memory deathReportBegin)
    have hkept := hframe.2.2.2.2 i (Nat.le_of_not_lt hlive)
    have hstored : loadWord (lengthStored stackEnd deathReportBegin before).memory
        (deathReportBegin + wordOffset (29 + i)) =
        loadWord before.memory (deathReportBegin + wordOffset (29 + i)) :=
      lengthStored_word hmemory (by omega) (by omega)
    refine Eq.trans ?_ (hstored.trans hkept.symm)
    exact loadWord_report fun b hb => h.kept _ (by omega) (Or.inr (by omega))

end Words

theorem StackSaved.words (h : StackSaved stackEnd deathReportBegin before m) :
    (reportAt m.memory deathReportBegin).words =
    (savedRecord stackEnd deathReportBegin before).report.words := by
  have hfront : (List.range 28).map (fun k => loadWord m.memory (deathReportBegin + wordOffset k)) =
      (List.range 28).map fun k => loadWord before.memory (deathReportBegin + wordOffset k) :=
    List.map_congr_left fun k hk => h.fixed k (List.mem_range.mp hk)
  have htrace : (List.range 128).map
        (fun i => loadWord m.memory (deathReportBegin + wordOffset (29 + i))) =
      (List.range 128).map (savedRecord stackEnd deathReportBegin before).report.stackTrace :=
    List.map_congr_left fun i hi => h.trace i (List.mem_range.mp hi)
  rw [reportAt_words, words_savedRecord, ← hfront, ← htrace, ← h.length,
    show 157 = 28 + 1 + 128 from rfl, List.range_add, List.map_append, List.map_map,
    List.range_succ, List.map_append, List.map_singleton]
  rfl

theorem saveStackTo_saved (hmemory : InMemory deathReportBegin)
    (hstack : ∀ address ∈ (savedRecord stackEnd deathReportBegin before).stackReads,
      OutsideReport deathReportBegin address) (hfuel : 129 ≤ fuel) :
    ∃ m, saveStackTo fuel stackEnd deathReportBegin before = some m ∧
      StackSaved stackEnd deathReportBegin before m := by
  have hle : (savedRecord stackEnd deathReportBegin before).report.stackTraceLength.toNat ≤ 128 :=
    (saveStack_length before.load stackEnd _).trans_le (Nat.min_le_left _ _)
  obtain ⟨m, hm, hcopied⟩ := copyLoop_copied hmemory hle
    (congrArg BitVec.toNat (lengthStored_length hmemory))
    (fun i hi => hstack _ (mem_stackReads hi)) (Nat.zero_le _) (show _ < fuel + 0 by omega)
    (copied_zero (lengthStored stackEnd deathReportBegin before) deathReportBegin
      (reportAt before.memory deathReportBegin).stackTracePointer)
  refine ⟨m, (saveStackTo_eq hmemory fuel).trans hm, ?_, ?_, ?_, ?_, ?_⟩
  · rw [hcopied.only, lengthStored_only hmemory]
  · exact fun k hk => copied_fixed hmemory hcopied hk
  · exact copied_length hmemory hcopied
  · exact fun i hi => copied_trace hmemory hstack hcopied hi
  · exact fun a ha => (hcopied.elsewhere a ha).trans (lengthStored_elsewhere hmemory ha)

theorem words_bytes (memory : Memory) (deathReportBegin : Address) :
    (List.range 628).map (fun j => byteAt memory deathReportBegin (4 + j)) =
      (reportAt memory deathReportBegin).words.flatMap wordBytes := by
  have hdrop := congrArg (List.drop 4) (reportAt_bytes memory deathReportBegin)
  have hall : (List.range 632).map (byteAt memory deathReportBegin) =
      (List.range 4).map (byteAt memory deathReportBegin) ++
        (List.range 628).map fun j => byteAt memory deathReportBegin (4 + j) := by
    rw [show 632 = 4 + 628 from rfl, List.range_add, List.map_append, List.map_map]
    rfl
  rw [hall, List.drop_left' (by simp)] at hdrop
  exact hdrop.symm

theorem sealReport_word (memory : Memory) {k : ℕ} (hk : k < 157) :
    loadWord (sealReport deathReportBegin memory) (deathReportBegin + wordOffset k) =
      loadWord memory (deathReportBegin + wordOffset k) := by
  apply loadWord_report
  intro i hi
  rw [Nat.add_assoc]
  exact sealReport_byteAt deathReportBegin memory (by omega)

theorem sealReport_elsewhere (memory : Memory) {a : Address}
    (ha : ∀ j < 632, a ≠ deathReportBegin + BitVec.ofNat 32 j) :
    sealReport deathReportBegin memory a = memory a := by
  have hbyte (memory : Memory) (value : BitVec 8) {j : ℕ} (hj : j < 632) :
      storeByte memory (deathReportBegin + BitVec.ofNat 32 j) value a = memory a :=
    Function.update_of_ne (ha j hj) ..
  rw [sealReport, hbyte _ _ (by decide), hbyte _ _ (by decide), hbyte _ _ (by decide),
    hbyte _ _ (by decide)]

theorem generateDeathReport_bytes (memory : Address → BitVec 32) (stackEnd : Address)
    (report : DeathReport) {body : List (BitVec 8)}
    (hbody : (saveStack memory stackEnd report).report.words.flatMap wordBytes = body) :
    (generateDeathReport memory stackEnd report).2.bytes =
      [(calculateCrc ([0#8, 0#8] ++ body)).extractLsb' 0 8,
        (calculateCrc ([0#8, 0#8] ++ body)).extractLsb' 8 8, 0#8, 0#8] ++ body := by
  have hwords (saved : DeathReport) (checksum : BitVec 16) : ({ saved with
      checksum, wasSeen := 0#8, padding := 0#8 } : DeathReport).words = saved.words := rfl
  simp only [generateDeathReport, calculateReportCrc, DeathReport.bytes, hwords, hbody]
  rfl

/-- The bytes of a report that is sealed once the stack has been saved are those of the record. -/
theorem StackSaved.bytes (h : StackSaved stackEnd deathReportBegin before m) :
    (reportAt (sealReport deathReportBegin m.memory) deathReportBegin).bytes =
      (generateDeathReport before.load stackEnd
        (reportAt before.memory deathReportBegin)).2.bytes := by
  have hbody := words_bytes m.memory deathReportBegin
  rw [h.words, savedRecord] at hbody
  rw [reportAt_bytes, sealReport_bytes deathReportBegin m.memory hbody rfl]
  exact (generateDeathReport_bytes before.load stackEnd _ rfl).symm

end Refinement

/-- The report that the loads and stores of `DeathReportWriter_GenerateDeathReport` leave in
memory is that of the record, byte by byte, and no other memory changes, if no word of the
stack that is copied lies in the report. -/
theorem generateDeathReportIn_refines (fuel : ℕ) (stackEnd deathReportBegin : Address)
    (before : Machine) (hfuel : 129 ≤ fuel) (hmemory : InMemory deathReportBegin)
    (hstack : ∀ address ∈ (savedRecord stackEnd deathReportBegin before).stackReads,
      OutsideReport deathReportBegin address) :
    ∃ final, generateDeathReportIn fuel stackEnd deathReportBegin before = some final ∧
      final = { before with memory := final.memory } ∧
      (reportAt final.memory deathReportBegin).bytes = (generateDeathReport before.load stackEnd
        (reportAt before.memory deathReportBegin)).2.bytes ∧
      ∀ a, (∀ j < 632, a ≠ deathReportBegin + BitVec.ofNat 32 j) →
        final.memory a = before.memory a := by
  obtain ⟨m, hm, hsaved⟩ := saveStackTo_saved hmemory hstack hfuel
  refine ⟨_, congrArg (Option.map _) hm, ?_, hsaved.bytes, fun a ha => ?_⟩
  · rw [hsaved.only]
  · exact (sealReport_elsewhere m.memory ha).trans (hsaved.elsewhere a ha)

theorem outsideReport_of_below {deathReportBegin address : Address}
    (hbelow : address.toNat + 4 ≤ deathReportBegin.toNat)
    (hend : deathReportBegin.toNat + 632 ≤ 2 ^ 32) : OutsideReport deathReportBegin address := by
  intro i hi j hj h
  have hnat := congrArg BitVec.toNat h
  rw [BitVec.toNat_add, BitVec.toNat_add, BitVec.toNat_ofNat, BitVec.toNat_ofNat] at hnat
  omega

/-- The stack pointer is in the report, and the word at the symbol is 8 bytes above it. -/
def eightBytes : Machine :=
  { hardFault 1 with
    memory := storeWord (storeWord (hardFault 1).memory 0x20450070#32 0x20400010#32)
      0x20400100#32 0x20400018#32 }

theorem generateDeathReportIn_refines_eightBytes : ∃ final,
    (savedRecord 0x20400100#32 0x20450000#32 eightBytes).report.stackTraceLength = 8#32 ∧
    generateDeathReportIn 129 0x20400100#32 0x20450000#32 eightBytes = some final ∧
    final = { eightBytes with memory := final.memory } ∧
    (reportAt final.memory 0x20450000#32).bytes = (generateDeathReport eightBytes.load 0x20400100#32
      (reportAt eightBytes.memory 0x20450000#32)).2.bytes ∧
    ∀ a, (∀ j < 632, a ≠ 0x20450000#32 + BitVec.ofNat 32 j) →
      final.memory a = eightBytes.memory a := by
  have hpointer : (reportAt eightBytes.memory 0x20450000#32).stackTracePointer =
      0x20400010#32 := by decide
  have hsymbol : eightBytes.load 0x20400100#32 = 0x20400018#32 := by decide
  have hlength : (savedRecord 0x20400100#32 0x20450000#32 eightBytes).report.stackTraceLength.toNat =
      8 := by
    rw [savedRecord, saveStack_length, hpointer, hsymbol]
    rfl
  obtain ⟨final, hall⟩ := generateDeathReportIn_refines 129 0x20400100#32 0x20450000#32 eightBytes
    (Nat.le_refl _) (atFault_hardFault 1).reportInMemory fun address hmem => by
      rw [savedRecord, saveStack_reads, hpointer] at hmem
      obtain ⟨i, hi, rfl⟩ := List.mem_map.mp hmem
      have hlt := List.mem_range.mp hi
      rw [← savedRecord, hlength] at hlt
      apply outsideReport_of_below
      · rw [BitVec.toNat_add, BitVec.toNat_ofNat, BitVec.toNat_ofNat, BitVec.toNat_ofNat]
        omega
      · decide
  exact ⟨final, BitVec.toNat_inj.mp hlength, hall⟩

/-- A sealed report: not seen, and with the checksum of what follows it. -/
structure Sealed (report : DeathReport) : Prop where
  wasSeen : report.wasSeen = 0
  padding : report.padding = 0
  checksum : Crc.toPoly report.checksum = referenceCrc (report.bytes.drop sizeofUint16)

/-- What a report of a fault shows: the state at the handler's entry, but for PRIMASK, and the
words from the stack pointer on, as many of them as there are bytes up to the value of the
linker symbol. -/
structure Reported (before : Machine) (stackEnd : Address) (report : DeathReport) : Prop
    extends Sealed report where
  exceptionId : report.exceptionId = before.special.read .ipsr
  registers : report.registers = { registersAtEntry before with priMask := 1 }
  systemControlBlock : report.systemControlBlock = systemControlBlockAtEntry before
  stackTracePointer : report.stackTracePointer = activeStackPointer before
  stackTraceLength : report.stackTraceLength.toNat =
    min 128 (before.load stackEnd - activeStackPointer before).toNat
  stackTrace : ∀ i < report.stackTraceLength.toNat, report.stackTrace i =
    before.load (activeStackPointer before + BitVec.ofNat 32 (4 * i))

section EndToEnd
variable {stackEnd deathReportBegin : Address} {before after m : Machine}

theorem append_extractLsb' (checksum : BitVec 16) :
    checksum.extractLsb' 8 8 ++ checksum.extractLsb' 0 8 = checksum := by
  ext i hi
  simp only [BitVec.getElem_append, BitVec.getElem_extractLsb']
  grind

theorem sealReport_sealed (deathReportBegin : Address) (memory : Memory) :
    Sealed (reportAt (sealReport deathReportBegin memory) deathReportBegin) := by
  obtain ⟨body, hbody⟩ : ∃ body,
      (List.range 628).map (fun j => byteAt memory deathReportBegin (4 + j)) = body := ⟨_, rfl⟩
  obtain ⟨checksum, hchecksum⟩ : ∃ checksum, calculateCrc ([0#8, 0#8] ++ body) = checksum := ⟨_, rfl⟩
  have hbytes := sealReport_bytes deathReportBegin memory hbody hchecksum
  have hbyte (j : ℕ) (hj : j < 632) :
      some (byteAt (sealReport deathReportBegin memory) deathReportBegin j) =
        ([checksum.extractLsb' 0 8, checksum.extractLsb' 8 8, 0#8, 0#8] ++ body)[j]? := by
    rw [← hbytes, List.getElem?_map, List.getElem?_range hj, Option.map_some]
  have hstored : (reportAt (sealReport deathReportBegin memory) deathReportBegin).checksum =
      checksum := by
    rw [reportAt, Option.some.inj (hbyte 0 (by decide)), Option.some.inj (hbyte 1 (by decide))]
    exact append_extractLsb' checksum
  constructor
  case wasSeen => exact Option.some.inj (hbyte 2 (by decide))
  case padding => exact Option.some.inj (hbyte 3 (by decide))
  case checksum =>
    rw [hstored, ← calculateReportCrc_verifies, calculateReportCrc, reportAt_bytes, hbytes,
      ← hchecksum]
    rfl

/-- The words that the handler has saved are not stored to again. -/
theorem Saving.sealed (h : Saving before deathReportBegin 28 after)
    (hsaved : StackSaved stackEnd deathReportBegin after m) :
    Saving before deathReportBegin 28
      { after with memory := sealReport deathReportBegin m.memory } := by
  constructor
  case r0 => exact h.r0
  case r3 => exact h.r3
  case general => exact h.general
  case special => exact h.special
  case device => exact h.device
  case deviceWrites => exact h.deviceWrites
  case saved =>
    intro k hk
    exact (sealReport_word m.memory (by omega)).trans ((hsaved.fixed k hk).trans (h.saved k hk))
  case elsewhere =>
    intro a ha
    exact (sealReport_elsewhere m.memory ha).trans
      ((hsaved.elsewhere a ha).trans (h.elsewhere a ha))

theorem Saving.load_outside (h : Saving before deathReportBegin 28 after) {address : Address}
    (hout : OutsideReport deathReportBegin address) : after.load address = before.load address :=
  FaultHandler.load_outside hout h.device h.elsewhere

theorem Saving.reported (h : Saving before deathReportBegin 28 after)
    (hsymbol : OutsideReport deathReportBegin stackEnd)
    (hstack : ∀ i < min 128 (before.load stackEnd - activeStackPointer before).toNat,
      OutsideReport deathReportBegin (activeStackPointer before + BitVec.ofNat 32 (4 * i)))
    (hsaved : StackSaved stackEnd deathReportBegin after m) :
    Reported before stackEnd (reportAt (sealReport deathReportBegin m.memory) deathReportBegin) := by
  have hfinal := h.sealed hsaved
  have hpointer : (reportAt after.memory deathReportBegin).stackTracePointer =
      activeStackPointer before := h.saved 27 (by decide)
  have hlength : (reportAt (sealReport deathReportBegin m.memory) deathReportBegin).stackTraceLength =
      (savedRecord stackEnd deathReportBegin after).report.stackTraceLength :=
    (sealReport_word m.memory (by decide)).trans hsaved.length
  have hcount : (savedRecord stackEnd deathReportBegin after).report.stackTraceLength.toNat =
      min 128 (before.load stackEnd - activeStackPointer before).toNat := by
    rw [savedRecord, saveStack_length, hpointer, h.load_outside hsymbol]
  constructor
  case toSealed => exact sealReport_sealed deathReportBegin m.memory
  case exceptionId => exact hfinal.saved 0 (by decide)
  case registers => exact hfinal.registers
  case systemControlBlock =>
    simp (disch := decide) only [reportAt, hfinal.saved]
    rfl
  case stackTracePointer => exact hfinal.saved 27 (by decide)
  case stackTraceLength => rw [hlength, hcount]
  case stackTrace =>
    intro i hi
    rw [hlength] at hi
    have hword := (sealReport_word m.memory (show 29 + i < 157 by omega)).trans
      (hsaved.trace i (by omega))
    have hcopied := saveStack_copied after.load stackEnd _ hi
    rw [hpointer, h.load_outside (hstack i (hcount ▸ hi))] at hcopied
    exact hword.trans hcopied

theorem AtFault.reported (hfault : AtFault before deathReportBegin) {fuel : ℕ} (hfuel : 129 ≤ fuel)
    (hsymbol : OutsideReport deathReportBegin stackEnd)
    (hstack : ∀ i < min 128 (before.load stackEnd - activeStackPointer before).toNat,
      OutsideReport deathReportBegin (activeStackPointer before + BitVec.ofNat 32 (4 * i))) :
    ∃ after final, execute (labelWord deathReportBegin) faultHandler before =
        some (.faultHandlerTail, after) ∧
      generateDeathReportIn fuel stackEnd deathReportBegin after = some final ∧
      Reported before stackEnd (reportAt final.memory deathReportBegin) ∧
      ∀ a, (∀ j < 632, a ≠ deathReportBegin + BitVec.ofNat 32 j) →
        final.memory a = before.memory a := by
  obtain ⟨target, after, hrun, rfl, h⟩ := faultHandler_ends hfault
  have hpointer : (reportAt after.memory deathReportBegin).stackTracePointer =
      activeStackPointer before := h.saved 27 (by decide)
  have hreads : ∀ address ∈ (savedRecord stackEnd deathReportBegin after).stackReads,
      OutsideReport deathReportBegin address := by
    intro address hmem
    rw [savedRecord, saveStack_reads, saveStack_length, hpointer, h.load_outside hsymbol] at hmem
    obtain ⟨i, hi, rfl⟩ := List.mem_map.mp hmem
    exact hstack i (List.mem_range.mp hi)
  obtain ⟨m, hm, hsaved⟩ := saveStackTo_saved hfault.reportInMemory hreads hfuel
  refine ⟨after, _, hrun, congrArg (Option.map _) hm, h.reported hsymbol hstack hsaved, ?_⟩
  exact (h.sealed hsaved).elsewhere

end EndToEnd

/-- From the first instruction of the fault handler to the last store of its tail: the report
in memory shows the fault and verifies, and no other memory has changed, if neither the word at
the linker symbol nor a word of the stack that is copied lies in the report. -/
theorem fault_reported (fuel : ℕ) (stackEnd deathReportBegin : Address) (before : Machine)
    (hfuel : 129 ≤ fuel) (hfault : AtFault before deathReportBegin)
    (hsymbol : OutsideReport deathReportBegin stackEnd)
    (hstack : ∀ i < min 128 (before.load stackEnd - activeStackPointer before).toNat,
      OutsideReport deathReportBegin (activeStackPointer before + BitVec.ofNat 32 (4 * i))) :
    ∃ after final, execute (labelWord deathReportBegin) faultHandler before =
        some (.faultHandlerTail, after) ∧
      generateDeathReportIn fuel stackEnd deathReportBegin after = some final ∧
      Reported before stackEnd (reportAt final.memory deathReportBegin) ∧
      ∀ a, (∀ j < 632, a ≠ deathReportBegin + BitVec.ofNat 32 j) →
        final.memory a = before.memory a :=
  hfault.reported hfuel hsymbol hstack

/-- The words at and above the stack pointer are copied, the report being far above. -/
theorem fault_reported_hardFault : ∃ after final,
    execute (labelWord 0x20450000#32) faultHandler (hardFault 1) = some (.faultHandlerTail, after) ∧
    generateDeathReportIn 129 0x20400100#32 0x20450000#32 after = some final ∧
    Reported (hardFault 1) 0x20400100#32 (reportAt final.memory 0x20450000#32) ∧
    ∀ a, (∀ j < 632, a ≠ 0x20450000#32 + BitVec.ofNat 32 j) →
      final.memory a = (hardFault 1).memory a := by
  refine fault_reported 129 0x20400100#32 0x20450000#32 (hardFault 1) (Nat.le_refl _)
    (atFault_hardFault 1) (outsideReport_of_below (by decide) (by decide)) fun i hi => ?_
  apply outsideReport_of_below
  · rw [activeStackPointer_hardFault, BitVec.toNat_add, BitVec.toNat_ofNat, BitVec.toNat_ofNat,
      BitVec.toNat_ofNat]
    omega
  · decide

end SamV71Runtime.FaultHandler
