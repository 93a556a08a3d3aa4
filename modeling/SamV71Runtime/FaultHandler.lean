import SamV71Runtime.DeathReport
import SamV71Runtime.Thumb

/-!
# The fault handler

`Fault_Handler` instruction by instruction, up to its branch, and the report that it leaves
in memory. The report begins where the linker puts `DEATH_REPORT_BEGIN`.
-/
namespace SamV71Runtime.FaultHandler
open ByteMemory Thumb
open DeathReportWriter hiding Address

/-- Where word `k` of the report lies, from `exception_id` on. -/
def wordOffset (k : ℕ) : BitVec 32 := BitVec.ofNat 32 (4 + 4 * k)

def exceptionIdOffset : BitVec 32 := wordOffset 0
def r0Offset : BitVec 32 := wordOffset 1
def r1Offset : BitVec 32 := wordOffset 2
def r2Offset : BitVec 32 := wordOffset 3
def r3Offset : BitVec 32 := wordOffset 4
def r4Offset : BitVec 32 := wordOffset 5
def r5Offset : BitVec 32 := wordOffset 6
def r6Offset : BitVec 32 := wordOffset 7
def r7Offset : BitVec 32 := wordOffset 8
def r8Offset : BitVec 32 := wordOffset 9
def r9Offset : BitVec 32 := wordOffset 10
def r10Offset : BitVec 32 := wordOffset 11
def r11Offset : BitVec 32 := wordOffset 12
def r12Offset : BitVec 32 := wordOffset 13
def mspOffset : BitVec 32 := wordOffset 14
def pspOffset : BitVec 32 := wordOffset 15
def lrOffset : BitVec 32 := wordOffset 16
def pcOffset : BitVec 32 := wordOffset 17
def psrOffset : BitVec 32 := wordOffset 18
def primaskOffset : BitVec 32 := wordOffset 19
def faultmaskOffset : BitVec 32 := wordOffset 20
def basepriOffset : BitVec 32 := wordOffset 21
def controlOffset : BitVec 32 := wordOffset 22
def cfsrOffset : BitVec 32 := wordOffset 23
def hfsrOffset : BitVec 32 := wordOffset 24
def mmarOffset : BitVec 32 := wordOffset 25
def bfarOffset : BitVec 32 := wordOffset 26
def spOffset : BitVec 32 := wordOffset 27

/-- The words behind the code. -/
inductive Label where
  | deathReportSectionBegin
  | cfsrAddress
  | wdtCrAddr
  | wdtRstKey

inductive Target where
  | faultHandlerTail

def labelWord (deathReportBegin : Address) : Label → BitVec 32
  | .deathReportSectionBegin => deathReportBegin
  | .cfsrAddress => 0xE000ED28#32
  | .wdtCrAddr => 0x40100250#32
  | .wdtRstKey => 0xA5000001#32

def faultHandler : List (Instruction Label Target) :=
  [.cpsid,
    .tst .lr 4#32,
    .ite,
    .mrs .eq .r3 .msp,
    .mrs .ne .r3 .psp,
    -- the watchdog
    .ldrLabel .r0 .wdtRstKey,
    .ldrLabel .r1 .wdtCrAddr,
    .str .r0 .r1 0#32,
    -- the report
    .ldrLabel .r0 .deathReportSectionBegin,
    .mrs .always .r1 .ipsr,
    .and .r1 .r1 0x3F#32,
    .str .r1 .r0 exceptionIdOffset,
    .ldr .r1 .r3 0#32,
    .str .r1 .r0 r0Offset,
    .ldr .r1 .r3 4#32,
    .str .r1 .r0 r1Offset,
    .ldr .r1 .r3 8#32,
    .str .r1 .r0 r2Offset,
    .ldr .r1 .r3 12#32,
    .str .r1 .r0 r3Offset,
    .str .r4 .r0 r4Offset,
    .str .r5 .r0 r5Offset,
    .str .r6 .r0 r6Offset,
    .str .r7 .r0 r7Offset,
    .str .r8 .r0 r8Offset,
    .str .r9 .r0 r9Offset,
    .str .r10 .r0 r10Offset,
    .str .r11 .r0 r11Offset,
    .ldr .r1 .r3 16#32,
    .str .r1 .r0 r12Offset,
    .mrs .always .r1 .msp,
    .str .r1 .r0 mspOffset,
    .mrs .always .r1 .psp,
    .str .r1 .r0 pspOffset,
    .ldr .r1 .r3 20#32,
    .str .r1 .r0 lrOffset,
    .ldr .r1 .r3 24#32,
    .str .r1 .r0 pcOffset,
    .ldr .r1 .r3 28#32,
    .str .r1 .r0 psrOffset,
    .mrs .always .r1 .primask,
    .str .r1 .r0 primaskOffset,
    .mrs .always .r1 .faultmask,
    .str .r1 .r0 faultmaskOffset,
    .mrs .always .r1 .basepri,
    .str .r1 .r0 basepriOffset,
    .mrs .always .r1 .control,
    .str .r1 .r0 controlOffset,
    .ldrLabel .r1 .cfsrAddress,
    .ldrPost .r2 .r1 4#32,
    .str .r2 .r0 cfsrOffset,
    .ldrPost .r2 .r1 8#32,
    .str .r2 .r0 hfsrOffset,
    .ldrPost .r2 .r1 4#32,
    .str .r2 .r0 mmarOffset,
    .ldr .r2 .r1 0#32,
    .str .r2 .r0 bfarOffset,
    .str .r3 .r0 spOffset,
    .b .faultHandlerTail]

/-- The report as the memory shows it. -/
def reportAt (memory : Memory) (deathReportBegin : Address) : DeathReport :=
  let word := fun k => loadWord memory (deathReportBegin + wordOffset k)
  { checksum := byteAt memory deathReportBegin 1 ++ byteAt memory deathReportBegin 0
    wasSeen := byteAt memory deathReportBegin 2
    padding := byteAt memory deathReportBegin 3
    exceptionId := word 0
    registers :=
      ⟨word 1, word 2, word 3, word 4, word 5, word 6, word 7, word 8, word 9, word 10, word 11,
        word 12, word 13, word 14, word 15, word 16, word 17, word 18, word 19, word 20, word 21,
        word 22⟩
    systemControlBlock := ⟨word 23, word 24, word 25, word 26⟩
    stackTracePointer := word 27
    stackTraceLength := word 28
    stackTrace := fun i => word (29 + i) }

theorem wordOffset_byte (k i : ℕ) :
    wordOffset k + BitVec.ofNat 32 i = BitVec.ofNat 32 (4 + 4 * k + i) :=
  (BitVec.ofNat_add _ _).symm

theorem reportAt_words (memory : Memory) (deathReportBegin : Address) :
    (reportAt memory deathReportBegin).words =
      (List.range 157).map fun k => loadWord memory (deathReportBegin + wordOffset k) := by
  rw [show 157 = 29 + 128 from rfl, List.range_add, List.map_append, List.map_map]
  rfl

theorem wordBytes_loadWord (memory : Memory) (a : Address) :
    wordBytes (loadWord memory a) =
      [byteAt memory a 0, byteAt memory a 1, byteAt memory a 2, byteAt memory a 3] := by
  rw [← byteOf_loadWord memory a (show 0 < 4 by decide),
    ← byteOf_loadWord memory a (show 1 < 4 by decide),
    ← byteOf_loadWord memory a (show 2 < 4 by decide),
    ← byteOf_loadWord memory a (show 3 < 4 by decide)]
  rfl

/-- The bytes that the checksum is taken of are those in memory. -/
theorem reportAt_bytes (memory : Memory) (deathReportBegin : Address) :
    (reportAt memory deathReportBegin).bytes =
      (List.range 632).map (byteAt memory deathReportBegin) := by
  have hword (k : ℕ) : wordBytes (loadWord memory (deathReportBegin + wordOffset k)) =
      [byteAt memory deathReportBegin (4 + 4 * k), byteAt memory deathReportBegin (4 + (4 * k + 1)),
        byteAt memory deathReportBegin (4 + (4 * k + 2)),
        byteAt memory deathReportBegin (4 + (4 * k + 3))] := by
    simp only [wordBytes_loadWord, byteAt, BitVec.add_assoc, wordOffset_byte, Nat.add_assoc,
      Nat.add_zero]
  have hwords : (reportAt memory deathReportBegin).words.flatMap wordBytes =
      (List.range 628).map fun j => byteAt memory deathReportBegin (4 + j) := by
    rw [reportAt_words, List.flatMap_map]
    simp only [hword]
    exact flatMap_range_bytes (fun j => byteAt memory deathReportBegin (4 + j)) 157
  have hchecksum : [(reportAt memory deathReportBegin).checksum.extractLsb' 0 8,
      (reportAt memory deathReportBegin).checksum.extractLsb' 8 8] =
        [byteAt memory deathReportBegin 0, byteAt memory deathReportBegin 1] := by
    rw [reportAt, BitVec.extractLsb'_append_eq_left, BitVec.extractLsb'_append_eq_right]
  rw [DeathReport.bytes, hwords, hchecksum, show 632 = 4 + 628 from rfl, List.range_add,
    List.map_append, List.map_map]
  rfl

section Entry
variable (before : Machine)

/-- The stack that EXC_RETURN designates. -/
def activeStackPointer : Address :=
  if before.general .lr &&& 4#32 = 0 then before.special.msp else before.special.psp

/-- The word of the exception frame at an offset. -/
def stacked (offset : BitVec 32) : BitVec 32 :=
  loadWord before.memory (activeStackPointer before + offset)

/-- The registers of the interrupted program, and the special registers at the handler's entry. -/
def registersAtEntry : Registers where
  r0 := stacked before 0#32
  r1 := stacked before 4#32
  r2 := stacked before 8#32
  r3 := stacked before 12#32
  r4 := before.general .r4
  r5 := before.general .r5
  r6 := before.general .r6
  r7 := before.general .r7
  r8 := before.general .r8
  r9 := before.general .r9
  r10 := before.general .r10
  r11 := before.general .r11
  r12 := stacked before 16#32
  msp := before.special.msp
  psp := before.special.psp
  lr := stacked before 20#32
  pc := stacked before 24#32
  psr := stacked before 28#32
  priMask := before.special.read .primask
  faultMask := before.special.read .faultmask
  basePri := before.special.read .basepri
  control := before.special.read .control

def systemControlBlockAtEntry : SystemControlBlock where
  cfsr := before.device 0xE000ED28#32
  hfsr := before.device 0xE000ED2C#32
  mmar := before.device 0xE000ED34#32
  bfar := before.device 0xE000ED38#32

/-- A fault has been taken: its frame has been stacked, in memory that the report, also in
memory, does not reach. -/
structure AtFault (deathReportBegin : Address) : Prop where
  exception : 3 ≤ before.special.ipsr.toNat ∧ before.special.ipsr.toNat ≤ 6
  frameInMemory : ∀ i < 32, isDevice (activeStackPointer before + BitVec.ofNat 32 i) = false
  reportInMemory : ∀ j < 632, isDevice (deathReportBegin + BitVec.ofNat 32 j) = false
  apart : ∀ i < 32, ∀ j < 632,
    activeStackPointer before + BitVec.ofNat 32 i ≠ deathReportBegin + BitVec.ofNat 32 j

/-- The report shows the state before the fault. -/
structure CapturedState (report : DeathReport) : Prop where
  exceptionId : report.exceptionId = before.special.read .ipsr
  registers : report.registers = registersAtEntry before
  systemControlBlock : report.systemControlBlock = systemControlBlockAtEntry before
  stackTracePointer : report.stackTracePointer = activeStackPointer before

/-- What the handler saves, word by word: interrupts are masked by then. -/
def savedWords : List (BitVec 32) :=
  before.special.read .ipsr :: { registersAtEntry before with priMask := 1 }.words ++
    (systemControlBlockAtEntry before).words ++ [activeStackPointer before]

end Entry

/-- The handler has masked the interrupts and has saved the first `n` words. -/
structure Saving (before : Machine) (deathReportBegin : Address) (n : ℕ) (m : Machine) : Prop where
  r0 : m.general .r0 = deathReportBegin
  r3 : m.general .r3 = activeStackPointer before
  general : ∀ r, r ≠ .r0 → r ≠ .r1 → r ≠ .r2 → r ≠ .r3 → m.general r = before.general r
  special : m.special = { before.special with primask := 1 }
  device : m.device = before.device
  deviceWrites : m.deviceWrites = before.deviceWrites ++ [(0x40100250#32, 0xA5000001#32)]
  saved : ∀ k < n, loadWord m.memory (deathReportBegin + wordOffset k) =
    (savedWords before).getD k 0
  elsewhere : ∀ a, (∀ j < 632, a ≠ deathReportBegin + BitVec.ofNat 32 j) →
    m.memory a = before.memory a

section Blocks
variable {before m : Machine} {deathReportBegin : Address} {n : ℕ}

theorem Saving.set (h : Saving before deathReportBegin n m) {r : Register} (hr : r = .r1 ∨ r = .r2)
    (value : BitVec 32) : Saving before deathReportBegin n (m.set r value) := by
  constructor
  case r0 =>
    rw [m.set_general_of_ne (by rcases hr with rfl | rfl <;> decide)]
    exact h.r0
  case r3 =>
    rw [m.set_general_of_ne (by rcases hr with rfl | rfl <;> decide)]
    exact h.r3
  case general =>
    intro s h0 h1 h2 h3
    rw [m.set_general_of_ne (by rcases hr with rfl | rfl <;> assumption)]
    exact h.general s h0 h1 h2 h3
  case special => exact h.special
  case device => exact h.device
  case deviceWrites => exact h.deviceWrites
  case saved => exact h.saved
  case elsewhere => exact h.elsewhere

theorem apart_wordOffset {k l : ℕ} (hk : k < 28) (hl : l < 28) (hne : k ≠ l) :
    Apart (wordOffset k) (wordOffset l) := by
  apply apart_of_bytes
  intro i hi j hj h
  rw [wordOffset_byte, wordOffset_byte] at h
  have hnat := congrArg BitVec.toNat h
  rw [BitVec.toNat_ofNat, BitVec.toNat_ofNat] at hnat
  omega

theorem Saving.store (h : Saving before deathReportBegin n m) (hfault : AtFault before deathReportBegin)
    {value : BitVec 32} (hvalue : (savedWords before)[n]? = some value) :
    Saving before deathReportBegin (n + 1) (m.store (deathReportBegin + wordOffset n) value) := by
  have hn : n < 28 := (List.getElem?_eq_some_iff.mp hvalue).1
  have hmemory : isDevice (deathReportBegin + wordOffset n) = false :=
    hfault.reportInMemory (4 + 4 * n) (by omega)
  rw [Machine.store, hmemory, if_neg Bool.false_ne_true]
  constructor
  case r0 => exact h.r0
  case r3 => exact h.r3
  case general => exact h.general
  case special => exact h.special
  case device => exact h.device
  case deviceWrites => exact h.deviceWrites
  case saved =>
    intro k hk
    rcases Nat.lt_succ_iff_lt_or_eq.mp hk with hk | rfl
    · have hapart := apart_wordOffset hn (Nat.lt_trans hk hn) (Nat.ne_of_gt hk)
      rw [loadWord_storeWord_of_apart m.memory value ((apart_add_left _ _ _).mpr hapart)]
      exact h.saved k hk
    · rw [loadWord_storeWord, List.getD_eq_getElem?_getD, hvalue, Option.getD_some]
  case elsewhere =>
    intro a ha
    have hfar : 4 ≤ (a - (deathReportBegin + wordOffset n)).toNat := by
      by_contra hlt
      refine ha (4 + 4 * n + (a - (deathReportBegin + wordOffset n)).toNat) (by omega) ?_
      rw [← wordOffset_byte, ← BitVec.add_assoc, add_offset]
    exact (storeWord_of_le m.memory value hfar).trans (h.elsewhere a ha)

/-- A word of the frame is read from memory as it was stacked. -/
theorem Saving.load_frame (h : Saving before deathReportBegin n m)
    (hfault : AtFault before deathReportBegin) {k : ℕ} (hk : k < 8) :
    m.load (m.general .r3 + BitVec.ofNat 32 (4 * k)) = stacked before (BitVec.ofNat 32 (4 * k)) := by
  rw [h.r3, Machine.load, hfault.frameInMemory (4 * k) (by omega), if_neg Bool.false_ne_true, stacked]
  apply loadWord_congr
  intro i hi
  apply h.elsewhere
  intro j hj
  rw [BitVec.add_assoc, ← BitVec.ofNat_add]
  exact hfault.apart (4 * k + i) (by omega) j hj

theorem Saving.load_device (h : Saving before deathReportBegin n m) {address : Address}
    (hdevice : isDevice address = true) : m.load address = before.device address := by
  rw [Machine.load, if_pos hdevice, h.device]

section Rules
variable {rest : List (Instruction Label Target)} {Q : Target → Machine → Prop}
  {offset : BitVec 32}

/-- A register that the handler has not changed is saved. -/
theorem ends_saveGeneral (h : Saving before deathReportBegin n m)
    (hfault : AtFault before deathReportBegin) {r : Register}
    (hvalue : (savedWords before)[n]? = some (m.general r)) (hoffset : offset = wordOffset n)
    (next : ∀ m', Saving before deathReportBegin (n + 1) m' → m'.general = m.general →
      Ends (labelWord deathReportBegin) rest m' Q) :
    Ends (labelWord deathReportBegin) (.str r .r0 offset :: rest) m Q := by
  refine Ends.str (next _ ?_ (m.store_general _ _))
  rw [h.r0, hoffset]
  exact h.store hfault hvalue

theorem ends_saveKept (h : Saving before deathReportBegin n m)
    (hfault : AtFault before deathReportBegin) {r : Register}
    (hr : r ≠ .r0 ∧ r ≠ .r1 ∧ r ≠ .r2 ∧ r ≠ .r3)
    (hvalue : (savedWords before)[n]? = some (before.general r)) (hoffset : offset = wordOffset n)
    (next : ∀ m', Saving before deathReportBegin (n + 1) m' →
      Ends (labelWord deathReportBegin) rest m' Q) :
    Ends (labelWord deathReportBegin) (.str r .r0 offset :: rest) m Q := by
  refine ends_saveGeneral h hfault ?_ hoffset fun m' hm' _ => next m' hm'
  rw [hvalue, h.general r hr.1 hr.2.1 hr.2.2.1 hr.2.2.2]

/-- A value goes through `r1` or `r2` into the report. -/
theorem ends_saveValue (h : Saving before deathReportBegin n m)
    (hfault : AtFault before deathReportBegin) {r : Register}
    (hr : r = .r1 ∨ r = .r2) {value : BitVec 32} (hvalue : (savedWords before)[n]? = some value)
    (hoffset : offset = wordOffset n)
    (next : ∀ m', Saving before deathReportBegin (n + 1) m' →
      m'.general = (m.set r value).general → Ends (labelWord deathReportBegin) rest m' Q) :
    Ends (labelWord deathReportBegin) (.str r .r0 offset :: rest) (m.set r value) Q := by
  refine ends_saveGeneral (h.set hr value) hfault ?_ hoffset next
  rw [Machine.set_general_self, hvalue]

theorem ends_saveFrame (h : Saving before deathReportBegin n m)
    (hfault : AtFault before deathReportBegin) {k : ℕ} (hk : k < 8)
    {source : BitVec 32} (hsource : source = BitVec.ofNat 32 (4 * k))
    (hvalue : (savedWords before)[n]? = some (stacked before source))
    (hoffset : offset = wordOffset n)
    (next : ∀ m', Saving before deathReportBegin (n + 1) m' →
      Ends (labelWord deathReportBegin) rest m' Q) :
    Ends (labelWord deathReportBegin) (.ldr .r1 .r3 source :: .str .r1 .r0 offset :: rest) m Q := by
  apply Ends.ldr
  rw [hsource, h.load_frame hfault hk, ← hsource]
  exact ends_saveValue h hfault (Or.inl rfl) hvalue hoffset fun m' hm' _ => next m' hm'

theorem ends_saveSpecial (h : Saving before deathReportBegin n m)
    (hfault : AtFault before deathReportBegin) {special : Special}
    (hvalue : (savedWords before)[n]? =
      some (SpecialRegisters.read { before.special with primask := 1 } special))
    (hoffset : offset = wordOffset n)
    (next : ∀ m', Saving before deathReportBegin (n + 1) m' →
      Ends (labelWord deathReportBegin) rest m' Q) :
    Ends (labelWord deathReportBegin) (.mrs .always .r1 special :: .str .r1 .r0 offset :: rest) m
      Q := by
  apply Ends.mrs
  rw [h.special]
  exact ends_saveValue h hfault (Or.inl rfl) hvalue hoffset fun m' hm' _ => next m' hm'

/-- A register of the system control block is saved, and `r1` goes on to another one. -/
theorem ends_saveDevice (h : Saving before deathReportBegin n m)
    (hfault : AtFault before deathReportBegin) {address increment : BitVec 32}
    (haddress : m.general .r1 = address) (hdevice : isDevice address = true)
    (hvalue : (savedWords before)[n]? = some (before.device address))
    (hoffset : offset = wordOffset n)
    (next : ∀ m', Saving before deathReportBegin (n + 1) m' →
      m'.general .r1 = address + increment → Ends (labelWord deathReportBegin) rest m' Q) :
    Ends (labelWord deathReportBegin) (.ldrPost .r2 .r1 increment :: .str .r2 .r0 offset :: rest) m
      Q := by
  apply Ends.ldrPost
  rw [haddress, h.load_device hdevice]
  have hmoved := h.set (Or.inl rfl) (address + increment)
  apply ends_saveValue hmoved hfault (Or.inr rfl) hvalue hoffset
  intro m' hm' hgeneral
  apply next m' hm'
  rw [hgeneral, Machine.set_general_of_ne _ (by decide), Machine.set_general_self]

/-- The exception number is masked with all of its bits. -/
theorem ends_saveException (h : Saving before deathReportBegin 0 m)
    (hfault : AtFault before deathReportBegin)
    (next : ∀ m', Saving before deathReportBegin 1 m' → Ends (labelWord deathReportBegin) rest m' Q) :
    Ends (labelWord deathReportBegin)
      (.mrs .always .r1 .ipsr :: .and .r1 .r1 0x3F#32 :: .str .r1 .r0 exceptionIdOffset :: rest) m
      Q := by
  refine Ends.mrs (Ends.and ?_)
  rw [Machine.set_general_self, h.special]
  have hnumber : before.special.ipsr.setWidth 32 &&& 0x3F#32 = before.special.ipsr.setWidth 32 := by
    have hlarge := hfault.exception.2
    apply BitVec.eq_of_toNat_eq
    rw [BitVec.toNat_and, BitVec.toNat_setWidth, BitVec.toNat_ofNat,
      show 0x3F % 2 ^ 32 = 2 ^ 6 - 1 from rfl, Nat.and_two_pow_sub_one_eq_mod]
    omega
  refine ends_saveValue (h.set (Or.inl rfl) _) hfault (Or.inl rfl) ?_ rfl
    fun m' hm' _ => next m' hm'
  exact congrArg some hnumber.symm

/-- The stack is chosen with interrupts masked, and the watchdog is restarted. -/
theorem ends_prologue
    (next : ∀ m, Saving before deathReportBegin 0 m → Ends (labelWord deathReportBegin) rest m Q) :
    Ends (labelWord deathReportBegin)
      (.cpsid :: .tst .lr 4#32 :: .ite :: .mrs .eq .r3 .msp :: .mrs .ne .r3 .psp ::
        .ldrLabel .r0 .wdtRstKey :: .ldrLabel .r1 .wdtCrAddr :: .str .r0 .r1 0#32 ::
        .ldrLabel .r0 .deathReportSectionBegin :: rest) before Q := by
  refine Ends.cpsid (Ends.tst (Ends.ite (Ends.mrs_eq_ne (Ends.ldrLabel (Ends.ldrLabel
    (Ends.str (Ends.ldrLabel (next _ ?_))))))))
  have hstack : SpecialRegisters.read { before.special with primask := 1 }
      (if decide (before.general .lr &&& 4#32 = 0) then .msp else .psp) =
        activeStackPointer before := by
    by_cases hlr : before.general .lr &&& 4#32 = 0#32 <;>
      simp [activeStackPointer, hlr, SpecialRegisters.read]
  constructor
  case r0 => rfl
  case r3 => exact hstack
  case general =>
    intro r h0 h1 h2 h3
    simp [Machine.set_general_of_ne, h0, h1, h3]
  case special => rfl
  case device => rfl
  case deviceWrites => rfl
  case saved => exact fun k hk => absurd hk (Nat.not_lt_zero k)
  case elsewhere => exact fun a _ => rfl

end Rules

end Blocks

/-- The handler reaches its tail, with the words saved. -/
theorem faultHandler_ends {before : Machine} {deathReportBegin : Address}
    (hfault : AtFault before deathReportBegin) :
    Ends (labelWord deathReportBegin) faultHandler before fun target after =>
      target = .faultHandlerTail ∧ Saving before deathReportBegin 28 after := by
  refine ends_prologue fun _ h => ends_saveException h hfault fun _ h => ?_
  refine ends_saveFrame (k := 0) h hfault (by decide) rfl rfl rfl fun _ h => ?_
  refine ends_saveFrame (k := 1) h hfault (by decide) rfl rfl rfl fun _ h => ?_
  refine ends_saveFrame (k := 2) h hfault (by decide) rfl rfl rfl fun _ h => ?_
  refine ends_saveFrame (k := 3) h hfault (by decide) rfl rfl rfl fun _ h => ?_
  refine ends_saveKept h hfault (by decide) rfl rfl fun _ h => ?_
  refine ends_saveKept h hfault (by decide) rfl rfl fun _ h => ?_
  refine ends_saveKept h hfault (by decide) rfl rfl fun _ h => ?_
  refine ends_saveKept h hfault (by decide) rfl rfl fun _ h => ?_
  refine ends_saveKept h hfault (by decide) rfl rfl fun _ h => ?_
  refine ends_saveKept h hfault (by decide) rfl rfl fun _ h => ?_
  refine ends_saveKept h hfault (by decide) rfl rfl fun _ h => ?_
  refine ends_saveKept h hfault (by decide) rfl rfl fun _ h => ?_
  refine ends_saveFrame (k := 4) h hfault (by decide) rfl rfl rfl fun _ h => ?_
  refine ends_saveSpecial h hfault rfl rfl fun _ h => ?_
  refine ends_saveSpecial h hfault rfl rfl fun _ h => ?_
  refine ends_saveFrame (k := 5) h hfault (by decide) rfl rfl rfl fun _ h => ?_
  refine ends_saveFrame (k := 6) h hfault (by decide) rfl rfl rfl fun _ h => ?_
  refine ends_saveFrame (k := 7) h hfault (by decide) rfl rfl rfl fun _ h => ?_
  refine ends_saveSpecial h hfault rfl rfl fun _ h => ?_
  refine ends_saveSpecial h hfault rfl rfl fun _ h => ?_
  refine ends_saveSpecial h hfault rfl rfl fun _ h => ?_
  refine ends_saveSpecial h hfault rfl rfl fun m h => ?_
  refine Ends.ldrLabel ?_
  have haddress := m.set_general_self .r1 0xE000ED28#32
  refine ends_saveDevice (h.set (Or.inl rfl) _) hfault haddress rfl rfl rfl
    fun _ h haddress => ?_
  refine ends_saveDevice h hfault haddress rfl rfl rfl fun _ h haddress => ?_
  refine ends_saveDevice h hfault haddress rfl rfl rfl fun _ h haddress => ?_
  refine Ends.ldr ?_
  rw [haddress, h.load_device rfl]
  refine ends_saveValue h hfault (Or.inr rfl) rfl rfl fun _ h _ => ?_
  refine ends_saveGeneral h hfault (congrArg some h.r3.symm) rfl fun _ h _ => ?_
  exact Ends.b ⟨rfl, h⟩

section Captured
variable {before after : Machine} {deathReportBegin : Address}

/-- Whatever PRIMASK was, the report shows 1. -/
theorem Saving.registers (h : Saving before deathReportBegin 28 after) :
    (reportAt after.memory deathReportBegin).registers =
      { registersAtEntry before with priMask := 1 } := by
  simp (disch := decide) only [reportAt, h.saved]
  rfl

theorem one_eq_setWidth_iff : ∀ primask : BitVec 1, 1#32 = primask.setWidth 32 ↔ primask = 1 := by
  decide

theorem capturedState_iff_primask (h : Saving before deathReportBegin 28 after) :
    CapturedState before (reportAt after.memory deathReportBegin) ↔
      before.special.primask = 1 := by
  constructor
  · intro hcaptured
    have hshown := congrArg Registers.priMask (h.registers.symm.trans hcaptured.registers)
    exact (one_eq_setWidth_iff _).mp hshown
  · intro hmasked
    constructor
    case exceptionId => exact h.saved 0 (by decide)
    case registers =>
      exact h.registers.trans (congrArg (fun priMask => { registersAtEntry before with priMask })
        ((one_eq_setWidth_iff _).mpr hmasked))
    case systemControlBlock =>
      simp (disch := decide) only [reportAt, h.saved]
      rfl
    case stackTracePointer => exact h.saved 27 (by decide)

end Captured

/-- The handler reaches its tail, and has captured the state before the fault just when
interrupts were masked then: it masks them before it saves PRIMASK. -/
theorem capturedState_iff (before : Machine) (deathReportBegin : Address)
    (hfault : AtFault before deathReportBegin) :
    ∃ after, execute (labelWord deathReportBegin) faultHandler before =
        some (.faultHandlerTail, after) ∧
      (CapturedState before (reportAt after.memory deathReportBegin) ↔
        before.special.primask = 1) := by
  obtain ⟨target, after, hrun, rfl, h⟩ := faultHandler_ends hfault
  exact ⟨after, hrun, capturedState_iff_primask h⟩

/-- A hard fault of a thread on the main stack. A byte of the memory shows the low byte of its
address, a register of the system control block shows its offset there. -/
def hardFault (primask : BitVec 1) : Machine where
  general
    | .r0 => 0xA0#32
    | .r1 => 0xA1#32
    | .r2 => 0xA2#32
    | .r3 => 0xA3#32
    | .r4 => 0xA4#32
    | .r5 => 0xA5#32
    | .r6 => 0xA6#32
    | .r7 => 0xA7#32
    | .r8 => 0xA8#32
    | .r9 => 0xA9#32
    | .r10 => 0xAA#32
    | .r11 => 0xAB#32
    | .r12 => 0xAC#32
    -- the value that returns to the thread
    | .lr => 0xFFFFFFF9#32
  special := ⟨3, 0x20400010, 0x20410000, primask, 0, 0x20, 0⟩
  zero := false
  memory address := address.setWidth 8
  device address := address - 0xE000ED00#32
  deviceWrites := []

theorem activeStackPointer_hardFault (primask : BitVec 1) :
    activeStackPointer (hardFault primask) = 0x20400010#32 :=
  if_pos (show 0xFFFFFFF9#32 &&& 4#32 = 0#32 from rfl)

theorem atFault_hardFault (primask : BitVec 1) : AtFault (hardFault primask) 0x20450000#32 := by
  have hframe (i : ℕ) (hi : i < 32) :
      (activeStackPointer (hardFault primask) + BitVec.ofNat 32 i).toNat = 0x20400010 + i := by
    rw [activeStackPointer_hardFault, BitVec.toNat_add, BitVec.toNat_ofNat, BitVec.toNat_ofNat]
    omega
  have hreport (j : ℕ) (hj : j < 632) :
      (0x20450000#32 + BitVec.ofNat 32 j).toNat = 0x20450000 + j := by
    rw [BitVec.toNat_add, BitVec.toNat_ofNat, BitVec.toNat_ofNat]
    omega
  constructor
  case exception => exact ⟨Nat.le_refl 3, (by decide : 3 ≤ 6)⟩
  case frameInMemory =>
    intro i hi
    apply isDevice_of_lt
    rw [hframe i hi]
    omega
  case reportInMemory =>
    intro j hj
    apply isDevice_of_lt
    rw [hreport j hj]
    omega
  case apart =>
    intro i hi j hj h
    have hnat := congrArg BitVec.toNat h
    rw [hframe i hi, hreport j hj] at hnat
    omega

theorem capturedState_of_masked :
    registersAtEntry (hardFault 1) = {
      r0 := 0x13121110#32
      r1 := 0x17161514#32
      r2 := 0x1B1A1918#32
      r3 := 0x1F1E1D1C#32
      r4 := 0xA4#32
      r5 := 0xA5#32
      r6 := 0xA6#32
      r7 := 0xA7#32
      r8 := 0xA8#32
      r9 := 0xA9#32
      r10 := 0xAA#32
      r11 := 0xAB#32
      r12 := 0x23222120#32
      msp := 0x20400010#32
      psp := 0x20410000#32
      lr := 0x27262524#32
      pc := 0x2B2A2928#32
      psr := 0x2F2E2D2C#32
      priMask := 1#32
      faultMask := 0#32
      basePri := 0x20#32
      control := 0#32 } ∧
    ∃ after, execute (labelWord 0x20450000#32) faultHandler (hardFault 1) =
        some (.faultHandlerTail, after) ∧
      CapturedState (hardFault 1) (reportAt after.memory 0x20450000#32) := by
  obtain ⟨after, hrun, hcaptured⟩ :=
    capturedState_iff (hardFault 1) 0x20450000#32 (atFault_hardFault 1)
  exact ⟨rfl, after, hrun, hcaptured.mpr rfl⟩

/-- Interrupts were not masked before the fault, and the report says that they were. -/
theorem not_capturedState_of_unmasked :
    AtFault (hardFault 0) 0x20450000#32 ∧
    ∃ after, execute (labelWord 0x20450000#32) faultHandler (hardFault 0) =
        some (.faultHandlerTail, after) ∧
      (reportAt after.memory 0x20450000#32).registers.priMask = 1 ∧
      ¬ CapturedState (hardFault 0) (reportAt after.memory 0x20450000#32) := by
  obtain ⟨target, after, hrun, rfl, h⟩ := faultHandler_ends (atFault_hardFault 0)
  refine ⟨atFault_hardFault 0, after, hrun, congrArg Registers.priMask h.registers, fun hcaptured => ?_⟩
  exact absurd ((capturedState_iff_primask h).mp hcaptured) (by decide)

end SamV71Runtime.FaultHandler
