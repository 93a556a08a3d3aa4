import SamV71Runtime.Crc

/-!
# The death report

`DeathReportWriter_GenerateDeathReport` on a report that the fault handler has filled
in. Memory outside the report is a function from addresses to the words there; the
copied stack words are not part of the report. The trace is the memory from
`stack_trace` on, of which the first `DEATH_REPORT_STACK_TRACE_SIZE` words are the report's.
-/
namespace SamV71Runtime.DeathReportWriter
open Polynomial

abbrev Address := BitVec 32

def deathReportStackTraceSize : BitVec 32 := 128#32

structure Registers where
  r0 : BitVec 32
  r1 : BitVec 32
  r2 : BitVec 32
  r3 : BitVec 32
  r4 : BitVec 32
  r5 : BitVec 32
  r6 : BitVec 32
  r7 : BitVec 32
  r8 : BitVec 32
  r9 : BitVec 32
  r10 : BitVec 32
  r11 : BitVec 32
  r12 : BitVec 32
  msp : BitVec 32
  psp : BitVec 32
  lr : BitVec 32
  pc : BitVec 32
  psr : BitVec 32
  priMask : BitVec 32
  faultMask : BitVec 32
  basePri : BitVec 32
  control : BitVec 32

structure SystemControlBlock where
  cfsr : BitVec 32
  hfsr : BitVec 32
  mmar : BitVec 32
  bfar : BitVec 32

/-- `wasSeen` is the byte of a `bool`. -/
structure DeathReport where
  checksum : BitVec 16
  wasSeen : BitVec 8
  padding : BitVec 8
  exceptionId : BitVec 32
  registers : Registers
  systemControlBlock : SystemControlBlock
  stackTracePointer : Address
  stackTraceLength : BitVec 32
  stackTrace : ℕ → BitVec 32

def Registers.words (r : Registers) : List (BitVec 32) :=
  [r.r0, r.r1, r.r2, r.r3, r.r4, r.r5, r.r6, r.r7, r.r8, r.r9, r.r10, r.r11, r.r12, r.msp, r.psp,
    r.lr, r.pc, r.psr, r.priMask, r.faultMask, r.basePri, r.control]

def SystemControlBlock.words (b : SystemControlBlock) : List (BitVec 32) :=
  [b.cfsr, b.hfsr, b.mmar, b.bfar]

/-- Little-endian. -/
def wordBytes (x : BitVec 32) : List (BitVec 8) :=
  [x.extractLsb' 0 8, x.extractLsb' 8 8, x.extractLsb' 16 8, x.extractLsb' 24 8]

def DeathReport.words (report : DeathReport) : List (BitVec 32) :=
  report.exceptionId :: report.registers.words ++ report.systemControlBlock.words ++
    [report.stackTracePointer, report.stackTraceLength] ++
    (List.range deathReportStackTraceSize.toNat).map report.stackTrace

/-- The report as it lies in memory. -/
def DeathReport.bytes (report : DeathReport) : List (BitVec 8) :=
  [report.checksum.extractLsb' 0 8, report.checksum.extractLsb' 8 8] ++
    [report.wasSeen, report.padding] ++ report.words.flatMap wordBytes

/-- The loop over `stack_trace`, up to the index `length`, and the words it reads. -/
def copyStack (memory : Address → BitVec 32) (stack : Address) (stackTrace : ℕ → BitVec 32) :
    ℕ → (ℕ → BitVec 32) × List Address
  | 0 => (stackTrace, [])
  | i + 1 =>
      let copied := copyStack memory stack stackTrace i
      let address := stack + BitVec.ofNat 32 (4 * i)
      (Function.update copied.1 i (memory address), copied.2 ++ [address])

/-- A report after `save_stack`, with the addresses of the words that were read: of the
linker symbol, and through the stack trace pointer. -/
structure SavedStack where
  report : DeathReport
  symbolReads : List Address
  stackReads : List Address

/-- `bsp_section_rtemsstack_end` is declared as a variable, so that its value is the word
at the end address of the stack section. -/
def saveStack (memory : Address → BitVec 32) (bspSectionRtemsstackEnd : Address)
    (report : DeathReport) : SavedStack :=
  let distance := memory bspSectionRtemsstackEnd - report.stackTracePointer
  let stackTraceLength :=
    if distance < deathReportStackTraceSize then distance else deathReportStackTraceSize
  let symbolReads :=
    if distance < deathReportStackTraceSize then [bspSectionRtemsstackEnd, bspSectionRtemsstackEnd]
    else [bspSectionRtemsstackEnd]
  let copied := copyStack memory report.stackTracePointer report.stackTrace stackTraceLength.toNat
  ⟨{ report with stackTraceLength, stackTrace := copied.1 }, symbolReads, copied.2⟩

def crcInitialValue : BitVec 16 := 0xFFFF#16

def crcPolynomial : BitVec 16 := 0x1021#16

def crcMostSignificantBit : BitVec 16 := 0x8000#16

def crcShift (crc : BitVec 16) : BitVec 16 :=
  if crc &&& crcMostSignificantBit ≠ 0 then crc <<< 1 ^^^ crcPolynomial else crc <<< 1

/-- The body of the loop over the bytes. -/
def crcByte (crc : BitVec 16) (byte : BitVec 8) : BitVec 16 :=
  crcShift^[8] (crc ^^^ byte.setWidth 16 <<< 8)

def calculateCrc (data : List (BitVec 8)) : BitVec 16 := data.foldl crcByte crcInitialValue

def sizeofUint16 : ℕ := 2

def calculateReportCrc (report : DeathReport) : BitVec 16 :=
  calculateCrc (report.bytes.drop sizeofUint16)

def generateDeathReport (memory : Address → BitVec 32) (bspSectionRtemsstackEnd : Address)
    (report : DeathReport) : Bool × DeathReport :=
  let report := (saveStack memory bspSectionRtemsstackEnd report).report
  let report := { report with padding := 0#8 }
  let report := { report with wasSeen := 0#8 }
  (true, { report with checksum := calculateReportCrc report })

example : calculateCrc [0x31#8, 0x32#8, 0x33#8, 0x34#8, 0x35#8, 0x36#8, 0x37#8, 0x38#8, 0x39#8] =
    0x29B1#16 := by decide +kernel

section Checksum

theorem crcShift_eq (crc : BitVec 16) : crcShift crc = Crc.shift crcPolynomial crc := by
  have hbit : crc &&& crcMostSignificantBit = if crc.msb then crcMostSignificantBit else 0 := by
    rw [BitVec.msb_eq_getLsbD_last]
    exact BitVec.and_twoPow crc 15
  rw [crcShift, hbit, Crc.shift]
  cases crc.msb with
  | true => rfl
  | false => rfl

theorem calculateCrc_eq (data : List (BitVec 8)) :
    calculateCrc data = Crc.register crcPolynomial crcInitialValue data := by
  have hbyte : crcByte = Crc.absorb crcPolynomial := by
    funext crc byte
    have hshift : crcShift = Crc.shift crcPolynomial := funext crcShift_eq
    rw [crcByte, hshift, Crc.absorb]
  rw [calculateCrc, hbyte, Crc.register]

theorem generator_eq : Crc.generator crcPolynomial = X ^ 16 + X ^ 12 + X ^ 5 + 1 := by
  have hpoly : Crc.toPoly crcPolynomial = X ^ 12 + X ^ 5 + 1 := by
    have hbits : crcPolynomial =
        BitVec.twoPow 16 12 ^^^ BitVec.twoPow 16 5 ^^^ BitVec.twoPow 16 0 := by decide
    rw [hbits, Crc.toPoly_xor, Crc.toPoly_xor, Crc.toPoly_twoPow (by decide),
      Crc.toPoly_twoPow (by decide), Crc.toPoly_twoPow (by decide), pow_zero]
  rw [Crc.generator, hpoly]
  ring

/-- A message with its first 16 bits complemented. -/
def complementFirst : List (BitVec 8) → List (BitVec 8)
  | a :: b :: rest => ~~~a :: ~~~b :: rest
  | short => short

/-- The remainder that defines the checksum of a message. -/
noncomputable def referenceCrc (bytes : List (BitVec 8)) : (ZMod 2)[X] :=
  (Crc.messagePoly (complementFirst bytes) * X ^ 16) %ₘ (X ^ 16 + X ^ 12 + X ^ 5 + 1)

theorem messagePoly_pair (a b : BitVec 8) :
    Crc.messagePoly [a, b] = Crc.toPoly a * X ^ 8 + Crc.toPoly b := by
  simp [Crc.messagePoly]

/-- Complementing the first 16 bits adds a word of ones ahead of the message. -/
theorem messagePoly_complementFirst (a b : BitVec 8) (rest : List (BitVec 8)) :
    Crc.messagePoly (complementFirst (a :: b :: rest)) =
      X ^ (8 * rest.length) * Crc.toPoly crcInitialValue + Crc.messagePoly (a :: b :: rest) := by
  have hones : Crc.toPoly crcInitialValue =
      Crc.toPoly (0xFF#8) * X ^ 8 + Crc.toPoly (0xFF#8) := by
    rw [← Crc.toPoly_append]
    rfl
  have hnot (x : BitVec 8) : Crc.toPoly (~~~x) = Crc.toPoly x + Crc.toPoly (0xFF#8) := by
    rw [← Crc.toPoly_xor]
    exact congrArg Crc.toPoly BitVec.xor_allOnes.symm
  have hsplit (x y : BitVec 8) : Crc.messagePoly (x :: y :: rest) =
      Crc.messagePoly [x, y] * X ^ (8 * rest.length) + Crc.messagePoly rest :=
    Crc.messagePoly_append [x, y] rest
  rw [complementFirst, hsplit, hsplit a b, messagePoly_pair, messagePoly_pair, hnot, hnot, hones]
  ring

theorem toPoly_calculateCrc (bytes : List (BitVec 8)) (hlength : 2 ≤ bytes.length) :
    Crc.toPoly (calculateCrc bytes) = referenceCrc bytes := by
  match bytes, hlength with
  | a :: b :: rest, _ =>
      rw [calculateCrc_eq, Crc.toPoly_register _ (by decide), generator_eq, referenceCrc,
        messagePoly_complementFirst]
      congr 1
      simp only [List.length_cons]
      ring

end Checksum

section Stack
variable (memory : Address → BitVec 32) (stack : Address) (stackTrace : ℕ → BitVec 32)

theorem copyStack_of_le {length i : ℕ} (hi : length ≤ i) :
    (copyStack memory stack stackTrace length).1 i = stackTrace i := by
  induction length with
  | zero => rfl
  | succ length ih => exact (Function.update_of_ne (by omega) ..).trans (ih (by omega))

theorem copyStack_of_lt {length i : ℕ} (hi : i < length) :
    (copyStack memory stack stackTrace length).1 i = memory (stack + BitVec.ofNat 32 (4 * i)) := by
  induction length with
  | zero => exact absurd hi (Nat.not_lt_zero i)
  | succ length ih =>
      by_cases hlast : i = length
      · rw [hlast]
        exact Function.update_self ..
      · exact (Function.update_of_ne hlast ..).trans (ih (by omega))

theorem copyStack_reads (length : ℕ) :
    (copyStack memory stack stackTrace length).2 =
      (List.range length).map fun i => stack + BitVec.ofNat 32 (4 * i) := by
  induction length with
  | zero => rfl
  | succ length ih => rw [copyStack, ih, List.range_succ, List.map_append, List.map_singleton]

variable (bspSectionRtemsstackEnd : Address) (report : DeathReport)

/-- The length that is stored: a distance in bytes, counted as words, up to the size of the trace. -/
theorem saveStack_length :
    (saveStack memory bspSectionRtemsstackEnd report).report.stackTraceLength.toNat =
      min 128 (memory bspSectionRtemsstackEnd - report.stackTracePointer).toNat := by
  have hsize : deathReportStackTraceSize.toNat = 128 := rfl
  dsimp only [saveStack]
  split
  · rename_i hless
    rw [BitVec.lt_def, hsize] at hless
    omega
  · rename_i hless
    rw [BitVec.lt_def, hsize] at hless
    rw [hsize]
    omega

theorem saveStack_copied {i : ℕ}
    (hi : i < (saveStack memory bspSectionRtemsstackEnd report).report.stackTraceLength.toNat) :
    (saveStack memory bspSectionRtemsstackEnd report).report.stackTrace i =
      memory (report.stackTracePointer + BitVec.ofNat 32 (4 * i)) :=
  copyStack_of_lt _ _ _ hi

theorem saveStack_reads :
    (saveStack memory bspSectionRtemsstackEnd report).stackReads =
      (List.range (saveStack memory bspSectionRtemsstackEnd report).report.stackTraceLength.toNat).map
        fun i => report.stackTracePointer + BitVec.ofNat 32 (4 * i) :=
  copyStack_reads ..

/-- What `save_stack` does not write. -/
theorem saveStack_frame :
    (saveStack memory bspSectionRtemsstackEnd report).report.exceptionId = report.exceptionId ∧
    (saveStack memory bspSectionRtemsstackEnd report).report.registers = report.registers ∧
    (saveStack memory bspSectionRtemsstackEnd report).report.systemControlBlock =
      report.systemControlBlock ∧
    (saveStack memory bspSectionRtemsstackEnd report).report.stackTracePointer =
      report.stackTracePointer ∧
    ∀ i, (saveStack memory bspSectionRtemsstackEnd report).report.stackTraceLength.toNat ≤ i →
      (saveStack memory bspSectionRtemsstackEnd report).report.stackTrace i = report.stackTrace i := by
  unfold saveStack
  exact ⟨rfl, rfl, rfl, rfl, fun i hi => copyStack_of_le _ _ _ hi⟩

/-- The word of the linker symbol is read, for every report. -/
theorem mem_symbolReads :
    bspSectionRtemsstackEnd ∈ (saveStack memory bspSectionRtemsstackEnd report).symbolReads := by
  dsimp only [saveStack]
  split
  · exact List.mem_cons_self
  · exact List.mem_cons_self

end Stack

theorem length_flatMap_wordBytes (words : List (BitVec 32)) :
    (words.flatMap wordBytes).length = 4 * words.length := by
  induction words with
  | nil => rfl
  | cons x words ih =>
      rw [List.flatMap_cons, List.length_append, ih, List.length_cons]
      change 4 + 4 * words.length = _
      omega

/-- The size of the packed structure. -/
theorem length_bytes (report : DeathReport) : report.bytes.length = 632 := by
  have hwords : report.words.length = 157 := by
    simp [DeathReport.words, Registers.words, SystemControlBlock.words, deathReportStackTraceSize]
  rw [DeathReport.bytes, List.length_append, List.length_append, length_flatMap_wordBytes, hwords]
  rfl

/-- What a generated report has in common with the one it was generated from, and what
it carries besides. -/
structure GeneratedFrom (before after : DeathReport) : Prop where
  checksum : Crc.toPoly after.checksum = referenceCrc (after.bytes.drop sizeofUint16)
  wasSeen : after.wasSeen = 0
  padding : after.padding = 0
  stackTraceLength : after.stackTraceLength.toNat ≤ deathReportStackTraceSize.toNat
  exceptionId : after.exceptionId = before.exceptionId
  registers : after.registers = before.registers
  systemControlBlock : after.systemControlBlock = before.systemControlBlock
  stackTracePointer : after.stackTracePointer = before.stackTracePointer
  stackTrace : ∀ i, after.stackTraceLength.toNat ≤ i → after.stackTrace i = before.stackTrace i

theorem bytes_withChecksum (report : DeathReport) (checksum : BitVec 16) :
    ({ report with checksum } : DeathReport).bytes.drop sizeofUint16 =
      report.bytes.drop sizeofUint16 := rfl

theorem calculateReportCrc_verifies (report : DeathReport) :
    Crc.toPoly (calculateReportCrc report) = referenceCrc (report.bytes.drop sizeofUint16) := by
  apply toPoly_calculateCrc
  rw [List.length_drop, length_bytes]
  decide

/-- The checksum is stored last, and outside of the bytes it covers. -/
theorem GeneratedFrom.withChecksum {before after : DeathReport} (hwasSeen : after.wasSeen = 0)
    (hpadding : after.padding = 0)
    (hlength : after.stackTraceLength.toNat ≤ deathReportStackTraceSize.toNat)
    (hexception : after.exceptionId = before.exceptionId)
    (hregisters : after.registers = before.registers)
    (hsystem : after.systemControlBlock = before.systemControlBlock)
    (hpointer : after.stackTracePointer = before.stackTracePointer)
    (htrace : ∀ i, after.stackTraceLength.toNat ≤ i → after.stackTrace i = before.stackTrace i) :
    GeneratedFrom before { after with checksum := calculateReportCrc after } where
  checksum := by
    rw [bytes_withChecksum after, ← calculateReportCrc_verifies after]
  wasSeen := hwasSeen
  padding := hpadding
  stackTraceLength := hlength
  exceptionId := hexception
  registers := hregisters
  systemControlBlock := hsystem
  stackTracePointer := hpointer
  stackTrace := htrace

/-- A generated report verifies against the reference, and keeps what was captured. -/
theorem generateDeathReport_generatedFrom (memory : Address → BitVec 32)
    (bspSectionRtemsstackEnd : Address) (report : DeathReport) :
    GeneratedFrom report (generateDeathReport memory bspSectionRtemsstackEnd report).2 := by
  have hlength := saveStack_length memory bspSectionRtemsstackEnd report
  have hframe := saveStack_frame memory bspSectionRtemsstackEnd report
  obtain ⟨hexception, hregisters, hsystem, hpointer, htrace⟩ := hframe
  have hle := hlength.trans_le (Nat.min_le_left _ _)
  unfold generateDeathReport
  generalize (saveStack memory bspSectionRtemsstackEnd report).report = saved at *
  apply GeneratedFrom.withChecksum
  · rfl
  · rfl
  · exact hle
  · exact hexception
  · exact hregisters
  · exact hsystem
  · exact hpointer
  · exact htrace

/-- A whole word within the live part of the stack. -/
def Inside (stackTracePointer stackEnd address : Address) : Prop :=
  stackTracePointer.toNat ≤ address.toNat ∧ address.toNat + 4 ≤ stackEnd.toNat

/-- The trace is the live top of the stack, and its words are read there. -/
structure ExactTrace (memory : Address → BitVec 32) (stackEnd stackTracePointer : Address)
    (saved : SavedStack) : Prop where
  length : saved.report.stackTraceLength.toNat =
    min deathReportStackTraceSize.toNat ((stackEnd.toNat - stackTracePointer.toNat) / 4)
  copied : ∀ i < saved.report.stackTraceLength.toNat,
    saved.report.stackTrace i = memory (stackTracePointer + BitVec.ofNat 32 (4 * i))
  stackReads : ∀ address ∈ saved.stackReads, Inside stackTracePointer stackEnd address

/-- Nor is any other memory read. -/
structure LiveStackTop (memory : Address → BitVec 32) (stackEnd stackTracePointer : Address)
    (saved : SavedStack) : Prop
    extends ExactTrace memory stackEnd stackTracePointer saved where
  symbolReads : ∀ address ∈ saved.symbolReads, Inside stackTracePointer stackEnd address

/-- The word at the end of the section is always read. That read aside, the trace is
right exactly when this word lies as many bytes above the pointer as there are words
between the pointer and the end of the section, or both are at least the trace's size. -/
theorem saveStack_exact_iff (memory : Address → BitVec 32) (stackEnd : Address)
    (report : DeathReport) (hbelow : report.stackTracePointer.toNat ≤ stackEnd.toNat)
    (hwords : (stackEnd.toNat - report.stackTracePointer.toNat) % 4 = 0) :
    ¬ LiveStackTop memory stackEnd report.stackTracePointer (saveStack memory stackEnd report) ∧
    (ExactTrace memory stackEnd report.stackTracePointer (saveStack memory stackEnd report) ↔
      min 128 (memory stackEnd - report.stackTracePointer).toNat =
        min 128 ((stackEnd.toNat - report.stackTracePointer.toNat) / 4)) := by
  refine ⟨fun h => ?_, fun h => ?_, fun h => ?_⟩
  · have hread := (h.symbolReads _ (mem_symbolReads memory stackEnd report)).2
    omega
  · exact (saveStack_length memory stackEnd report).symm.trans h.length
  · have hlength := (saveStack_length memory stackEnd report).trans h
    refine ⟨hlength, fun i hi => saveStack_copied memory stackEnd report hi, fun address hmem => ?_⟩
    rw [saveStack_reads, List.mem_map] at hmem
    obtain ⟨i, hi, rfl⟩ := hmem
    rw [List.mem_range, hlength] at hi
    have hend := stackEnd.isLt
    have haddress : (report.stackTracePointer + BitVec.ofNat 32 (4 * i)).toNat =
        report.stackTracePointer.toNat + 4 * i := by
      rw [BitVec.toNat_add, BitVec.toNat_ofNat]
      omega
    rw [Inside, haddress]
    omega

def DeathReport.cleared (stackTracePointer : Address) : DeathReport where
  checksum := 0
  wasSeen := 0
  padding := 0
  exceptionId := 0
  registers := ⟨0, 0, 0, 0, 0, 0, 0, 0, 0, 0, 0, 0, 0, 0, 0, 0, 0, 0, 0, 0, 0, 0⟩
  systemControlBlock := ⟨0, 0, 0, 0⟩
  stackTracePointer := stackTracePointer
  stackTraceLength := 0
  stackTrace _ := 0

theorem saveStack_exact_of_lucky_word :
    ExactTrace (fun _ => 0x2044FFF4#32) 0x20450000#32 0x2044FFF0#32
      (saveStack (fun _ => 0x2044FFF4#32) 0x20450000#32 (.cleared 0x2044FFF0#32)) :=
  (saveStack_exact_iff (fun _ => 0x2044FFF4#32) 0x20450000#32 (.cleared 0x2044FFF0#32)
    (by decide) (by decide)).2.mpr (by decide)

/-- Four live words below a section that ends in zeros: 128 words are copied. -/
theorem not_liveStackTop_of_zeros :
    (saveStack (fun _ => 0#32) 0x20450000#32
      (.cleared 0x2044FFF0#32)).report.stackTraceLength = 128#32 ∧
    0x204501EC#32 ∈ (saveStack (fun _ => 0#32) 0x20450000#32
      (.cleared 0x2044FFF0#32)).stackReads ∧
    ¬ ExactTrace (fun _ => 0#32) 0x20450000#32 0x2044FFF0#32
      (saveStack (fun _ => 0#32) 0x20450000#32 (.cleared 0x2044FFF0#32)) ∧
    ¬ LiveStackTop (fun _ => 0#32) 0x20450000#32 0x2044FFF0#32
      (saveStack (fun _ => 0#32) 0x20450000#32 (.cleared 0x2044FFF0#32)) := by
  have hlength : (saveStack (fun _ => 0#32) 0x20450000#32
      (.cleared 0x2044FFF0#32)).report.stackTraceLength = 128#32 := by decide
  have hexact : ¬ ExactTrace (fun _ => 0#32) 0x20450000#32 0x2044FFF0#32
      (saveStack (fun _ => 0#32) 0x20450000#32 (.cleared 0x2044FFF0#32)) := by
    intro h
    have hmin := h.length
    rw [hlength] at hmin
    exact absurd hmin (by decide)
  refine ⟨hlength, ?_, hexact, fun h => hexact h.toExactTrace⟩
  rw [saveStack_reads, hlength]
  exact List.mem_map.mpr ⟨127, by decide, by decide⟩

end SamV71Runtime.DeathReportWriter
