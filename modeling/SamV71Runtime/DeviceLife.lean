import SamV71Runtime.ActivationLogMemory
import SamV71Runtime.FaultReport

/-!
# Faults and restarts of the device

The memory map of the linker scripts, with the program in the internal SRAM. Threads write the
activation log, the program stores anything anywhere, and a fault leaves its report and restarts
the program. A restart clears the static variables, but neither the log section nor the report.
Nothing reserves the report's bytes, which lie in the heap of the last region.
-/
namespace SamV71Runtime.Device
open ByteMemory Runs Thumb Monitor FaultHandler
open DeathReportWriter hiding Address

/-- A line of the command `MEMORY`. -/
structure MemoryRegion where
  origin : ℕ
  length : ℕ

namespace MemoryRegion

def Contains (region : MemoryRegion) (a : Address) : Prop :=
  region.origin ≤ a.toNat ∧ a.toNat < region.origin + region.length

instance (region : MemoryRegion) (a : Address) : Decidable (region.Contains a) :=
  inferInstanceAs (Decidable (_ ∧ _))

theorem contains_offset {r : MemoryRegion} (hend : r.origin + r.length ≤ 2 ^ 32) {i : ℕ}
    (hi : i < r.length) : r.Contains (BitVec.ofNat 32 r.origin + BitVec.ofNat 32 i) := by
  rw [Contains, BitVec.toNat_add, BitVec.toNat_ofNat, BitVec.toNat_ofNat]
  omega

end MemoryRegion

def intsram : MemoryRegion := ⟨0x20400000, 393216 - 2 * 0 - 2 * 4096⟩

def log : MemoryRegion := ⟨0x20400000 + 393216 - 2 * 0 - 2 * 4096, 4096⟩

def nocache : MemoryRegion := ⟨0x20400000 + 393216 - 2 * 0 - 4096, 4096⟩

/-- The section `.logsection` takes all of its region. -/
def logSection : LogRegion where
  logBufferStart := BitVec.ofNat 32 log.origin
  logBufferEnd := BitVec.ofNat 32 (log.origin + log.length)

/-- `DEATH_REPORT_BEGIN`. -/
def deathReportBegin : Address := 0x2045FAC8#32

def deathReport : MemoryRegion := ⟨0x2045FAC8, 632⟩

/-- What a restart leaves as it is. -/
def Kept (a : Address) : Prop := log.Contains a ∨ deathReport.Contains a

instance (a : Address) : Decidable (Kept a) := inferInstanceAs (Decidable (_ ∨ _))

/-- The regions follow each other, and the report lies in the last one. -/
theorem regions_in_order : intsram.origin + intsram.length ≤ log.origin ∧
    log.origin + log.length ≤ nocache.origin ∧ nocache.origin ≤ deathReport.origin ∧
    deathReport.origin + deathReport.length ≤ nocache.origin + nocache.length := by decide

inductive DeviceAction where
  | thread (a : ThreadAction)
  | store (address : Address) (value : BitVec 8)
  | fault (machine : Machine) (startup : Memory)

/-- The machine at a fault: its memory is that of the device. -/
def faulting (s : MemoryThreads) (machine : Machine) : Machine :=
  { machine with memory := s.log.memory }

section Steps
variable (layout : EntryLayout) (stackEnd : Address)

/-- `startup` is what a restart makes of the memory that it does not leave alone. -/
def deviceStep (s : MemoryThreads) : DeviceAction → Option MemoryThreads
  | .thread a => memoryStep layout logSection s a
  | .store address value =>
      some { s with log := { s.log with memory := storeByte s.log.memory address value } }
  | .fault machine startup => do
      let (_, after) ← execute (labelWord deathReportBegin) faultHandler (faulting s machine)
      let final ← generateDeathReportIn 129 stackEnd deathReportBegin after
      some (.start fun a => if Kept a then final.memory a else startup a)

/-- The faults of a run. -/
def faultOf (s : MemoryThreads) : DeviceAction → Option Machine
  | .fault machine _ => some (faulting s machine)
  | .thread _ | .store _ _ => none

/-- The program's own stores hit neither the log section nor the report, and a fault is taken
on a stack in the internal SRAM. -/
def InPlace : DeviceAction → Prop
  | .thread a => FitsEntry layout a
  | .store address _ => ¬ Kept address
  | .fault machine _ =>
      (3 ≤ machine.special.ipsr.toNat ∧ machine.special.ipsr.toNat ≤ 6) ∧
      intsram.origin ≤ (activeStackPointer machine).toNat ∧
      (activeStackPointer machine).toNat + 32 ≤ intsram.origin + intsram.length

end Steps

/-- The log as its threads see it, over restarts. -/
inductive LogAction where
  | thread (a : ThreadAction)
  | restart

/-- A restart finds the entries that are there. -/
def logStep (size : BitVec 32) (s : ThreadState) : LogAction → Option ThreadState
  | .thread a => threadStep size s a
  | .restart => some ⟨.initial s.log.activationLogBuffer, []⟩

def DeviceAction.logAction : DeviceAction → Option LogAction
  | .thread a => some (.thread a)
  | .store _ _ => none
  | .fault _ _ => some .restart

section Memory
variable {layout : EntryLayout} {memory memory' : Memory} {a : Address}

theorem logSection_outside (h : ¬ log.Contains a) : logSection.Outside a := by
  rintro i hi rfl
  exact h (MemoryRegion.contains_offset (by decide) hi)

theorem kept_of_report {j : ℕ} (hj : j < 632) : Kept (deathReportBegin + BitVec.ofNat 32 j) :=
  Or.inr (MemoryRegion.contains_offset (r := deathReport) (by decide) hj)

/-- A log is read from its section alone. -/
theorem entryAt_section (h : ∀ a, log.Contains a → memory' a = memory a) {slot : ℕ}
    (hslot : slot < logSection.size.toNat) :
    entryAt layout logSection memory' slot = entryAt layout logSection memory slot := by
  have hfield {offset n : ℕ} (hfits : offset + n ≤ 16) :
      loadNat memory' (logSection.field slot offset) n =
        loadNat memory (logSection.field slot offset) n := by
    refine loadNat_congr fun i hi => ?_
    rw [LogRegion.field, BitVec.add_assoc, ← BitVec.ofNat_add]
    refine h _ (MemoryRegion.contains_offset (by decide) ?_)
    have hin := field_fits hslot hfits
    exact Nat.lt_of_lt_of_le (Nat.add_lt_add_left hi _) hin
  have hlast := layout.timestamp_fits
  have hmiddle := layout.timestamp_after
  have hfirst := layout.entryType_after
  unfold entryAt
  rw [hfield (by omega), hfield (by omega), hfield (by omega)]

theorem not_report_of_log (h : log.Contains a) : ¬ deathReport.Contains a := by
  intro hreport
  obtain ⟨-, hlog, hnocache, -⟩ := regions_in_order
  exact Nat.lt_irrefl _ (h.2.trans_le ((hlog.trans hnocache).trans hreport.1))

theorem not_log_of_report {j : ℕ} (hj : j < 632) :
    ¬ log.Contains (deathReportBegin + BitVec.ofNat 32 j) := fun hlog =>
  not_report_of_log hlog (MemoryRegion.contains_offset (r := deathReport) (by decide) hj)

/-- A report is told by its own bytes. -/
theorem reported_of_bytes {before : Machine} {stackEnd : Address}
    (h : Reported before stackEnd (reportAt memory deathReportBegin))
    (hbytes : ∀ j < 632, memory' (deathReportBegin + BitVec.ofNat 32 j) =
      memory (deathReportBegin + BitVec.ofNat 32 j)) :
    Reported before stackEnd (reportAt memory' deathReportBegin) := by
  have hbyte (j : ℕ) (hj : j < 632) :
      byteAt memory' deathReportBegin j = byteAt memory deathReportBegin j := hbytes j hj
  have hword (k : ℕ) (hk : k < 157) : loadWord memory' (deathReportBegin + wordOffset k) =
      loadWord memory (deathReportBegin + wordOffset k) := by
    refine loadWord_congr fun i hi => ?_
    rw [byteAt, byteAt, BitVec.add_assoc, wordOffset_byte]
    exact hbytes _ (by omega)
  have hall : (reportAt memory' deathReportBegin).bytes =
      (reportAt memory deathReportBegin).bytes := by
    rw [reportAt_bytes, reportAt_bytes]
    exact List.map_congr_left fun j hj => hbyte j (List.mem_range.mp hj)
  have hlength : (reportAt memory' deathReportBegin).stackTraceLength =
      (reportAt memory deathReportBegin).stackTraceLength := hword 28 (by decide)
  constructor
  case toSealed =>
    constructor
    case wasSeen => exact (hbyte 2 (by decide)).trans h.wasSeen
    case padding => exact (hbyte 3 (by decide)).trans h.padding
    case checksum =>
      have hstored : (reportAt memory' deathReportBegin).checksum =
          (reportAt memory deathReportBegin).checksum := by
        rw [reportAt, reportAt, hbyte 0 (by decide), hbyte 1 (by decide)]
      rw [hstored, hall]
      exact h.checksum
  case exceptionId => exact (hword 0 (by decide)).trans h.exceptionId
  case registers =>
    rw [← h.registers]
    simp (disch := decide) only [reportAt, hword]
  case systemControlBlock =>
    rw [← h.systemControlBlock]
    simp (disch := decide) only [reportAt, hword]
  case stackTracePointer => exact (hword 27 (by decide)).trans h.stackTracePointer
  case stackTraceLength =>
    rw [hlength]
    exact h.stackTraceLength
  case stackTrace =>
    intro i hi
    rw [hlength] at hi
    have hlimit := h.stackTraceLength
    exact (hword (29 + i) (by omega)).trans (h.stackTrace i hi)

end Memory

section Faults
variable {layout : EntryLayout} {stackEnd : Address} {s t : MemoryThreads} {machine : Machine}
  {startup : Memory} {a : DeviceAction}

theorem toNat_deathReportBegin_add {j : ℕ} (hj : j < 632) :
    (deathReportBegin + BitVec.ofNat 32 j).toNat = 0x2045FAC8 + j := by
  rw [BitVec.toNat_add, BitVec.toNat_ofNat, deathReportBegin, BitVec.toNat_ofNat]
  omega

theorem InPlace.atFault (h : InPlace layout (.fault machine startup)) (s : MemoryThreads) :
    AtFault (faulting s machine) deathReportBegin := by
  obtain ⟨hexception, horigin, hend⟩ := h
  change 0x20400000 ≤ _ at horigin
  change _ ≤ 0x2045E000 at hend
  have hframe (i : ℕ) (hi : i < 32) : (activeStackPointer (faulting s machine) +
      BitVec.ofNat 32 i).toNat = (activeStackPointer machine).toNat + i := by
    change (activeStackPointer machine + BitVec.ofNat 32 i).toNat = _
    rw [BitVec.toNat_add, BitVec.toNat_ofNat]
    omega
  constructor
  case exception => exact hexception
  case frameInMemory =>
    intro i hi
    apply isDevice_of_lt
    rw [hframe i hi]
    omega
  case reportInMemory =>
    intro j hj
    apply isDevice_of_lt
    rw [toNat_deathReportBegin_add hj]
    omega
  case apart =>
    intro i hi j hj heq
    have hnat := congrArg BitVec.toNat heq
    rw [hframe i hi, toNat_deathReportBegin_add hj] at hnat
    omega

/-- A fault is handled: the report tells it, and no other memory has changed. -/
theorem deviceStep_fault (hstackEnd : stackEnd.toNat ≤ intsram.origin + intsram.length)
    (h : InPlace layout (.fault machine startup)) (s : MemoryThreads) :
    ∃ final : Memory, deviceStep layout stackEnd s (.fault machine startup) =
        some (.start fun a => if Kept a then final a else startup a) ∧
      Reported (faulting s machine) stackEnd (reportAt final deathReportBegin) ∧
      ∀ a, ¬ deathReport.Contains a → final a = s.log.memory a := by
  have hend := h.2.2
  change _ ≤ 0x2045E000 at hend
  change _ ≤ 0x2045E000 at hstackEnd
  have hsymbol : OutsideReport deathReportBegin stackEnd := by
    apply outsideReport_of_below
    · change stackEnd.toNat + 4 ≤ 0x2045FAC8
      omega
    · decide
  obtain ⟨after, final, hrun, hgenerated, hreported, helsewhere⟩ :=
    (h.atFault s).reported (Nat.le_refl 129) hsymbol fun i hi => by
      apply outsideReport_of_below
      · change (activeStackPointer machine + _).toNat + 4 ≤ 0x2045FAC8
        rw [BitVec.toNat_add, BitVec.toNat_ofNat]
        omega
      · decide
  refine ⟨final.memory, ?_, hreported, fun a ha => ?_⟩
  · simp only [deviceStep, hrun, hgenerated, Option.bind_eq_bind, Option.bind_some]
  · refine helsewhere a ?_
    rintro j hj rfl
    exact ha (MemoryRegion.contains_offset (r := deathReport) (by decide) hj)

/-- The last fault is told by the report, and the log is told by its section. -/
structure Told (layout : EntryLayout) (stackEnd : Address) (s : MemoryThreads)
    (fault : Option Machine) (read : ActivationLog) : Prop where
  reported : ∀ before ∈ fault, Reported before stackEnd (reportAt s.log.memory deathReportBegin)
  represents : Represents layout logSection s.log read
  fitting : FittingCalls layout s.calls

theorem Told.step {fault : Option Machine} {read : ActivationLog}
    (hstackEnd : stackEnd.toNat ≤ intsram.origin + intsram.length)
    (h : Told layout stackEnd s fault read) (hplace : InPlace layout a)
    (hs : deviceStep layout stackEnd s a = some t) :
    ∃ read', run (logStep logSection.size) ⟨read, s.calls⟩ a.logAction.toList =
        some ⟨read', t.calls⟩ ∧ Told layout stackEnd t ((faultOf s a).or fault) read' := by
  cases a with
  | thread a =>
      obtain ⟨⟨read', hread, hnext⟩, hcalls, hkept⟩ := h.represents.step h.fitting hplace hs
      refine ⟨read', ?_, fun before hbefore => ?_, hnext, hcalls⟩
      · exact congrArg (fun u => u.bind some) hread
      · exact reported_of_bytes (h.reported before hbefore) fun j hj =>
          hkept _ (logSection_outside (not_log_of_report hj))
  | store address value =>
      cases hs
      have hkept {b : Address} (hb : Kept b) :
          storeByte s.log.memory address value b = s.log.memory b :=
        Function.update_of_ne (fun heq : b = address => hplace (heq ▸ hb)) _ _
      refine ⟨read, rfl, fun before hbefore => ?_, ?_, h.fitting⟩
      · exact reported_of_bytes (h.reported before hbefore) fun j hj => hkept (kept_of_report hj)
      · refine ⟨h.represents.isFrozen, h.represents.counter, fun slot hslot => ?_⟩
        exact (entryAt_section (fun b hb => hkept (Or.inl hb)) hslot).trans
          (h.represents.entries slot hslot)
  | fault machine startup =>
      obtain ⟨final, hstep, hreported, helsewhere⟩ := deviceStep_fault hstackEnd hplace s
      rw [hstep] at hs
      cases hs
      refine ⟨_, rfl, fun before hbefore => ?_, ⟨rfl, rfl, fun slot hslot => ?_⟩, ?_⟩
      · obtain rfl := Option.some.inj hbefore
        exact reported_of_bytes hreported fun j hj => if_pos (kept_of_report hj)
      · -- the entries of the last life are still there
        refine (entryAt_section (fun b hb => ?_) hslot).trans (h.represents.entries slot hslot)
        exact (if_pos (Or.inl hb)).trans (helsewhere b (not_report_of_log hb))
      · intro c hc
        cases hc

end Faults

/-- The faults of the device, and the machine at each. -/
def faults (layout : EntryLayout) (stackEnd : Address) (memory : Memory) (as : List DeviceAction) :
    List Machine :=
  outputs (deviceStep layout stackEnd) faultOf (.start memory) as

section Run
variable {layout : EntryLayout} {stackEnd : Address} {memory : Memory} {t : MemoryThreads}
  {as : List DeviceAction}

theorem run_told (hstackEnd : stackEnd.toNat ≤ intsram.origin + intsram.length)
    (hr : run (deviceStep layout stackEnd) (.start memory) as = some t)
    (hplace : ∀ a ∈ as, InPlace layout a) :
    ∃ read, run (logStep logSection.size) ⟨.initial (entryAt layout logSection memory), []⟩
        (as.filterMap DeviceAction.logAction) = some ⟨read, t.calls⟩ ∧
      Told layout stackEnd t (faults layout stackEnd memory as).getLast? read := by
  refine run_induction (I := fun as t => ∃ read, run (logStep logSection.size)
      ⟨.initial (entryAt layout logSection memory), []⟩
        (as.filterMap DeviceAction.logAction) = some ⟨read, t.calls⟩ ∧
      Told layout stackEnd t (faults layout stackEnd memory as).getLast? read)
    (along_of_forall _ hplace) hr ?_ ?_
  · refine ⟨_, rfl, nofun, ⟨rfl, rfl, fun _ _ => rfl⟩, ?_⟩
    intro c hc
    cases hc
  · rintro as s a u hrun ⟨read, hread, htold⟩ hin hs
    obtain ⟨read', hnext, htold'⟩ := htold.step hstackEnd hin hs
    refine ⟨read', ?_, ?_⟩
    · have hlast : [a].filterMap DeviceAction.logAction = a.logAction.toList := by
        cases a <;> rfl
      rw [List.filterMap_append, run_append, hread, hlast]
      exact hnext
    · have hlast : (faultOf s a).toList.getLast? = faultOf s a := by
        cases faultOf s a <;> rfl
      rw [faults, outputs_concat a hrun, List.getLast?_append, hlast]
      exact htold'

end Run

/-- Over any number of faults and restarts: the report in memory is that of the last fault, the
log section reads as the log of the threads, with the entries of earlier lives, and the next
fault will be handled. -/
theorem device_life (layout : EntryLayout) (stackEnd : Address)
    (hstackEnd : stackEnd.toNat ≤ intsram.origin + intsram.length) (memory : Memory)
    (as : List DeviceAction) (t : MemoryThreads)
    (hr : run (deviceStep layout stackEnd) (.start memory) as = some t)
    (hplace : ∀ a ∈ as, InPlace layout a) :
    (∀ before ∈ (faults layout stackEnd memory as).getLast?,
      Reported before stackEnd (reportAt t.log.memory deathReportBegin)) ∧
    (∃ read, run (logStep logSection.size) ⟨.initial (entryAt layout logSection memory), []⟩
        (as.filterMap DeviceAction.logAction) = some ⟨read, t.calls⟩ ∧
      Represents layout logSection t.log read) ∧
    ∀ machine startup, InPlace layout (.fault machine startup) →
      ∃ u, deviceStep layout stackEnd t (.fault machine startup) = some u := by
  obtain ⟨read, hread, htold⟩ := run_told hstackEnd hr hplace
  refine ⟨htold.reported, ⟨read, hread, htold.represents⟩, fun machine startup hin => ?_⟩
  obtain ⟨final, hstep, -⟩ := deviceStep_fault hstackEnd hin t
  exact ⟨_, hstep⟩

/-- Enumerations of four bytes. -/
def fourByteEnumerations : EntryLayout :=
  ⟨4, 4, 4, 8, by decide, by decide, by decide, by decide⟩

/-- A hard fault, and a store beside the report that it has left. -/
def faultAndStore : List DeviceAction :=
  [.thread .unfreeze, .fault (hardFault 1) (fun _ => 0#8), .store 0x2045FAC0#32 1#8,
    .thread .unfreeze]

/-- Logging goes on after a hard fault, and the report still tells it. -/
theorem device_life_hardFault : ∃ t,
    run (deviceStep fourByteEnumerations 0x20400100#32) (.start (hardFault 1).memory)
      faultAndStore = some t ∧
    Reported (hardFault 1) 0x20400100#32 (reportAt t.log.memory deathReportBegin) := by
  have hunfreeze (s : MemoryThreads) :
      deviceStep fourByteEnumerations 0x20400100#32 s (.thread .unfreeze) =
        some { s with log := { s.log with isFrozen := false } } :=
    congrArg some (if_neg (by decide))
  have hstore (s : MemoryThreads) :
      deviceStep fourByteEnumerations 0x20400100#32 s (.store 0x2045FAC0#32 1#8) =
        some { s with log := { s.log with
          memory := storeByte s.log.memory 0x2045FAC0#32 1#8 } } := rfl
  have hin : InPlace fourByteEnumerations (.fault (hardFault 1) fun _ => 0#8) := by
    rw [InPlace, activeStackPointer_hardFault]
    decide
  have hend : (0x20400100#32).toNat ≤ intsram.origin + intsram.length := by decide
  obtain ⟨final, hfault, -⟩ := deviceStep_fault hend hin ⟨⟨false, 0, (hardFault 1).memory⟩, []⟩
  obtain ⟨t, hr⟩ : ∃ t, run (deviceStep fourByteEnumerations 0x20400100#32)
      (.start (hardFault 1).memory) faultAndStore = some t := by
    simp only [faultAndStore, run, hunfreeze, hstore, MemoryThreads.start, hfault, Option.bind_some]
    exact ⟨_, rfl⟩
  have hlast : (faults fourByteEnumerations 0x20400100#32 (hardFault 1).memory
      faultAndStore).getLast? = some (hardFault 1) := by
    simp only [faults, faultAndStore, outputs, hunfreeze, hstore, MemoryThreads.start, hfault,
      faultOf, Option.elim_some]
    rfl
  refine ⟨t, hr, (device_life fourByteEnumerations 0x20400100#32 hend _ _ t hr ?_).1 _ hlast⟩
  simp only [faultAndStore, List.forall_mem_cons]
  refine ⟨trivial, hin, ?_, trivial, fun a ha => absurd ha List.not_mem_nil⟩
  exact show ¬ Kept 0x2045FAC0#32 by decide

end SamV71Runtime.Device
