import SamV71Runtime.ActivationLogThreads
import SamV71Runtime.ByteFields

/-!
# The activation log in memory

The buffer lies between the linker symbols `log_buffer_start` and `log_buffer_end`. How wide the
enumerations of an entry are, and where its fields lie, is left to the compiler: the fields do
not overlap and fit the 16 bytes of an entry.
-/
namespace SamV71Runtime.Monitor
open ByteMemory Runs

/-- The fields of `struct Monitor_InterfaceActivationEntry`, in their order. -/
structure EntryLayout where
  interfaceSize : ℕ
  entryTypeOffset : ℕ
  entryTypeSize : ℕ
  timestampOffset : ℕ
  entryType_after : interfaceSize ≤ entryTypeOffset
  entryType_pos : 0 < entryTypeSize
  timestamp_after : entryTypeOffset + entryTypeSize ≤ timestampOffset
  timestamp_fits : timestampOffset + 8 ≤ 16

/-- The addresses of the two linker symbols. -/
structure LogRegion where
  logBufferStart : Address
  logBufferEnd : Address

def LogRegion.size (region : LogRegion) : BitVec 32 :=
  rtExecLogBufferSize region.logBufferStart region.logBufferEnd

/-- Not a byte between the two symbols. -/
def LogRegion.Outside (region : LogRegion) (a : Address) : Prop :=
  ∀ i < (region.logBufferEnd - region.logBufferStart).toNat,
    a ≠ region.logBufferStart + BitVec.ofNat 32 i

instance LogRegion.decidableOutside (region : LogRegion) (a : Address) :
    Decidable (region.Outside a) :=
  inferInstanceAs (Decidable (∀ i < _, _))

/-- The address of a field of an entry. -/
def LogRegion.field (region : LogRegion) (slot offset : ℕ) : Address :=
  region.logBufferStart + BitVec.ofNat 32 (16 * slot + offset)

/-- `enum Monitor_EntryType`. -/
def EntryType.code : EntryType → ℕ
  | .activation => 0
  | .deactivation => 1

/-- The static variables, and the memory that holds the buffer. -/
structure MemoryLog where
  isFrozen : Bool
  activationEntryCounter : BitVec 64
  memory : Memory

structure MemoryThreads where
  log : MemoryLog
  calls : List IndicationCall

def MemoryThreads.start (memory : Memory) : MemoryThreads where
  log := ⟨true, 0, memory⟩
  calls := []

section Statements
variable (layout : EntryLayout) (region : LogRegion)

/-- An assignment to a field of the entry that the counter selects. -/
def assignField (log : MemoryLog) (offset n value : ℕ) : Option MemoryLog :=
  if region.size = 0 then none
  else
    let slot := (log.activationEntryCounter % region.size.setWidth 64).toNat
    some { log with memory := storeNat log.memory (region.field slot offset) n value }

def executeInMemory (log : MemoryLog) (c : IndicationCall) (timestamp : BitVec 64) :
    Option (MemoryLog × IndicationCall) :=
  match c.point with
  | .testFrozen =>
      some (log, { c with point := if log.isFrozen then .returned false else .storeInterface })
  | .storeInterface =>
      (assignField region log 0 layout.interfaceSize c.interface.toNat).map fun log =>
        (log, { c with point := .storeEntryType })
  | .storeEntryType =>
      (assignField region log layout.entryTypeOffset layout.entryTypeSize c.entryType.code).map
        fun log => (log, { c with point := .storeTimestamp })
  | .storeTimestamp =>
      (assignField region log layout.timestampOffset 8 timestamp.toNat).map fun log =>
        (log, { c with point := .incrementCounter, timestamp })
  | .incrementCounter =>
      some ({ log with activationEntryCounter := log.activationEntryCounter + 1 },
        { c with point := .returned true })
  | .returned _ => none

/-- The steps of the threads and the readers, with the buffer in memory. -/
def memoryStep (s : MemoryThreads) : ThreadAction → Option MemoryThreads
  | .indicate thread interface entryType =>
      if s.calls.any fun c => c.thread == thread && c.point.running then none
      else some { s with
        calls := s.calls ++ [⟨thread, interface, entryType, .testFrozen, 0⟩] }
  | .statement call timestamp => do
      let c ← s.calls[call]?
      let (log, c) ← executeInMemory layout region s.log c timestamp
      some ⟨log, s.calls.set call c⟩
  | .freeze =>
      some (if region.size = 0 then s else { s with log := { s.log with isFrozen := true } })
  | .unfreeze =>
      some (if region.size = 0 then s else { s with log := { s.log with isFrozen := false } })
  | .clear =>
      some (if region.size = 0 then s
        else { s with log := { s.log with activationEntryCounter := 0 } })
  | .get =>
      if s.log.activationEntryCounter ≠ 0 ∧ region.size = 0 then none else some s

/-- The entry that a reader finds in a slot. -/
def entryAt (memory : Memory) (slot : ℕ) : InterfaceActivationEntry where
  interface := BitVec.ofNat 32 (loadNat memory (region.field slot 0) layout.interfaceSize)
  entryType :=
    if loadNat memory (region.field slot layout.entryTypeOffset) layout.entryTypeSize = 0 then
      .activation else .deactivation
  timestamp := BitVec.ofNat 64 (loadNat memory (region.field slot layout.timestampOffset) 8)

/-- The interface of an indication is a value of its enumeration. -/
def FitsEntry : ThreadAction → Prop
  | .indicate _ interface _ => interface.toNat < 256 ^ layout.interfaceSize
  | _ => True

instance FitsEntry.decidable (a : ThreadAction) : Decidable (FitsEntry layout a) :=
  match a with
  | .indicate _ _ _ => inferInstanceAs (Decidable (_ < _))
  | .statement _ _ | .freeze | .unfreeze | .clear | .get => inferInstanceAs (Decidable True)

/-- The log with its buffer read from memory. -/
structure Represents (log : MemoryLog) (read : ActivationLog) : Prop where
  isFrozen : read.isFrozen = log.isFrozen
  counter : read.activationEntryCounter = log.activationEntryCounter
  entries : ∀ slot < region.size.toNat,
    entryAt layout region log.memory slot = read.activationLogBuffer slot

end Statements

section Fields
variable {layout : EntryLayout} {region : LogRegion} {memory : Memory}
  {slot slot' offset n value : ℕ}

theorem size_le (region : LogRegion) :
    16 * region.size.toNat ≤ (region.logBufferEnd - region.logBufferStart).toNat := by
  have hsize : region.size.toNat = (region.logBufferEnd - region.logBufferStart).toNat / 16 :=
    BitVec.toNat_udiv
  omega

theorem field_fits (hslot : slot < region.size.toNat) (hoffset : offset + n ≤ 16) :
    16 * slot + offset + n ≤ (region.logBufferEnd - region.logBufferStart).toNat := by
  have hsize := size_le region
  omega

theorem field_in_memory (hslot : slot < region.size.toNat) (hoffset : offset + n ≤ 16) :
    16 * slot + offset + n ≤ 2 ^ 32 :=
  (field_fits hslot hoffset).trans (Nat.le_of_lt (BitVec.isLt _))

theorem loadNat_field_of_apart {offset' m : ℕ} (hslot : slot < region.size.toNat)
    (hoffset : offset + n ≤ 16) (hslot' : slot' < region.size.toNat) (hoffset' : offset' + m ≤ 16)
    (hapart : slot' ≠ slot ∨ offset' + m ≤ offset ∨ offset + n ≤ offset') :
    loadNat (storeNat memory (region.field slot offset) n value) (region.field slot' offset') m =
      loadNat memory (region.field slot' offset') m :=
  loadNat_storeNat_of_apart (field_in_memory hslot' hoffset') (field_in_memory hslot hoffset)
    (by omega)

/-- The other entries keep their bytes. -/
theorem entryAt_of_ne (hslot : slot < region.size.toNat) (hoffset : offset + n ≤ 16)
    (hslot' : slot' < region.size.toNat) (hne : slot' ≠ slot) :
    entryAt layout region (storeNat memory (region.field slot offset) n value) slot' =
      entryAt layout region memory slot' := by
  have hlast := layout.timestamp_fits
  have hmiddle := layout.timestamp_after
  have hfirst := layout.entryType_after
  unfold entryAt
  rw [loadNat_field_of_apart hslot hoffset hslot' (by omega) (Or.inl hne),
    loadNat_field_of_apart hslot hoffset hslot' (by omega) (Or.inl hne),
    loadNat_field_of_apart hslot hoffset hslot' (by omega) (Or.inl hne)]

theorem entryAt_interface (hslot : slot < region.size.toNat) {interface : BitVec 32}
    (hfits : interface.toNat < 256 ^ layout.interfaceSize) :
    entryAt layout region
        (storeNat memory (region.field slot 0) layout.interfaceSize interface.toNat) slot =
      { entryAt layout region memory slot with interface } := by
  have hlast := layout.timestamp_fits
  have hmiddle := layout.timestamp_after
  have hfirst := layout.entryType_after
  have hfield : 0 + layout.interfaceSize ≤ 16 := by omega
  have hstored : loadNat
      (storeNat memory (region.field slot 0) layout.interfaceSize interface.toNat)
      (region.field slot 0) layout.interfaceSize = interface.toNat :=
    (loadNat_storeNat_self (field_in_memory hslot hfield)).trans (Nat.mod_eq_of_lt hfits)
  unfold entryAt
  rw [hstored, loadNat_field_of_apart hslot hfield hslot (by omega) (by omega),
    loadNat_field_of_apart hslot hfield hslot (by omega) (by omega), BitVec.ofNat_toNat,
    BitVec.setWidth_eq]

theorem entryAt_entryType (hslot : slot < region.size.toNat) (entryType : EntryType) :
    entryAt layout region (storeNat memory (region.field slot layout.entryTypeOffset)
        layout.entryTypeSize entryType.code) slot =
      { entryAt layout region memory slot with entryType } := by
  have hlast := layout.timestamp_fits
  have hmiddle := layout.timestamp_after
  have hfirst := layout.entryType_after
  have hfield : layout.entryTypeOffset + layout.entryTypeSize ≤ 16 := by omega
  have hfits : entryType.code < 256 ^ layout.entryTypeSize := by
    have hone : 1 < 256 ^ layout.entryTypeSize :=
      Nat.one_lt_pow (Nat.pos_iff_ne_zero.mp layout.entryType_pos) (by decide)
    cases entryType with
    | activation => exact Nat.lt_of_succ_lt hone
    | deactivation => exact hone
  have hstored : loadNat (storeNat memory (region.field slot layout.entryTypeOffset)
      layout.entryTypeSize entryType.code) (region.field slot layout.entryTypeOffset)
      layout.entryTypeSize = entryType.code :=
    (loadNat_storeNat_self (field_in_memory hslot hfield)).trans (Nat.mod_eq_of_lt hfits)
  have hcode : (if entryType.code = 0 then EntryType.activation else .deactivation) = entryType := by
    cases entryType with
    | activation => rfl
    | deactivation => rfl
  unfold entryAt
  rw [hstored, loadNat_field_of_apart hslot hfield hslot (by omega) (by omega),
    loadNat_field_of_apart hslot hfield hslot (by omega) (by omega), hcode]

theorem entryAt_timestamp (hslot : slot < region.size.toNat) (timestamp : BitVec 64) :
    entryAt layout region
        (storeNat memory (region.field slot layout.timestampOffset) 8 timestamp.toNat) slot =
      { entryAt layout region memory slot with timestamp } := by
  have hlast := layout.timestamp_fits
  have hmiddle := layout.timestamp_after
  have hfirst := layout.entryType_after
  have hstored : loadNat
      (storeNat memory (region.field slot layout.timestampOffset) 8 timestamp.toNat)
      (region.field slot layout.timestampOffset) 8 = timestamp.toNat :=
    (loadNat_storeNat_self (field_in_memory hslot hlast)).trans (Nat.mod_eq_of_lt timestamp.isLt)
  unfold entryAt
  rw [hstored, loadNat_field_of_apart hslot hlast hslot (by omega) (by omega),
    loadNat_field_of_apart hslot hlast hslot (by omega) (by omega), BitVec.ofNat_toNat,
    BitVec.setWidth_eq]

end Fields

section Simulation
variable {layout : EntryLayout} {region : LogRegion} {log log' : MemoryLog} {read : ActivationLog}

/-- An assignment to a field in memory is the assignment of the log that is read from it. -/
theorem Represents.assignField {offset n value : ℕ} (h : Represents layout region log read)
    (assign : InterfaceActivationEntry → InterfaceActivationEntry) (hoffset : offset + n ≤ 16)
    (hassign : ∀ slot < region.size.toNat,
      entryAt layout region (storeNat log.memory (region.field slot offset) n value) slot =
        assign (entryAt layout region log.memory slot))
    (hs : Monitor.assignField region log offset n value = some log') :
    (∃ read', storeField region.size read assign = some read' ∧
      Represents layout region log' read') ∧
    ∀ a, region.Outside a → log'.memory a = log.memory a := by
  unfold Monitor.assignField at hs
  split at hs
  · cases hs
  · rename_i hsize
    cases hs
    have hslot : (log.activationEntryCounter % region.size.setWidth 64).toNat =
        read.slot region.size := by
      rw [toNat_remainder, ActivationLog.slot, h.counter]
    have hpos : 0 < region.size.toNat := Nat.pos_of_ne_zero fun hz => hsize (BitVec.toNat_inj.mp hz)
    have hlt : read.slot region.size < region.size.toNat := Nat.mod_lt _ hpos
    refine ⟨⟨_, storeField_of_ne read hsize assign, h.isFrozen, h.counter, fun slot hin => ?_⟩, ?_⟩
    · dsimp only
      rw [hslot]
      by_cases hsame : slot = read.slot region.size
      · subst hsame
        rw [Function.update_self, hassign _ hin, h.entries _ hin]
      · rw [Function.update_of_ne hsame, entryAt_of_ne hlt hoffset hin hsame]
        exact h.entries slot hin
    · intro a ha
      dsimp only
      rw [hslot]
      exact storeNat_outside (field_fits hlt hoffset) (Nat.le_of_lt (BitVec.isLt _)) ha

theorem Represents.execute {c d : IndicationCall} {timestamp : BitVec 64}
    (h : Represents layout region log read)
    (hfits : c.interface.toNat < 256 ^ layout.interfaceSize)
    (hs : executeInMemory layout region log c timestamp = some (log', d)) :
    (∃ read', executeStatement region.size read c timestamp = some (read', d) ∧
      Represents layout region log' read') ∧
    d.interface = c.interface ∧ ∀ a, region.Outside a → log'.memory a = log.memory a := by
  have hlast := layout.timestamp_fits
  have hmiddle := layout.timestamp_after
  have hfirst := layout.entryType_after
  unfold executeInMemory at hs
  cases hpoint : c.point with
  | testFrozen =>
      rw [hpoint] at hs
      cases hs
      refine ⟨⟨read, ?_, h⟩, rfl, fun _ _ => rfl⟩
      rw [executeStatement, hpoint, h.isFrozen]
  | storeInterface =>
      rw [hpoint] at hs
      obtain ⟨stored, hstored, hs⟩ := Option.map_eq_some_iff.mp hs
      cases hs
      obtain ⟨⟨read', hread, hnext⟩, houtside⟩ := h.assignField
        (fun entry => { entry with interface := c.interface }) (by omega)
        (fun _ hslot => entryAt_interface hslot hfits) hstored
      refine ⟨⟨read', ?_, hnext⟩, rfl, houtside⟩
      rw [executeStatement, hpoint]
      exact congrArg (Option.map _) hread
  | storeEntryType =>
      rw [hpoint] at hs
      obtain ⟨stored, hstored, hs⟩ := Option.map_eq_some_iff.mp hs
      cases hs
      obtain ⟨⟨read', hread, hnext⟩, houtside⟩ := h.assignField
        (fun entry => { entry with entryType := c.entryType }) (by omega)
        (fun _ hslot => entryAt_entryType hslot c.entryType) hstored
      refine ⟨⟨read', ?_, hnext⟩, rfl, houtside⟩
      rw [executeStatement, hpoint]
      exact congrArg (Option.map _) hread
  | storeTimestamp =>
      rw [hpoint] at hs
      obtain ⟨stored, hstored, hs⟩ := Option.map_eq_some_iff.mp hs
      cases hs
      obtain ⟨⟨read', hread, hnext⟩, houtside⟩ := h.assignField
        (fun entry => { entry with timestamp }) (by omega)
        (fun _ hslot => entryAt_timestamp hslot timestamp) hstored
      refine ⟨⟨read', ?_, hnext⟩, rfl, houtside⟩
      rw [executeStatement, hpoint]
      exact congrArg (Option.map _) hread
  | incrementCounter =>
      rw [hpoint] at hs
      cases hs
      refine ⟨⟨incrementCounter read, ?_, h.isFrozen, ?_, h.entries⟩, rfl, fun _ _ => rfl⟩
      · rw [executeStatement, hpoint]
      · exact congrArg (· + 1) h.counter
  | returned stored =>
      rw [hpoint] at hs
      cases hs

/-- Every interface of a call in progress is a value of its enumeration. -/
def FittingCalls (layout : EntryLayout) (calls : List IndicationCall) : Prop :=
  ∀ c ∈ calls, c.interface.toNat < 256 ^ layout.interfaceSize

/-- A step in memory is the step of the log that is read from it. -/
theorem Represents.step {calls : List IndicationCall} {t : MemoryThreads} {a : ThreadAction}
    (h : Represents layout region log read) (hcalls : FittingCalls layout calls)
    (hfits : FitsEntry layout a) (hs : memoryStep layout region ⟨log, calls⟩ a = some t) :
    (∃ read', threadStep region.size ⟨read, calls⟩ a = some ⟨read', t.calls⟩ ∧
      Represents layout region t.log read') ∧
    FittingCalls layout t.calls ∧ ∀ a, region.Outside a → t.log.memory a = log.memory a := by
  cases a with
  | indicate thread interface entryType =>
      simp only [memoryStep] at hs
      split at hs
      · cases hs
      · rename_i hfree
        cases hs
        refine ⟨⟨read, if_neg hfree, h⟩, ?_, fun _ _ => rfl⟩
        intro c hc
        rcases List.mem_append.mp hc with hc | hc
        · exact hcalls c hc
        · rw [List.mem_singleton.mp hc]
          exact hfits
  | statement call timestamp =>
      obtain ⟨c, hc, hs⟩ := Option.bind_eq_some_iff.mp hs
      obtain ⟨⟨log', d⟩, hexecute, hs⟩ := Option.bind_eq_some_iff.mp hs
      cases hs
      obtain ⟨⟨read', hread, hnext⟩, hinterface, houtside⟩ :=
        h.execute (hcalls c (List.mem_of_getElem? hc)) hexecute
      refine ⟨⟨read', ?_, hnext⟩, ?_, houtside⟩
      · simp only [threadStep, hc, hread, Option.bind_eq_bind, Option.bind_some]
      · intro e he
        rcases List.mem_or_eq_of_mem_set he with he | rfl
        · exact hcalls e he
        · rw [hinterface]
          exact hcalls c (List.mem_of_getElem? hc)
  | freeze =>
      simp only [memoryStep] at hs
      unfold threadStep freezeInterfaceActivationLogging
      by_cases hsize : region.size = 0
      · rw [if_pos hsize] at hs ⊢
        cases hs
        exact ⟨⟨read, rfl, h⟩, hcalls, fun _ _ => rfl⟩
      · rw [if_neg hsize] at hs ⊢
        cases hs
        exact ⟨⟨_, rfl, rfl, h.counter, h.entries⟩, hcalls, fun _ _ => rfl⟩
  | unfreeze =>
      simp only [memoryStep] at hs
      unfold threadStep unfreezeInterfaceActivationLogging
      by_cases hsize : region.size = 0
      · rw [if_pos hsize] at hs ⊢
        cases hs
        exact ⟨⟨read, rfl, h⟩, hcalls, fun _ _ => rfl⟩
      · rw [if_neg hsize] at hs ⊢
        cases hs
        exact ⟨⟨_, rfl, rfl, h.counter, h.entries⟩, hcalls, fun _ _ => rfl⟩
  | clear =>
      simp only [memoryStep] at hs
      unfold threadStep clearInterfaceActivationLog
      by_cases hsize : region.size = 0
      · rw [if_pos hsize] at hs ⊢
        cases hs
        exact ⟨⟨read, rfl, h⟩, hcalls, fun _ _ => rfl⟩
      · rw [if_neg hsize] at hs ⊢
        cases hs
        exact ⟨⟨_, rfl, h.isFrozen, rfl, h.entries⟩, hcalls, fun _ _ => rfl⟩
  | get =>
      simp only [memoryStep] at hs
      split at hs
      · cases hs
      · rename_i hdefined
        cases hs
        have hzero : region.size = 0 → read.activationEntryCounter = 0 := fun hz =>
          h.counter.trans (not_not.mp fun hcounter => hdefined ⟨hcounter, hz⟩)
        obtain ⟨reported, hget, -⟩ := getInterfaceActivationEntryLog_size hzero
        refine ⟨⟨read, ?_, h⟩, hcalls, fun _ _ => rfl⟩
        rw [threadStep, hget]
        rfl

end Simulation

/-- The statements of the threads, executed on the bytes of the log section, do in every run what
they do to the log that is read from these bytes, and change no byte outside the section. -/
theorem logged_in_memory (layout : EntryLayout) (region : LogRegion) (memory : Memory)
    (as : List ThreadAction) (t : MemoryThreads)
    (hr : run (memoryStep layout region) (.start memory) as = some t)
    (hfits : ∀ a ∈ as, FitsEntry layout a) :
    (∃ read, run (threadStep region.size) ⟨.initial (entryAt layout region memory), []⟩ as =
      some ⟨read, t.calls⟩ ∧ Represents layout region t.log read) ∧
    ∀ a, region.Outside a → t.log.memory a = memory a := by
  have hall := run_induction (I := fun as t =>
    (∃ read, run (threadStep region.size) ⟨.initial (entryAt layout region memory), []⟩ as =
      some ⟨read, t.calls⟩ ∧ Represents layout region t.log read) ∧
    FittingCalls layout t.calls ∧ ∀ a, region.Outside a → t.log.memory a = memory a)
    (along_of_forall _ hfits) hr ?_ ?_
  · exact ⟨hall.1, hall.2.2⟩
  · refine ⟨⟨_, rfl, rfl, rfl, fun _ _ => rfl⟩, ?_, fun _ _ => rfl⟩
    intro c hc
    cases hc
  · rintro as s a u - ⟨⟨read, hread, hrepresents⟩, hcalls, houtside⟩ hfits hs
    obtain ⟨⟨read', hstep, hnext⟩, hfitting, hkept⟩ := hrepresents.step hcalls hfits hs
    refine ⟨⟨read', run_concat_some.mpr ⟨_, hread, hstep⟩, hnext⟩, hfitting, fun a ha => ?_⟩
    exact (hkept a ha).trans (houtside a ha)

/-- Four-byte enumerations and a section of two entries: two threads store into one slot. -/
theorem logged_in_memory_twoThreads :
    ∃ (t : MemoryThreads) (read : ActivationLog),
      run (threadStep 2) ⟨.initial fun _ => emptyEntry, []⟩
          [.unfreeze, .indicate 0 3 .activation, .statement 0 5, .statement 0 5,
            .indicate 1 4 .deactivation, .statement 1 6, .statement 1 6, .statement 0 5,
            .statement 0 5, .statement 0 5] =
        some ⟨read, t.calls⟩ ∧
      Represents ⟨4, 4, 4, 8, by decide, by decide, by decide, by decide⟩
        ⟨0x20400000#32, 0x20400020#32⟩ t.log read ∧
      t.log.memory 0x20400020#32 = 0#8 := by
  let layout : EntryLayout := ⟨4, 4, 4, 8, by decide, by decide, by decide, by decide⟩
  let region : LogRegion := ⟨0x20400000#32, 0x20400020#32⟩
  obtain ⟨t, hr⟩ : ∃ t, run (memoryStep layout region) (.start fun _ => 0#8)
      [.unfreeze, .indicate 0 3 .activation, .statement 0 5, .statement 0 5,
        .indicate 1 4 .deactivation, .statement 1 6, .statement 1 6, .statement 0 5,
        .statement 0 5, .statement 0 5] = some t :=
    Option.isSome_iff_exists.mp (by decide)
  obtain ⟨⟨read, hread, hrepresents⟩, houtside⟩ :=
    logged_in_memory layout region _ _ t hr (by decide)
  have hempty : (entryAt layout region fun _ => 0#8) = fun _ => emptyEntry := rfl
  have hsize : region.size = 2 := by decide
  rw [hempty, hsize] at hread
  exact ⟨t, read, hread, hrepresents, houtside _ (by decide)⟩

end SamV71Runtime.Monitor
