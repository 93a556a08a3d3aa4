import SamV71Runtime.RingHistory

/-!
# The interface activation log

The log as compiled with `RT_EXEC_LOG_ACTIVE`. Memory from `log_buffer_start` on is one
unbounded array of entries, of which the first `RT_EXEC_LOG_BUFFER_SIZE` are the buffer;
`none` is the division by zero of a remainder by that size.
-/
namespace SamV71Runtime.Monitor

inductive EntryType where
  | activation
  | deactivation
  deriving DecidableEq, Repr

structure InterfaceActivationEntry where
  interface : BitVec 32
  entryType : EntryType
  timestamp : BitVec 64
  deriving DecidableEq, Repr

/-- What a cleared memory region reads as. -/
def emptyEntry : InterfaceActivationEntry := ⟨0#32, .activation, 0#64⟩

structure ActivationLog where
  isFrozen : Bool
  activationEntryCounter : BitVec 64
  activationLogBuffer : ℕ → InterfaceActivationEntry

def ActivationLog.initial (region : ℕ → InterfaceActivationEntry) : ActivationLog where
  isFrozen := true
  activationEntryCounter := 0
  activationLogBuffer := region

def sizeofInterfaceActivationEntry : BitVec 32 := 16#32

def rtExecLogBufferSize (logBufferStart logBufferEnd : BitVec 32) : BitVec 32 :=
  (logBufferEnd - logBufferStart) / sizeofInterfaceActivationEntry

/-- `activation_entry_counter % RT_EXEC_LOG_BUFFER_SIZE`, in 64 bits. -/
def counterRemainder (size : BitVec 32) (log : ActivationLog) : Option (BitVec 64) :=
  if size = 0 then none else some (log.activationEntryCounter % size.setWidth 64)

/-- An assignment to a field of the slot that the counter selects. -/
def storeField (size : BitVec 32) (log : ActivationLog)
    (assign : InterfaceActivationEntry → InterfaceActivationEntry) : Option ActivationLog :=
  (counterRemainder size log).map fun slot =>
    let entry := log.activationLogBuffer slot.toNat
    { log with
      activationLogBuffer := Function.update log.activationLogBuffer slot.toNat (assign entry) }

def storeInterface (size : BitVec 32) (log : ActivationLog) (interface : BitVec 32) :
    Option ActivationLog :=
  storeField size log fun entry => { entry with interface }

def storeEntryType (size : BitVec 32) (log : ActivationLog) (entryType : EntryType) :
    Option ActivationLog :=
  storeField size log fun entry => { entry with entryType }

/-- `timestamp` is what `Hal_GetElapsedTimeInNs` returns here. -/
def storeTimestamp (size : BitVec 32) (log : ActivationLog) (timestamp : BitVec 64) :
    Option ActivationLog :=
  storeField size log fun entry => { entry with timestamp }

def incrementCounter (log : ActivationLog) : ActivationLog :=
  { log with activationEntryCounter := log.activationEntryCounter + 1 }

def handleActivationLogCyclicBuffer (size : BitVec 32) (log : ActivationLog)
    (interface : BitVec 32) (entryType : EntryType) (timestamp : BitVec 64) :
    Option (Bool × ActivationLog) :=
  if log.isFrozen then some (false, log)
  else do
    let log ← storeInterface size log interface
    let log ← storeEntryType size log entryType
    let log ← storeTimestamp size log timestamp
    some (true, incrementCounter log)

def indicateInterfaceActivated (size : BitVec 32) (log : ActivationLog) (interface : BitVec 32)
    (timestamp : BitVec 64) : Option (Bool × ActivationLog) :=
  handleActivationLogCyclicBuffer size log interface .activation timestamp

def indicateInterfaceDeactivated (size : BitVec 32) (log : ActivationLog) (interface : BitVec 32)
    (timestamp : BitVec 64) : Option (Bool × ActivationLog) :=
  handleActivationLogCyclicBuffer size log interface .deactivation timestamp

/-- What `Monitor_GetInterfaceActivationEntryLog` writes beside the buffer's address. -/
structure ReportedLog where
  latestActivationEntryIndex : BitVec 32
  sizeOfActivationLog : BitVec 32
  deriving DecidableEq, Repr

def getInterfaceActivationEntryLog (size : BitVec 32) (log : ActivationLog) :
    Option ReportedLog :=
  if log.activationEntryCounter = 0 then some ⟨0, 0⟩
  else (counterRemainder size log).map fun remainder =>
    { latestActivationEntryIndex := (remainder - 1).setWidth 32
      sizeOfActivationLog :=
        if size.setWidth 64 < log.activationEntryCounter then size
        else log.activationEntryCounter.setWidth 32 }

def freezeInterfaceActivationLogging (size : BitVec 32) (log : ActivationLog) :
    Bool × ActivationLog :=
  if size = 0 then (false, log) else (true, { log with isFrozen := true })

def unfreezeInterfaceActivationLogging (size : BitVec 32) (log : ActivationLog) :
    Bool × ActivationLog :=
  if size = 0 then (false, log) else (true, { log with isFrozen := false })

def clearInterfaceActivationLog (size : BitVec 32) (log : ActivationLog) : Bool × ActivationLog :=
  if size = 0 then (false, log) else (true, { log with activationEntryCounter := 0 })

/-- The buffer is empty when the log region is smaller than one entry. -/
def ActivationLog.slot (size : BitVec 32) (log : ActivationLog) : ℕ :=
  log.activationEntryCounter.toNat % size.toNat

/-- An entry written whole into its slot, and counted. -/
def ActivationLog.record (size : BitVec 32) (log : ActivationLog)
    (entry : InterfaceActivationEntry) : ActivationLog where
  isFrozen := log.isFrozen
  activationEntryCounter := log.activationEntryCounter + 1
  activationLogBuffer := Function.update log.activationLogBuffer (log.slot size) entry

section Stores
variable {size : BitVec 32} (log : ActivationLog)

theorem counterRemainder_of_ne (hsize : size ≠ 0) :
    counterRemainder size log = some (log.activationEntryCounter % size.setWidth 64) :=
  if_neg hsize

theorem toNat_remainder (counter : BitVec 64) (size : BitVec 32) :
    (counter % size.setWidth 64).toNat = counter.toNat % size.toNat := by
  rw [BitVec.toNat_umod, BitVec.toNat_setWidth_of_le (by decide)]

theorem storeField_of_ne (hsize : size ≠ 0)
    (assign : InterfaceActivationEntry → InterfaceActivationEntry) :
    storeField size log assign = some { log with
      activationLogBuffer := Function.update log.activationLogBuffer (log.slot size)
        (assign (log.activationLogBuffer (log.slot size))) } := by
  rw [storeField, counterRemainder_of_ne log hsize, Option.map_some, toNat_remainder]
  rfl

theorem storeField_cases {log log' : ActivationLog}
    {assign : InterfaceActivationEntry → InterfaceActivationEntry}
    (h : storeField size log assign = some log') :
    log' = { log with
      activationLogBuffer := Function.update log.activationLogBuffer (log.slot size)
        (assign (log.activationLogBuffer (log.slot size))) } := by
  by_cases hsize : size = 0
  · simp [storeField, counterRemainder, hsize] at h
  · exact Option.some.inj (h.symm.trans (storeField_of_ne log hsize assign))

/-- Uninterrupted, the three stores and the increment write one whole entry. -/
theorem handleActivationLogCyclicBuffer_eq (interface : BitVec 32) (entryType : EntryType)
    (timestamp : BitVec 64) :
    handleActivationLogCyclicBuffer size log interface entryType timestamp =
      if log.isFrozen then some (false, log)
      else if size = 0 then none
      else some (true, log.record size ⟨interface, entryType, timestamp⟩) := by
  unfold handleActivationLogCyclicBuffer
  by_cases hfrozen : log.isFrozen = true
  · rw [if_pos hfrozen, if_pos hfrozen]
  · rw [if_neg hfrozen, if_neg hfrozen]
    by_cases hsize : size = 0
    · simp [storeInterface, storeField, counterRemainder, hsize]
    · rw [if_neg hsize]
      simp [storeInterface, storeEntryType, storeTimestamp, storeField_of_ne _ hsize,
        ActivationLog.record, ActivationLog.slot, incrementCounter]

end Stores

section Report
variable {size : BitVec 32} {log : ActivationLog}

/-- The size that is reported, for whatever counter. -/
theorem getInterfaceActivationEntryLog_size (h : size = 0 → log.activationEntryCounter = 0) :
    ∃ report, getInterfaceActivationEntryLog size log = some report ∧
      report.sizeOfActivationLog.toNat =
        min log.activationEntryCounter.toNat size.toNat := by
  unfold getInterfaceActivationEntryLog
  by_cases hzero : log.activationEntryCounter = 0
  · rw [if_pos hzero, hzero]
    exact ⟨_, rfl, by simp⟩
  · rw [if_neg hzero, counterRemainder_of_ne log fun hs => hzero (h hs)]
    refine ⟨_, rfl, ?_⟩
    have hsize := size.isLt
    have hwide : (size.setWidth 64).toNat = size.toNat := BitVec.toNat_setWidth_of_le (by decide)
    simp only [BitVec.lt_def, hwide]
    split
    · omega
    · rw [BitVec.toNat_setWidth]
      omega

/-- The index that is reported: on a multiple of the size, minus one in 32 bits. -/
theorem getInterfaceActivationEntryLog_latest {report : ReportedLog}
    (hget : getInterfaceActivationEntryLog size log = some report)
    (hcounter : log.activationEntryCounter ≠ 0) :
    report.latestActivationEntryIndex.toNat =
      if log.activationEntryCounter.toNat % size.toNat = 0 then 2 ^ 32 - 1
      else (log.activationEntryCounter.toNat - 1) % size.toNat := by
  rw [getInterfaceActivationEntryLog, if_neg hcounter] at hget
  obtain ⟨remainder, hremainder, rfl⟩ := Option.map_eq_some_iff.mp hget
  have hsize : size ≠ 0 := by
    rintro rfl
    cases hremainder
  obtain rfl := Option.some.inj ((counterRemainder_of_ne log hsize).symm.trans hremainder)
  have hpos : 0 < size.toNat := Nat.pos_of_ne_zero fun hz => hsize (BitVec.toNat_inj.mp hz)
  have hlt := Nat.mod_lt log.activationEntryCounter.toNat hpos
  have hbound := size.isLt
  have hone : (1 : BitVec 64).toNat = 1 := rfl
  simp only [BitVec.toNat_setWidth, BitVec.toNat_sub, toNat_remainder, hone]
  by_cases hz : log.activationEntryCounter.toNat % size.toNat = 0
  · rw [if_pos hz, hz]
    decide
  · rw [if_neg hz, RingHistory.pred_mod_of_ne hz]
    omega

end Report

end SamV71Runtime.Monitor
