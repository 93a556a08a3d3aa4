import SamV71Runtime.ActivationLog
import SamV71Runtime.Runs

/-!
# The activation log as a bounded history

Whole operations, one after the other, beside the history they record: the entries
whose indication returned true since the last successful clear, newest first. The
64-bit counter wraps, so it is the length of the history modulo `2^64`.
-/
namespace SamV71Runtime.Monitor
open Runs RingHistory

structure RecordedLog where
  log : ActivationLog
  history : List InterfaceActivationEntry

def RecordedLog.initial (region : ℕ → InterfaceActivationEntry) : RecordedLog where
  log := .initial region
  history := []

inductive LogAction where
  | indicateActivated (interface : BitVec 32) (timestamp : BitVec 64)
  | indicateDeactivated (interface : BitVec 32) (timestamp : BitVec 64)
  | freeze
  | unfreeze
  | clear
  | get

/-- An indication enters the history when it returned true. -/
def recorded (history : List InterfaceActivationEntry) (entry : InterfaceActivationEntry)
    (reply : Bool × ActivationLog) : RecordedLog where
  log := reply.2
  history := if reply.1 then entry :: history else history

def logStep (size : BitVec 32) (s : RecordedLog) : LogAction → Option RecordedLog
  | .indicateActivated interface timestamp =>
      (indicateInterfaceActivated size s.log interface timestamp).map
        (recorded s.history ⟨interface, .activation, timestamp⟩)
  | .indicateDeactivated interface timestamp =>
      (indicateInterfaceDeactivated size s.log interface timestamp).map
        (recorded s.history ⟨interface, .deactivation, timestamp⟩)
  | .freeze => some { s with log := (freezeInterfaceActivationLogging size s.log).2 }
  | .unfreeze => some { s with log := (unfreezeInterfaceActivationLogging size s.log).2 }
  | .clear =>
      let reply := clearInterfaceActivationLog size s.log
      some ⟨reply.2, if reply.1 then [] else s.history⟩
  | .get => (getInterfaceActivationEntryLog size s.log).map fun _ => s

/-- What ties the log to its history in every reachable state. -/
structure Recording (size : BitVec 32) (region : ℕ → InterfaceActivationEntry)
    (s : RecordedLog) : Prop where
  counted : s.log.activationEntryCounter = BitVec.ofNat 64 s.history.length
  holds : Holds size.toNat s.log.activationEntryCounter.toNat s.log.activationLogBuffer s.history
  outside : ∀ i, size.toNat ≤ i → s.log.activationLogBuffer i = region i
  emptyFrozen : size = 0 → s.log.isFrozen = true ∧ s.history = []

section Steps
variable {size : BitVec 32} {region : ℕ → InterfaceActivationEntry} {s : RecordedLog}

theorem recording_initial (size : BitVec 32) (region : ℕ → InterfaceActivationEntry) :
    Recording size region (.initial region) where
  counted := rfl
  holds := holds_zero _ _ _
  outside _ _ := rfl
  emptyFrozen _ := ⟨rfl, rfl⟩

theorem Recording.handle (h : Recording size region s) (interface : BitVec 32)
    (entryType : EntryType) (timestamp : BitVec 64) :
    handleActivationLogCyclicBuffer size s.log interface entryType timestamp =
      if s.log.isFrozen then some (false, s.log)
      else some (true, s.log.record size ⟨interface, entryType, timestamp⟩) := by
  rw [handleActivationLogCyclicBuffer_eq]
  by_cases hfrozen : s.log.isFrozen = true
  · rw [if_pos hfrozen, if_pos hfrozen]
  · rw [if_neg hfrozen, if_neg hfrozen, if_neg fun hsize => hfrozen (h.emptyFrozen hsize).1]

theorem Recording.record (h : Recording size region s) (hfrozen : s.log.isFrozen = false)
    (entry : InterfaceActivationEntry) :
    Recording size region ⟨s.log.record size entry, entry :: s.history⟩ := by
  have hsize : size ≠ 0 := by
    intro hz
    rw [(h.emptyFrozen hz).1] at hfrozen
    cases hfrozen
  have hpos : 0 < size.toNat := Nat.pos_of_ne_zero fun hz => hsize (BitVec.toNat_inj.mp hz)
  constructor
  case counted =>
    simp only [ActivationLog.record, h.counted, List.length_cons, BitVec.ofNat_add]
    rfl
  case holds =>
    have hpush := h.holds.push entry
    have hcounter := s.log.activationEntryCounter.isLt
    simp only [ActivationLog.record, ActivationLog.slot, BitVec.toNat_add]
    by_cases hwrap : s.log.activationEntryCounter.toNat + 1 < 2 ^ 64
    · rw [Nat.mod_eq_of_lt (by exact hwrap)]
      exact hpush
    · have hzero : (s.log.activationEntryCounter.toNat + (1 : BitVec 64).toNat) % 2 ^ 64 = 0 := by
        change (s.log.activationEntryCounter.toNat + 1) % 2 ^ 64 = 0
        omega
      rw [hzero]
      exact holds_zero _ _ _
  case outside =>
    intro i hi
    have hslot : s.log.slot size < size.toNat := Nat.mod_lt _ hpos
    exact (Function.update_of_ne (by omega) ..).trans (h.outside i hi)
  case emptyFrozen => exact fun hz => absurd hz hsize

theorem Recording.indicate (h : Recording size region s) (interface : BitVec 32)
    (entryType : EntryType) (timestamp : BitVec 64) :
    ∃ t, (handleActivationLogCyclicBuffer size s.log interface entryType timestamp).map
        (recorded s.history ⟨interface, entryType, timestamp⟩) = some t ∧
      Recording size region t := by
  rw [h.handle]
  cases hfrozen : s.log.isFrozen with
  | true => exact ⟨s, rfl, h⟩
  | false => exact ⟨_, rfl, h.record hfrozen _⟩

/-- While the log is not frozen, an indication records its entry. -/
theorem Recording.indicate_unfrozen (h : Recording size region s)
    (hfrozen : s.log.isFrozen = false) (interface : BitVec 32) (entryType : EntryType)
    (timestamp : BitVec 64) :
    (handleActivationLogCyclicBuffer size s.log interface entryType timestamp).map
        (recorded s.history ⟨interface, entryType, timestamp⟩) =
      some ⟨s.log.record size ⟨interface, entryType, timestamp⟩,
        ⟨interface, entryType, timestamp⟩ :: s.history⟩ := by
  rw [h.handle, hfrozen]
  rfl

theorem Recording.counter_of_empty (h : Recording size region s) (hsize : size = 0) :
    s.log.activationEntryCounter = 0 := by
  rw [h.counted, (h.emptyFrozen hsize).2]
  rfl

/-- Every operation returns and keeps the log tied to its history. -/
theorem logStep_recording (h : Recording size region s) (a : LogAction) :
    ∃ t, logStep size s a = some t ∧ Recording size region t := by
  cases a with
  | indicateActivated interface timestamp => exact h.indicate interface .activation timestamp
  | indicateDeactivated interface timestamp => exact h.indicate interface .deactivation timestamp
  | freeze =>
      refine ⟨_, rfl, ?_⟩
      unfold freezeInterfaceActivationLogging
      split
      · exact h
      · rename_i hsize
        exact ⟨h.counted, h.holds, h.outside, fun hz => absurd hz hsize⟩
  | unfreeze =>
      refine ⟨_, rfl, ?_⟩
      unfold unfreezeInterfaceActivationLogging
      split
      · exact h
      · rename_i hsize
        exact ⟨h.counted, h.holds, h.outside, fun hz => absurd hz hsize⟩
  | clear =>
      refine ⟨_, rfl, ?_⟩
      unfold clearInterfaceActivationLog
      split
      · exact h
      · rename_i hsize
        exact ⟨rfl, holds_zero _ _ _, h.outside, fun hz => absurd hz hsize⟩
  | get =>
      obtain ⟨report, hreport, -⟩ := getInterfaceActivationEntryLog_size h.counter_of_empty
      exact ⟨s, by rw [logStep, hreport, Option.map_some], h⟩

theorem run_recording (size : BitVec 32) (region : ℕ → InterfaceActivationEntry)
    (as : List LogAction) :
    ∃ s, run (logStep size) (.initial region) as = some s ∧ Recording size region s :=
  run_total (fun _ a h => logStep_recording h a) (recording_initial size region) as

end Steps

/-- The bounded history that the log stands for, at counter `history.length % 2 ^ 64`. -/
structure BoundedHistory (size : BitVec 32) (region : ℕ → InterfaceActivationEntry)
    (s : RecordedLog) : Prop where
  counted : s.log.activationEntryCounter.toNat = s.history.length % 2 ^ 64
  reported : ∃ report, getInterfaceActivationEntryLog size s.log = some report ∧
    report.sizeOfActivationLog.toNat = min (s.history.length % 2 ^ 64) size.toNat
  slots : ∀ k, 1 ≤ k → k ≤ min (s.history.length % 2 ^ 64) size.toNat →
    s.history[k - 1]? =
      some (s.log.activationLogBuffer ((s.history.length % 2 ^ 64 - k) % size.toNat))
  activated : ∀ interface timestamp, ∃ log,
    indicateInterfaceActivated size s.log interface timestamp = some (!s.log.isFrozen, log)
  deactivated : ∀ interface timestamp, ∃ log,
    indicateInterfaceDeactivated size s.log interface timestamp = some (!s.log.isFrozen, log)
  outside : ∀ i, size.toNat ≤ i → s.log.activationLogBuffer i = region i

theorem Recording.reply {size : BitVec 32} {region : ℕ → InterfaceActivationEntry} {s : RecordedLog}
    (h : Recording size region s) (interface : BitVec 32) (entryType : EntryType)
    (timestamp : BitVec 64) :
    ∃ log, handleActivationLogCyclicBuffer size s.log interface entryType timestamp =
      some (!s.log.isFrozen, log) := by
  rw [h.handle]
  cases s.log.isFrozen with
  | true => exact ⟨_, rfl⟩
  | false => exact ⟨_, rfl⟩

theorem Recording.boundedHistory {size : BitVec 32} {region : ℕ → InterfaceActivationEntry}
    {s : RecordedLog} (h : Recording size region s) : BoundedHistory size region s := by
  have hcounted : s.log.activationEntryCounter.toNat = s.history.length % 2 ^ 64 := by
    rw [h.counted, BitVec.toNat_ofNat]
  refine ⟨hcounted, ?_, ?_, fun interface => h.reply interface .activation,
    fun interface => h.reply interface .deactivation, h.outside⟩
  · rw [← hcounted]
    exact getInterfaceActivationEntryLog_size h.counter_of_empty
  · intro k hk hle
    rw [← hcounted] at hle ⊢
    rw [h.holds (k - 1) (by omega), show s.log.activationEntryCounter.toNat - 1 - (k - 1) =
      s.log.activationEntryCounter.toNat - k by omega]

/-- No sequence of operations divides by zero, and each leaves a bounded history. -/
theorem log_refines_bounded_history (size : BitVec 32) (region : ℕ → InterfaceActivationEntry)
    (as : List LogAction) :
    ∃ s, run (logStep size) (.initial region) as = some s ∧ BoundedHistory size region s := by
  obtain ⟨s, hrun, h⟩ := run_recording size region as
  exact ⟨s, hrun, h.boundedHistory⟩

theorem run_indications {size : BitVec 32} {region : ℕ → InterfaceActivationEntry} {s t : RecordedLog}
    (h : Recording size region s) (hfrozen : s.log.isFrozen = false) (interface : BitVec 32)
    (timestamp : BitVec 64) (n : ℕ)
    (hr : run (logStep size) s (List.replicate n (.indicateActivated interface timestamp)) = some t) :
    t.history.length = s.history.length + n := by
  induction n generalizing s with
  | zero =>
      obtain rfl := Option.some.inj hr
      rfl
  | succ n ih =>
      obtain ⟨m, hm, hr⟩ := Option.bind_eq_some_iff.mp hr
      have hrecord : logStep size s (.indicateActivated interface timestamp) =
          some ⟨s.log.record size ⟨interface, .activation, timestamp⟩,
            ⟨interface, .activation, timestamp⟩ :: s.history⟩ :=
        h.indicate_unfrozen hfrozen interface .activation timestamp
      obtain rfl := Option.some.inj (hrecord.symm.trans hm)
      have ht := ih (h.record hfrozen _) hfrozen hr
      rw [ht, List.length_cons]
      omega

/-- After `2^64` recorded entries the counter is 0. -/
theorem counter_wraps : ∃ s,
    run (logStep 1#32) (.initial fun _ => emptyEntry)
      (.unfreeze :: List.replicate (2 ^ 64) (.indicateActivated 5#32 100#64)) = some s ∧
    s.history.length = 2 ^ 64 ∧ s.log.activationEntryCounter = 0 ∧
    s.log.activationEntryCounter.toNat ≠ s.history.length := by
  obtain ⟨s, hrun, h⟩ := run_recording 1#32 (fun _ => emptyEntry)
    (.unfreeze :: List.replicate (2 ^ 64) (.indicateActivated 5#32 100#64))
  obtain ⟨m, hm, hrest⟩ := Option.bind_eq_some_iff.mp hrun
  obtain ⟨m', hm', hrecording⟩ := logStep_recording
    (recording_initial 1#32 fun _ => emptyEntry) .unfreeze
  obtain rfl := Option.some.inj (hm.symm.trans hm')
  obtain rfl := Option.some.inj hm
  have hlength := run_indications hrecording rfl 5#32 100#64 (2 ^ 64) hrest
  have hzero : s.log.activationEntryCounter = 0 := by
    rw [h.counted, hlength]
    rfl
  refine ⟨s, hrun, hlength, hzero, ?_⟩
  rw [hzero, hlength]
  decide

/-- The newest entry is where the report says, and the rest before it. -/
def DesignatesNewest (size : BitVec 32) (s : RecordedLog) : Prop :=
  ∀ report, getInterfaceActivationEntryLog size s.log = some report →
    report.sizeOfActivationLog ≠ 0 →
    report.latestActivationEntryIndex < report.sizeOfActivationLog ∧
    s.history.head? = some (s.log.activationLogBuffer report.latestActivationEntryIndex.toNat) ∧
    walkBack size.toNat s.log.activationLogBuffer report.latestActivationEntryIndex.toNat
      report.sizeOfActivationLog.toNat = s.history.take report.sizeOfActivationLog.toNat

section Report
variable {size : BitVec 32} {region : ℕ → InterfaceActivationEntry} {s : RecordedLog}

/-- On a multiple of the buffer size the index is past every size. -/
theorem Recording.not_designatesNewest (h : Recording size region s)
    (hcounter : s.log.activationEntryCounter ≠ 0)
    (hmultiple : s.log.activationEntryCounter.toNat % size.toNat = 0) :
    ¬ DesignatesNewest size s := by
  intro hnewest
  obtain ⟨report, hget, hsize⟩ := getInterfaceActivationEntryLog_size h.counter_of_empty
  have hlatest := getInterfaceActivationEntryLog_latest hget hcounter
  rw [if_pos hmultiple] at hlatest
  have hcount : s.log.activationEntryCounter.toNat ≠ 0 :=
    fun hz => hcounter (BitVec.toNat_inj.mp hz)
  have hroom : size.toNat ≠ 0 :=
    fun hz => hcounter (h.counter_of_empty (BitVec.toNat_inj.mp hz))
  have hreported : report.sizeOfActivationLog ≠ 0 := by
    intro hz
    rw [hz] at hsize
    change 0 = _ at hsize
    omega
  have hbelow := (hnewest report hget hreported).1
  rw [BitVec.lt_def, hlatest] at hbelow
  have hbound := report.sizeOfActivationLog.isLt
  omega

/-- Elsewhere the index is that of the entry recorded last. -/
theorem Recording.designatesNewest (h : Recording size region s)
    (hcounter : s.log.activationEntryCounter = 0 ∨
      s.log.activationEntryCounter.toNat % size.toNat ≠ 0) : DesignatesNewest size s := by
  intro report hget hreported
  obtain ⟨report', hget', hsize⟩ := getInterfaceActivationEntryLog_size h.counter_of_empty
  obtain rfl := Option.some.inj (hget.symm.trans hget')
  have hpositive : report.sizeOfActivationLog.toNat ≠ 0 :=
    fun hz => hreported (BitVec.toNat_inj.mp hz)
  have hne : s.log.activationEntryCounter ≠ 0 := by
    intro hz
    rw [hz] at hsize
    change _ = min 0 _ at hsize
    omega
  have hlatest := getInterfaceActivationEntryLog_latest hget hne
  rw [if_neg (hcounter.resolve_left hne)] at hlatest
  have hlt := Nat.mod_lt (s.log.activationEntryCounter.toNat - 1) (show 0 < size.toNat by omega)
  have hle := Nat.mod_le (s.log.activationEntryCounter.toNat - 1) size.toNat
  rw [BitVec.lt_def, hlatest, List.head?_eq_getElem?, h.holds 0 (by omega)]
  refine ⟨by omega, rfl, ?_⟩
  apply h.holds.walkBack
  omega

end Report

/-- The report is right on every counter that is 0 or no multiple of the buffer size,
and on no other. -/
theorem designatesNewest_iff {size : BitVec 32} {region : ℕ → InterfaceActivationEntry}
    (as : List LogAction) {s : RecordedLog}
    (hr : run (logStep size) (.initial region) as = some s) :
    DesignatesNewest size s ↔ s.log.activationEntryCounter = 0 ∨
      s.log.activationEntryCounter.toNat % size.toNat ≠ 0 := by
  obtain ⟨s', hr', h⟩ := run_recording size region as
  obtain rfl := Option.some.inj (hr.symm.trans hr')
  constructor
  · intro hnewest
    by_contra hmultiple
    obtain ⟨hcounter, hmod⟩ := not_or.mp hmultiple
    exact h.not_designatesNewest hcounter (not_not.mp hmod) hnewest
  · exact h.designatesNewest

/-- Five entries for a buffer of three: the last two stand where the first two stood. -/
def fiveEntries : List LogAction :=
  [.unfreeze, .indicateActivated 5#32 100#64, .indicateDeactivated 5#32 200#64,
    .indicateActivated 6#32 300#64, .indicateDeactivated 6#32 400#64,
    .indicateActivated 5#32 500#64]

theorem overwritten_ring_designated : ∃ s,
    run (logStep 3#32) (.initial fun _ => emptyEntry) fiveEntries = some s ∧
    getInterfaceActivationEntryLog 3#32 s.log = some ⟨1#32, 3#32⟩ ∧
    walkBack 3 s.log.activationLogBuffer 1 3 =
      [⟨5#32, .activation, 500#64⟩, ⟨6#32, .deactivation, 400#64⟩,
        ⟨6#32, .activation, 300#64⟩] ∧
    DesignatesNewest 3#32 s :=
  ⟨_, rfl, rfl, by decide, (designatesNewest_iff fiveEntries rfl).mpr (Or.inr (by decide))⟩

/-- Once the buffer has been filled to its end, the reported index is `2^32 - 1`. -/
theorem full_buffer_not_designated : ∃ s,
    run (logStep 2#32) (.initial fun _ => emptyEntry)
      [.unfreeze, .indicateActivated 5#32 100#64, .indicateDeactivated 5#32 200#64] = some s ∧
    getInterfaceActivationEntryLog 2#32 s.log = some ⟨0xFFFFFFFF#32, 2#32⟩ ∧
    ¬ DesignatesNewest 2#32 s := by
  refine ⟨_, rfl, rfl, fun hnewest => ?_⟩
  exact absurd (hnewest ⟨0xFFFFFFFF#32, 2#32⟩ rfl (by decide)).1 (by decide)

end SamV71Runtime.Monitor
