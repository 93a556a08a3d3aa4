import SamV71Runtime.ActivationLogHistory
import SamV71Runtime.Alternation
import SamV71Runtime.ExecutionTimes

/-!
# Processing requests beside the activation log

Every thread executes `ThreadsCommon_ProcessRequest` over and over, for its own
interface. One step is one statement of one thread; the user functions touch none of
the data here. The clock readings of a run do not decrease.
-/
namespace SamV71Runtime.ThreadsCommon
open Monitor Runs RingHistory Alternation

variable {n : ℕ}

/-- `(const enum interfaces_enum)thread_id`. -/
def interfaceOf (threadId : Fin n) : BitVec 32 := BitVec.ofNat 32 threadId

/-- What `Hal_GetElapsedTimeInNs` returns to a call, in the order of its readings. -/
structure ClockReadings where
  activatedAt : BitVec 64
  timeBeforeExecution : BitVec 64
  timeAfterExecution : BitVec 64
  deactivatedAt : BitVec 64

def storeExecutionTime (threadsInfo : Fin n → ThreadInfo) (threadId : Fin n)
    (threadExecutionTime : BitVec 64) : Fin n → ThreadInfo :=
  Function.update threadsInfo threadId { threadsInfo threadId with threadExecutionTime }

/-- A whole call. -/
def processRequest (size : BitVec 32) (recorded : RecordedLog) (threadsInfo : Fin n → ThreadInfo)
    (threadId : Fin n) (clock : ClockReadings) :
    Option (Bool × RecordedLog × (Fin n → ThreadInfo)) := do
  let recorded ← logStep size recorded (.indicateActivated (interfaceOf threadId) clock.activatedAt)
  let recorded ←
    logStep size recorded (.indicateDeactivated (interfaceOf threadId) clock.deactivatedAt)
  let threadsInfo := storeExecutionTime threadsInfo threadId
    (clock.timeAfterExecution - clock.timeBeforeExecution)
  let threadsInfo :=
    updateExecutionTimeData threadsInfo threadId (threadsInfo threadId).threadExecutionTime
  some (true, recorded, threadsInfo)

/-- Where a thread is, with the locals of its call and the timestamps of its entries. -/
inductive ProcessPoint where
  | outside
  | activated (activatedAt : BitVec 64)
  | executing (activatedAt timeBeforeExecution : BitVec 64)
  | executed (activatedAt timeBeforeExecution : BitVec 64)
  | measured (activatedAt timeBeforeExecution timeAfterExecution : BitVec 64)
  | deactivated (activatedAt timeBeforeExecution timeAfterExecution deactivatedAt : BitVec 64)
  | stored (activatedAt deactivatedAt : BitVec 64)

/-- A call that has returned, with the time it stored. -/
structure Execution (n : ℕ) where
  threadId : Fin n
  activatedAt : BitVec 64
  deactivatedAt : BitVec 64
  threadExecutionTime : BitVec 64

structure ProcessState (n : ℕ) where
  recorded : RecordedLog
  threadsInfo : Fin n → ThreadInfo
  clock : BitVec 64
  points : Fin n → ProcessPoint
  completed : List (Execution n)

/-- Logging is on and nothing has been recorded; the log region holds anything. -/
def ProcessState.initial (region : ℕ → InterfaceActivationEntry) (threadsInfo : Fin n → ThreadInfo) :
    ProcessState n where
  recorded := ⟨⟨false, 0, region⟩, []⟩
  threadsInfo := threadsInfo
  clock := 0
  points _ := .outside
  completed := []

/-- The next statement of a thread, with the time at which it is executed. -/
structure ProcessAction (n : ℕ) where
  threadId : Fin n
  now : BitVec 64

def ProcessState.goto (s : ProcessState n) (a : ProcessAction n) (point : ProcessPoint) :
    ProcessState n :=
  { s with clock := a.now, points := Function.update s.points a.threadId point }

def processStatement (size : BitVec 32) (s : ProcessState n) (a : ProcessAction n) :
    Option (ProcessState n) :=
  match s.points a.threadId with
  | .outside =>
      (logStep size s.recorded (.indicateActivated (interfaceOf a.threadId) a.now)).map
        fun recorded => { s with recorded }.goto a (.activated a.now)
  | .activated activatedAt => some (s.goto a (.executing activatedAt a.now))
  | .executing activatedAt before => some (s.goto a (.executed activatedAt before))
  | .executed activatedAt before => some (s.goto a (.measured activatedAt before a.now))
  | .measured activatedAt before after =>
      (logStep size s.recorded (.indicateDeactivated (interfaceOf a.threadId) a.now)).map
        fun recorded => { s with recorded }.goto a (.deactivated activatedAt before after a.now)
  | .deactivated activatedAt before after deactivatedAt =>
      let threadsInfo := storeExecutionTime s.threadsInfo a.threadId (after - before)
      some ({ s with threadsInfo }.goto a (.stored activatedAt deactivatedAt))
  | .stored activatedAt deactivatedAt =>
      let time := (s.threadsInfo a.threadId).threadExecutionTime
      let threadsInfo := updateExecutionTimeData s.threadsInfo a.threadId time
      let completed := s.completed ++ [⟨a.threadId, activatedAt, deactivatedAt, time⟩]
      some ({ s with threadsInfo, completed }.goto a .outside)

def processStep (size : BitVec 32) (s : ProcessState n) (a : ProcessAction n) :
    Option (ProcessState n) :=
  if s.clock ≤ a.now then processStatement size s a else none

/-- The entries of one interface, oldest first. -/
def entriesOf (interface : BitVec 32) (history : List InterfaceActivationEntry) :
    List InterfaceActivationEntry :=
  history.reverse.filter fun entry => entry.interface = interface

/-- The entries that the log still holds, newest first. -/
def heldEntries (size : BitVec 32) (log : ActivationLog) : List InterfaceActivationEntry :=
  walkBack size.toNat log.activationLogBuffer ((log.activationEntryCounter.toNat - 1) % size.toNat)
    (min log.activationEntryCounter.toNat size.toNat)

def Execution.entries (e : Execution n) : List InterfaceActivationEntry :=
  [⟨interfaceOf e.threadId, .activation, e.activatedAt⟩,
    ⟨interfaceOf e.threadId, .deactivation, e.deactivatedAt⟩]

/-- The entries of the call a thread is in. -/
def ProcessPoint.entries (threadId : Fin n) : ProcessPoint → List InterfaceActivationEntry
  | .outside => []
  | .activated activatedAt | .executing activatedAt _ | .executed activatedAt _
  | .measured activatedAt _ _ => [⟨interfaceOf threadId, .activation, activatedAt⟩]
  | .deactivated activatedAt _ _ deactivatedAt | .stored activatedAt deactivatedAt =>
      [⟨interfaceOf threadId, .activation, activatedAt⟩,
        ⟨interfaceOf threadId, .deactivation, deactivatedAt⟩]

/-- The entries of a thread's calls, in the order of its program. -/
def ProcessState.entriesOfCalls (s : ProcessState n) (threadId : Fin n) :
    List InterfaceActivationEntry :=
  (s.completed.filter fun e => e.threadId = threadId).flatMap Execution.entries ++
    (s.points threadId).entries threadId

/-- Every execution lies between its two entries, and the log itself holds the newest of
all entries made: the counter counts them, modulo `2^64`, and they stand in the ring. -/
structure Bracketed (size : BitVec 32) (s : ProcessState n) : Prop where
  counted : s.recorded.log.activationEntryCounter.toNat = s.recorded.history.length % 2 ^ 64
  newest : Holds size.toNat (s.recorded.history.length % 2 ^ 64)
    s.recorded.log.activationLogBuffer s.recorded.history
  ofCalls : ∀ i, entriesOf (interfaceOf i) s.recorded.history = s.entriesOfCalls i
  alternating : ∀ i : Fin n, Alternates .activation .deactivation
    ((entriesOf (interfaceOf i) s.recorded.history).map (·.entryType))
  ordered : s.recorded.history.reverse.Pairwise fun a b => a.timestamp ≤ b.timestamp
  durations : ∀ e ∈ s.completed, e.activatedAt ≤ e.deactivatedAt ∧
    e.threadExecutionTime ≤ e.deactivatedAt - e.activatedAt
  held : heldEntries size s.recorded.log =
    s.recorded.history.take (min s.recorded.log.activationEntryCounter.toNat size.toNat)
  heldAlternating : ∀ i : Fin n,
    Alternates .activation .deactivation
      ((entriesOf (interfaceOf i) (heldEntries size s.recorded.log)).map (·.entryType)) ∨
    Alternates .deactivation .activation
      ((entriesOf (interfaceOf i) (heldEntries size s.recorded.log)).map (·.entryType))

/-- A call's readings so far, in their order, and what it will have stored. -/
def ProcessPoint.InOrder (clock stored : ℕ) : ProcessPoint → Prop
  | .outside => True
  | .activated activatedAt => activatedAt.toNat ≤ clock
  | .executing activatedAt before | .executed activatedAt before =>
      activatedAt.toNat ≤ before.toNat ∧ before.toNat ≤ clock
  | .measured activatedAt before after =>
      activatedAt.toNat ≤ before.toNat ∧ before.toNat ≤ after.toNat ∧ after.toNat ≤ clock
  | .deactivated activatedAt before after deactivatedAt =>
      activatedAt.toNat ≤ before.toNat ∧ before.toNat ≤ after.toNat ∧
        after.toNat ≤ deactivatedAt.toNat ∧ deactivatedAt.toNat ≤ clock
  | .stored activatedAt deactivatedAt =>
      activatedAt.toNat + stored ≤ deactivatedAt.toNat ∧ deactivatedAt.toNat ≤ clock

/-- What ties the threads to the log in every reachable state. -/
structure Processing (size : BitVec 32) (region : ℕ → InterfaceActivationEntry)
    (s : ProcessState n) : Prop where
  recording : Recording size region s.recorded
  unfrozen : s.recorded.log.isFrozen = false
  ofCalls : ∀ i, entriesOf (interfaceOf i) s.recorded.history = s.entriesOfCalls i
  ordered : s.recorded.history.reverse.Pairwise fun a b => a.timestamp ≤ b.timestamp
  past : ∀ entry ∈ s.recorded.history, entry.timestamp ≤ s.clock
  points : ∀ i, (s.points i).InOrder s.clock.toNat (s.threadsInfo i).threadExecutionTime.toNat
  durations : ∀ e ∈ s.completed,
    e.activatedAt.toNat + e.threadExecutionTime.toNat ≤ e.deactivatedAt.toNat

section Entries

theorem interfaceOf_injective (hn : n ≤ 2 ^ 32) {i j : Fin n}
    (h : interfaceOf i = interfaceOf j) : i = j := by
  have hnat := congrArg BitVec.toNat h
  rw [interfaceOf, interfaceOf, BitVec.toNat_ofNat, BitVec.toNat_ofNat,
    Nat.mod_eq_of_lt (i.isLt.trans_le hn), Nat.mod_eq_of_lt (j.isLt.trans_le hn)] at hnat
  exact Fin.ext hnat

theorem entriesOf_cons (interface : BitVec 32) (entry : InterfaceActivationEntry)
    (history : List InterfaceActivationEntry) :
    entriesOf interface (entry :: history) =
      entriesOf interface history ++ if entry.interface = interface then [entry] else [] := by
  unfold entriesOf
  by_cases hi : entry.interface = interface
  · simp [List.filter_append, hi]
  · simp [List.filter_append, hi]

/-- The newest entries of a history are the last of an interface's. -/
theorem entriesOf_take (interface : BitVec 32) (history : List InterfaceActivationEntry) (m : ℕ) :
    entriesOf interface history =
      entriesOf interface (history.drop m) ++ entriesOf interface (history.take m) := by
  unfold entriesOf
  rw [← List.filter_append, ← List.reverse_append, List.take_append_drop]

theorem ProcessPoint.InOrder.mono {clock clock' stored : ℕ} {point : ProcessPoint}
    (h : point.InOrder clock stored) (hle : clock ≤ clock') : point.InOrder clock' stored := by
  cases point with
  | outside => trivial
  | activated => exact h.trans hle
  | executing => exact ⟨h.1, h.2.trans hle⟩
  | executed => exact ⟨h.1, h.2.trans hle⟩
  | measured => exact ⟨h.1, h.2.1, h.2.2.trans hle⟩
  | deactivated => exact ⟨h.1, h.2.1, h.2.2.1, h.2.2.2.trans hle⟩
  | stored => exact ⟨h.1, h.2.trans hle⟩

theorem alternates_pending (threadId : Fin n) (point : ProcessPoint) :
    Alternates .activation .deactivation ((point.entries threadId).map (·.entryType)) := by
  cases point with
  | outside => trivial
  | activated => exact ⟨rfl, trivial⟩
  | executing => exact ⟨rfl, trivial⟩
  | executed => exact ⟨rfl, trivial⟩
  | measured => exact ⟨rfl, trivial⟩
  | deactivated => exact ⟨rfl, rfl, trivial⟩
  | stored => exact ⟨rfl, rfl, trivial⟩

theorem alternates_entriesOfCalls (s : ProcessState n) (i : Fin n) :
    Alternates .activation .deactivation ((s.entriesOfCalls i).map (·.entryType)) := by
  rw [ProcessState.entriesOfCalls, List.map_append, List.map_flatMap]
  apply alternates_pairs
  · exact fun _ => rfl
  · exact alternates_pending i (s.points i)

end Entries

section Steps
variable {size : BitVec 32} {region : ℕ → InterfaceActivationEntry} {s : ProcessState n}
  {a : ProcessAction n} {point : ProcessPoint} {threadsInfo : Fin n → ThreadInfo}

/-- One thread moves, and time passes for the others. -/
theorem inOrder_update (h : ∀ i, (s.points i).InOrder s.clock.toNat
      (s.threadsInfo i).threadExecutionTime.toNat) (hnow : s.clock ≤ a.now)
    (hothers : ∀ i, i ≠ a.threadId → threadsInfo i = s.threadsInfo i)
    (hpoint : point.InOrder a.now.toNat (threadsInfo a.threadId).threadExecutionTime.toNat)
    (i : Fin n) : (Function.update s.points a.threadId point i).InOrder a.now.toNat
      (threadsInfo i).threadExecutionTime.toNat := by
  by_cases hi : i = a.threadId
  · rw [hi, Function.update_self]
    exact hpoint
  · rw [Function.update_of_ne hi, hothers i hi]
    exact (h i).mono hnow

/-- A step that records an entry of its own thread. -/
theorem Processing.indicate (hn : n ≤ 2 ^ 32) (h : Processing size region s)
    (hnow : s.clock ≤ a.now) (entryType : EntryType)
    (hentries : point.entries a.threadId = (s.points a.threadId).entries a.threadId ++
      [⟨interfaceOf a.threadId, entryType, a.now⟩])
    (hpoint : point.InOrder a.now.toNat (s.threadsInfo a.threadId).threadExecutionTime.toNat) :
    Processing size region ({ s with recorded :=
      ⟨s.recorded.log.record size ⟨interfaceOf a.threadId, entryType, a.now⟩,
        ⟨interfaceOf a.threadId, entryType, a.now⟩ :: s.recorded.history⟩ }.goto a point) where
  recording := h.recording.record h.unfrozen _
  unfrozen := h.unfrozen
  ofCalls i := by
    change entriesOf _ (_ :: s.recorded.history) =
      _ ++ (Function.update s.points a.threadId point i).entries i
    rw [entriesOf_cons, h.ofCalls, ProcessState.entriesOfCalls]
    by_cases hi : i = a.threadId
    · rw [hi, if_pos rfl, Function.update_self, hentries, List.append_assoc]
      rfl
    · rw [if_neg fun heq => hi (interfaceOf_injective hn heq.symm), Function.update_of_ne hi,
        List.append_nil]
      rfl
  ordered := by
    rw [ProcessState.goto, List.reverse_cons]
    apply List.pairwise_append.mpr
    refine ⟨h.ordered, List.pairwise_singleton .., ?_⟩
    intro earlier hearlier later hlater
    rw [List.mem_singleton.mp hlater]
    exact BitVec.le_trans (h.past earlier (List.mem_reverse.mp hearlier)) hnow
  past entry hentry := by
    rcases List.mem_cons.mp hentry with rfl | hentry
    · exact BitVec.le_refl _
    · exact BitVec.le_trans (h.past entry hentry) hnow
  points := inOrder_update h.points hnow (fun _ _ => rfl) hpoint
  durations := h.durations

/-- A step that leaves the log alone, and the data of the other threads. -/
theorem Processing.quiet (h : Processing size region s) (hnow : s.clock ≤ a.now)
    (hothers : ∀ i, i ≠ a.threadId → threadsInfo i = s.threadsInfo i)
    (hentries : point.entries a.threadId = (s.points a.threadId).entries a.threadId)
    (hpoint : point.InOrder a.now.toNat (threadsInfo a.threadId).threadExecutionTime.toNat) :
    Processing size region ({ s with threadsInfo }.goto a point) where
  recording := h.recording
  unfrozen := h.unfrozen
  ofCalls i := by
    change entriesOf _ s.recorded.history =
      _ ++ (Function.update s.points a.threadId point i).entries i
    rw [h.ofCalls, ProcessState.entriesOfCalls]
    by_cases hi : i = a.threadId
    · rw [hi, Function.update_self, hentries]
      rfl
    · rw [Function.update_of_ne hi]
      rfl
  ordered := h.ordered
  past entry hentry := BitVec.le_trans (h.past entry hentry) hnow
  points := inOrder_update (s := s) h.points hnow hothers hpoint
  durations := h.durations

/-- The step with which a call returns. -/
theorem Processing.complete (h : Processing size region s) (hnow : s.clock ≤ a.now)
    (hothers : ∀ i, i ≠ a.threadId → threadsInfo i = s.threadsInfo i) {e : Execution n}
    (hthread : e.threadId = a.threadId)
    (hentries : e.entries = (s.points a.threadId).entries a.threadId)
    (hduration : e.activatedAt.toNat + e.threadExecutionTime.toNat ≤ e.deactivatedAt.toNat) :
    Processing size region
      ({ s with threadsInfo, completed := s.completed ++ [e] }.goto a .outside) where
  recording := h.recording
  unfrozen := h.unfrozen
  ofCalls i := by
    change entriesOf _ s.recorded.history =
      ((s.completed ++ [e]).filter fun e => e.threadId = i).flatMap Execution.entries ++
        (Function.update s.points a.threadId .outside i).entries i
    rw [h.ofCalls, ProcessState.entriesOfCalls, List.filter_append, List.flatMap_append]
    by_cases hi : i = a.threadId
    · rw [hi, Function.update_self, ← hentries]
      simp [hthread, ProcessPoint.entries]
    · rw [Function.update_of_ne hi]
      simp [hthread, Ne.symm hi]
  ordered := h.ordered
  past entry hentry := BitVec.le_trans (h.past entry hentry) hnow
  points := inOrder_update (s := s) h.points hnow hothers trivial
  durations e' he' := by
    rcases List.mem_append.mp he' with he' | he'
    · exact h.durations e' he'
    · rw [List.mem_singleton.mp he']
      exact hduration

/-- Every statement is executed, at any later time, and keeps the log tied to the threads. -/
theorem processStep_processing (hn : n ≤ 2 ^ 32) (h : Processing size region s)
    (hnow : s.clock ≤ a.now) :
    ∃ t, processStep size s a = some t ∧ Processing size region t := by
  have hpoint := h.points a.threadId
  rw [processStep, if_pos hnow, processStatement]
  have hclock : s.clock.toNat ≤ a.now.toNat := hnow
  cases hcase : s.points a.threadId with
  | outside =>
      refine ⟨_, congrArg (Option.map _) (h.recording.indicate_unfrozen h.unfrozen _ _ _), ?_⟩
      apply h.indicate hn hnow
      · rw [hcase]
        rfl
      · exact le_rfl
  | activated activatedAt =>
      rw [hcase] at hpoint
      refine ⟨_, rfl, h.quiet hnow (fun _ _ => rfl) ?_ ?_⟩
      · rw [hcase]
        rfl
      · exact ⟨hpoint.trans hclock, le_rfl⟩
  | executing activatedAt before =>
      rw [hcase] at hpoint
      refine ⟨_, rfl, h.quiet hnow (fun _ _ => rfl) ?_ (hpoint.mono hclock)⟩
      rw [hcase]
      rfl
  | executed activatedAt before =>
      rw [hcase] at hpoint
      refine ⟨_, rfl, h.quiet hnow (fun _ _ => rfl) ?_ ?_⟩
      · rw [hcase]
        rfl
      · exact ⟨hpoint.1, hpoint.2.trans hclock, le_rfl⟩
  | measured activatedAt before after =>
      rw [hcase] at hpoint
      refine ⟨_, congrArg (Option.map _) (h.recording.indicate_unfrozen h.unfrozen _ _ _), ?_⟩
      apply h.indicate hn hnow
      · rw [hcase]
        rfl
      · exact ⟨hpoint.1, hpoint.2.1, hpoint.2.2.trans hclock, le_rfl⟩
  | deactivated activatedAt before after deactivatedAt =>
      rw [hcase] at hpoint
      obtain ⟨hbefore, hafter, hdeactivated, hpast⟩ := hpoint
      refine ⟨_, rfl, h.quiet hnow (fun i hi => Function.update_of_ne hi ..) ?_ ?_⟩
      · rw [hcase]
        rfl
      · have hstored : (storeExecutionTime s.threadsInfo a.threadId (after - before)
            a.threadId).threadExecutionTime = after - before := by
          rw [storeExecutionTime, Function.update_self]
        have hlt := after.isLt
        rw [hstored, ProcessPoint.InOrder, BitVec.toNat_sub]
        omega
  | stored activatedAt deactivatedAt =>
      rw [hcase] at hpoint
      refine ⟨_, rfl, h.complete hnow (fun i hi => Function.update_of_ne hi ..) rfl ?_ hpoint.1⟩
      rw [hcase]
      rfl

theorem processStep_clock {t : ProcessState n} (hs : processStep size s a = some t) :
    s.clock ≤ a.now := by
  unfold processStep at hs
  split at hs
  · assumption
  · cases hs

end Steps

theorem processing_initial {size : BitVec 32} (hsize : size ≠ 0)
    (region : ℕ → InterfaceActivationEntry) (threadsInfo : Fin n → ThreadInfo) :
    Processing size region (.initial region threadsInfo) where
  recording := ⟨rfl, holds_zero _ _ _, fun _ _ => rfl, fun hz => absurd hz hsize⟩
  unfrozen := rfl
  ofCalls _ := rfl
  ordered := List.Pairwise.nil
  past _ h := by cases h
  points _ := trivial
  durations _ h := by cases h

theorem run_processing {size : BitVec 32} {region : ℕ → InterfaceActivationEntry}
    {threadsInfo : Fin n → ThreadInfo} {s : ProcessState n} {as : List (ProcessAction n)}
    (hn : n ≤ 2 ^ 32) (hsize : size ≠ 0)
    (hr : run (processStep size) (.initial region threadsInfo) as = some s) :
    Processing size region s := by
  apply run_invariant (along_true _ as) hr (processing_initial hsize region threadsInfo)
  intro s a t h _ hs
  obtain ⟨t', hs', ht⟩ := processStep_processing hn h (processStep_clock hs)
  obtain rfl := Option.some.inj (hs'.symm.trans hs)
  exact ht

theorem Processing.bracketed {size : BitVec 32} {region : ℕ → InterfaceActivationEntry}
    {s : ProcessState n} (h : Processing size region s) : Bracketed size s := by
  have halternating : ∀ i : Fin n, Alternates .activation .deactivation
      ((entriesOf (interfaceOf i) s.recorded.history).map (·.entryType)) := by
    intro i
    rw [h.ofCalls]
    exact alternates_entriesOfCalls s i
  have hheld := h.recording.holds.walkBack le_rfl
  have hcounted : s.recorded.log.activationEntryCounter.toNat =
      s.recorded.history.length % 2 ^ 64 := by
    rw [h.recording.counted, BitVec.toNat_ofNat]
  refine ⟨hcounted, ?_, h.ofCalls, halternating, h.ordered, ?_, hheld, ?_⟩
  · rw [← hcounted]
    exact h.recording.holds
  · intro e he
    have hduration := h.durations e he
    refine ⟨BitVec.le_def.mpr (by omega), ?_⟩
    rw [BitVec.le_def, BitVec.toNat_sub]
    omega
  · intro i
    have hall := halternating i
    rw [entriesOf_take _ _ (min s.recorded.log.activationEntryCounter.toNat size.toNat),
      List.map_append, ← hheld] at hall
    exact hall.of_append

section Uninterrupted
variable {size : BitVec 32} {s : ProcessState n} {threadId : Fin n} {clock : ClockReadings}
  {recorded : RecordedLog} {threadsInfo : Fin n → ThreadInfo} {result : Bool}

/-- The readings of a call follow each other. -/
structure ClockReadings.Follow (clock : ClockReadings) (start : BitVec 64) : Prop where
  activated : start ≤ clock.activatedAt
  before : clock.activatedAt ≤ clock.timeBeforeExecution
  after : clock.timeBeforeExecution ≤ clock.timeAfterExecution
  deactivated : clock.timeAfterExecution ≤ clock.deactivatedAt

/-- The statements of a call at its readings. -/
def callStatements (threadId : Fin n) (clock : ClockReadings) : List (ProcessAction n) :=
  [⟨threadId, clock.activatedAt⟩, ⟨threadId, clock.timeBeforeExecution⟩,
    ⟨threadId, clock.timeBeforeExecution⟩, ⟨threadId, clock.timeAfterExecution⟩,
    ⟨threadId, clock.deactivatedAt⟩, ⟨threadId, clock.deactivatedAt⟩, ⟨threadId, clock.deactivatedAt⟩]

theorem uninterrupted_processRequest (houtside : s.points threadId = .outside)
    (hclock : clock.Follow s.clock)
    (hcall : processRequest size s.recorded s.threadsInfo threadId clock =
      some (result, recorded, threadsInfo)) :
    result = true ∧ ∃ t, run (processStep size) s (callStatements threadId clock) = some t ∧
      t.recorded = recorded ∧ t.threadsInfo = threadsInfo ∧ t.points threadId = .outside ∧
      t.completed = s.completed ++ [⟨threadId, clock.activatedAt, clock.deactivatedAt,
        clock.timeAfterExecution - clock.timeBeforeExecution⟩] := by
  obtain ⟨activated, hactivated, hcall⟩ := Option.bind_eq_some_iff.mp hcall
  obtain ⟨deactivated, hdeactivated, hcall⟩ := Option.bind_eq_some_iff.mp hcall
  cases hcall
  refine ⟨rfl, ?_⟩
  simp [run, callStatements, processStep, processStatement, ProcessState.goto, houtside,
    hclock.activated, hclock.before, hclock.after, hclock.deactivated, hactivated, hdeactivated,
    storeExecutionTime, Function.update_self]

end Uninterrupted

/-- Whatever the interleaving, every execution is bracketed by its entries in the log. -/
theorem executions_bracketed (size : BitVec 32) (region : ℕ → InterfaceActivationEntry)
    (threadsInfo : Fin n → ThreadInfo) (as : List (ProcessAction n)) (s : ProcessState n)
    (hn : n ≤ 2 ^ 32) (hsize : size ≠ 0)
    (hr : run (processStep size) (.initial region threadsInfo) as = some s) : Bracketed size s :=
  (run_processing hn hsize hr).bracketed

/-- The second thread is activated while the first one executes, and its entry is the older
of the two that the ring still holds. -/
def preemptedExecution : List (ProcessAction 2) :=
  [⟨0, 10#64⟩, ⟨0, 20#64⟩, ⟨1, 30#64⟩, ⟨0, 40#64⟩, ⟨0, 50#64⟩, ⟨0, 60#64⟩, ⟨0, 60#64⟩, ⟨0, 60#64⟩]

theorem preemptedExecution_bracketed : ∃ s,
    run (processStep 2#32) (.initial (fun _ => emptyEntry) fun _ => .generated 0)
      preemptedExecution = some s ∧
    (s.completed.map fun e => (e.activatedAt, e.threadExecutionTime, e.deactivatedAt)) =
      [(10#64, 30#64, 60#64)] ∧
    s.recorded.log.activationEntryCounter = 3#64 ∧
    heldEntries 2#32 s.recorded.log =
      [⟨0#32, .deactivation, 60#64⟩, ⟨1#32, .activation, 30#64⟩] ∧ Bracketed 2#32 s :=
  ⟨_, rfl, rfl, rfl, by decide, executions_bracketed 2#32 (fun _ => emptyEntry)
    (fun _ => .generated 0) preemptedExecution _ (by decide) (by decide) rfl⟩

end SamV71Runtime.ThreadsCommon
