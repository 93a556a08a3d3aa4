import Mathlib.Logic.Function.Basic
import SamV71Runtime.Rtems
import SamV71Runtime.Runs

/-!
# Cyclic requests: the table, its timers and their callbacks

The tick count is unbounded here and the program reads it modulo `2^32`. A creation
takes two steps, so that a timer may expire after it was armed and before
`cyclic_requests_count` is incremented; a callback is one step, run by the timer
interrupt at any tick from the expiry on.
-/
namespace SamV71Runtime.ThreadsCommon
open Runs

structure CyclicConfig where
  maxCyclicInterfaces : ℕ
  microsecondsPerTick : BitVec 32

structure CyclicRequestData where
  timerId : RtemsId
  nextWakeupTicks : RtemsInterval
  intervalTicks : RtemsInterval
  queueId : BitVec 32
  requestSize : BitVec 32
  deriving DecidableEq, Repr

/-- The arguments of `ThreadsCommon_CreateCyclicRequest`. -/
structure CyclicRequest where
  intervalNs : BitVec 64
  dispatchOffsetNs : BitVec 64
  queueId : BitVec 32
  requestSize : BitVec 32
  deriving DecidableEq, Repr

/-- An armed RTEMS timer: the tick it expires at and the argument of its callback. -/
structure ArmedTimer where
  expiry : ℕ
  userData : ℕ
  deriving DecidableEq, Repr

structure FireAfter where
  timerId : RtemsId
  delta : RtemsInterval
  userData : ℕ
  deriving DecidableEq, Repr

/-- A `rtems_message_queue_send` of the all-zero `empty_request`. -/
structure EmptyRequest where
  queueId : BitVec 32
  requestSize : BitVec 32
  deriving DecidableEq, Repr

structure CyclicState where
  ticks : ℕ
  timers : List RtemsId
  armed : RtemsId → Option ArmedTimer
  fireAfters : List FireAfter
  sent : List EmptyRequest
  cyclicRequestsCount : ℕ
  cyclicRequestData : ℕ → CyclicRequestData
  creating : Bool

def CyclicState.initial : CyclicState where
  ticks := 0
  timers := []
  armed _ := none
  fireAfters := []
  sent := []
  cyclicRequestsCount := 0
  cyclicRequestData _ := ⟨0, 0, 0, 0, 0⟩
  creating := false

def nanosecondsInMillisecond : BitVec 64 := 1000000#64

def sizeofCyclicInterfaceEmptyRequestData : BitVec 32 := 32#32

/-- `RTEMS_MILLISECONDS_TO_TICKS`, in the 64-bit type of its argument. -/
def rtemsMillisecondsToTicks (cfg : CyclicConfig) (ms : BitVec 64) : BitVec 64 :=
  ms * 1000#64 / cfg.microsecondsPerTick.setWidth 64

def CyclicRequest.offsetTicks (cfg : CyclicConfig) (r : CyclicRequest) : BitVec 64 :=
  rtemsMillisecondsToTicks cfg (r.dispatchOffsetNs / nanosecondsInMillisecond)

def CyclicRequest.intervalTicks (cfg : CyclicConfig) (r : CyclicRequest) : BitVec 64 :=
  rtemsMillisecondsToTicks cfg (r.intervalNs / nanosecondsInMillisecond)

def CyclicState.ticksSinceBoot (s : CyclicState) : RtemsInterval := BitVec.ofNat 32 s.ticks

/-- A delay of 0 is refused and arms nothing. -/
def rtemsTimerFireAfter (s : CyclicState) (call : FireAfter) : RtemsStatusCode × CyclicState :=
  let s := { s with fireAfters := s.fireAfters ++ [call] }
  if call.delta = 0 then (.invalidNumber, s)
  else if call.timerId ∉ s.timers then (.invalidId, s)
  else
    let timer : ArmedTimer := ⟨s.ticks + call.delta.toNat, call.userData⟩
    (.successful, { s with armed := Function.update s.armed call.timerId (some timer) })

/-- The status of the last call is dropped, as in the source. -/
def scheduleNextTick (s : CyclicState) (index : ℕ) : CyclicState :=
  let entry := s.cyclicRequestData index
  let nextWakeupTicks := entry.nextWakeupTicks + entry.intervalTicks
  let advanced := { entry with nextWakeupTicks }
  let s := { s with cyclicRequestData := Function.update s.cyclicRequestData index advanced }
  let delta := nextWakeupTicks - s.ticksSinceBoot
  (rtemsTimerFireAfter s ⟨entry.timerId, delta, index⟩).2

def timerCallback (s : CyclicState) (index : ℕ) : CyclicState :=
  let entry := s.cyclicRequestData index
  scheduleNextTick
    { s with sent := s.sent ++ [⟨entry.queueId, entry.requestSize⟩] } index

/-- The slot of a creation, filled in just before `schedule_next_tick` runs on it. -/
def CyclicRequest.entry (cfg : CyclicConfig) (r : CyclicRequest) (timerId : RtemsId) :
    CyclicRequestData where
  timerId := timerId
  nextWakeupTicks := (r.offsetTicks cfg).setWidth 32
  intervalTicks := (r.intervalTicks cfg).setWidth 32
  queueId := r.queueId
  requestSize := r.requestSize

def fillEntry (cfg : CyclicConfig) (s : CyclicState) (r : CyclicRequest) (timerId : RtemsId) :
    CyclicState :=
  { s with
    timers := s.timers ++ [timerId]
    cyclicRequestData :=
      Function.update s.cyclicRequestData s.cyclicRequestsCount (r.entry cfg timerId) }

/-- `ThreadsCommon_CreateCyclicRequest` up to its last statement but one, `none` if the
assertion fails. `status` and `timerId` are what `rtems_timer_create` reports and
writes; the Boolean tells whether the creation goes on to be counted. -/
def armCyclicRequest (cfg : CyclicConfig) (s : CyclicState) (r : CyclicRequest)
    (status : RtemsStatusCode) (timerId : RtemsId) : Option (Bool × CyclicState) :=
  if sizeofCyclicInterfaceEmptyRequestData < r.requestSize then none
  else if cfg.maxCyclicInterfaces ≤ s.cyclicRequestsCount then some (false, s)
  else if status = .successful then
    some (true, scheduleNextTick (fillEntry cfg s r timerId) s.cyclicRequestsCount)
  else
    let slot := { s.cyclicRequestData s.cyclicRequestsCount with timerId }
    some (false, { s with
      cyclicRequestData := Function.update s.cyclicRequestData s.cyclicRequestsCount slot })

def countCyclicRequest (s : CyclicState) : CyclicState :=
  { s with cyclicRequestsCount := s.cyclicRequestsCount + 1 }

def createCyclicRequest (cfg : CyclicConfig) (s : CyclicState) (r : CyclicRequest)
    (status : RtemsStatusCode) (timerId : RtemsId) : Option (Bool × CyclicState) :=
  (armCyclicRequest cfg s r status timerId).map fun (granted, t) =>
    (granted, if granted then countCyclicRequest t else t)

inductive CyclicAction where
  | tick
  | create (r : CyclicRequest) (status : RtemsStatusCode) (timerId : RtemsId)
  | created
  | expire (timerId : RtemsId)

/-- Creations follow one another; RTEMS hands out no id of a timer that exists. -/
def cyclicStep (cfg : CyclicConfig) (s : CyclicState) : CyclicAction → Option CyclicState
  | .tick => some { s with ticks := s.ticks + 1 }
  | .create r status timerId =>
      if s.creating ∨ status = .successful ∧ timerId ∈ s.timers then none
      else (armCyclicRequest cfg s r status timerId).map fun (granted, t) =>
        { t with creating := granted }
  | .created =>
      if s.creating then some { countCyclicRequest s with creating := false } else none
  | .expire timerId =>
      (s.armed timerId).bind fun timer =>
        if timer.expiry ≤ s.ticks then
          some (timerCallback { s with armed := Function.update s.armed timerId none }
            timer.userData)
        else none

/-- The delay `schedule_next_tick` computes for an entry at tick count `now`. -/
def CyclicRequestData.delay (d : CyclicRequestData) (now : RtemsInterval) : RtemsInterval :=
  d.nextWakeupTicks + d.intervalTicks - now

def CyclicRequestData.advance (d : CyclicRequestData) : CyclicRequestData :=
  { d with nextWakeupTicks := d.nextWakeupTicks + d.intervalTicks }

/-- The call `schedule_next_tick` makes for an entry. -/
def scheduledCall (s : CyclicState) (index : ℕ) : FireAfter where
  timerId := (s.cyclicRequestData index).timerId
  delta := (s.cyclicRequestData index).delay s.ticksSinceBoot
  userData := index

/-- The armed timers after a call of `rtems_timer_fire_after`. -/
def rearmed (s : CyclicState) (call : FireAfter) : RtemsId → Option ArmedTimer :=
  if call.delta = 0 ∨ call.timerId ∉ s.timers then s.armed
  else Function.update s.armed call.timerId (some ⟨s.ticks + call.delta.toNat, call.userData⟩)

theorem rtemsTimerFireAfter_state (s : CyclicState) (call : FireAfter) :
    (rtemsTimerFireAfter s call).2 =
      { s with fireAfters := s.fireAfters ++ [call], armed := rearmed s call } := by
  unfold rtemsTimerFireAfter rearmed
  by_cases hz : call.delta = 0
  · simp only [hz, true_or, if_true]
  · by_cases ht : call.timerId ∈ s.timers
    · simp only [if_neg hz, ht, not_true_eq_false, or_false, if_false]
    · simp only [if_neg hz, ht, not_false_eq_true, or_true, if_true]

/-- Everything `schedule_next_tick` does; the fields not named keep their values. -/
theorem scheduleNextTick_eq (s : CyclicState) (index : ℕ) :
    scheduleNextTick s index =
      { s with
        fireAfters := s.fireAfters ++ [scheduledCall s index]
        cyclicRequestData := Function.update s.cyclicRequestData index
          (s.cyclicRequestData index).advance
        armed := rearmed s (scheduledCall s index) } :=
  rtemsTimerFireAfter_state _ _

theorem rearmed_of_ne (s : CyclicState) (call : FireAfter) {id : RtemsId} (h : id ≠ call.timerId) :
    rearmed s call id = s.armed id := by
  unfold rearmed
  split
  · rfl
  · exact Function.update_of_ne h ..

theorem rearmed_self (s : CyclicState) (call : FireAfter) (ht : call.timerId ∈ s.timers)
    (hn : s.armed call.timerId = none) :
    rearmed s call call.timerId =
      if call.delta = 0 then none else some ⟨s.ticks + call.delta.toNat, call.userData⟩ := by
  unfold rearmed
  by_cases hz : call.delta = 0
  · rw [if_pos (Or.inl hz), if_pos hz, hn]
  · rw [if_neg (not_or.mpr ⟨hz, not_not_intro ht⟩), if_neg hz, Function.update_self]

/-- A creation is granted and arms the slot at the end of the table, or is refused and
touches nothing but that slot. -/
theorem armCyclicRequest_cases {cfg : CyclicConfig} {s t : CyclicState} {r : CyclicRequest}
    {status : RtemsStatusCode} {timerId : RtemsId} {granted : Bool}
    (h : armCyclicRequest cfg s r status timerId = some (granted, t)) :
    (granted = true ∧ s.cyclicRequestsCount < cfg.maxCyclicInterfaces ∧ status = .successful ∧
      t = scheduleNextTick (fillEntry cfg s r timerId) s.cyclicRequestsCount) ∨
    (granted = false ∧ (cfg.maxCyclicInterfaces ≤ s.cyclicRequestsCount ∨ status ≠ .successful) ∧
      ∃ slot, t = { s with
        cyclicRequestData := Function.update s.cyclicRequestData s.cyclicRequestsCount slot }) := by
  unfold armCyclicRequest at h
  split at h
  · cases h
  · split at h
    · rename_i hfull
      obtain ⟨rfl, rfl⟩ := Prod.mk.inj (Option.some.inj h)
      refine Or.inr ⟨rfl, Or.inl hfull, s.cyclicRequestData s.cyclicRequestsCount, ?_⟩
      rw [Function.update_eq_self]
    · rename_i hroom
      split at h
      · rename_i hok
        obtain ⟨rfl, rfl⟩ := Prod.mk.inj (Option.some.inj h)
        exact Or.inl ⟨rfl, Nat.lt_of_not_le hroom, hok, rfl⟩
      · rename_i hfail
        obtain ⟨rfl, rfl⟩ := Prod.mk.inj (Option.some.inj h)
        exact Or.inr ⟨rfl, Or.inr hfail, _, rfl⟩

/-- Uninterrupted, the two steps of a granted creation are the function itself. -/
theorem createCyclicRequest_steps (cfg : CyclicConfig) {s t : CyclicState} {r : CyclicRequest}
    {timerId : RtemsId} (hidle : s.creating = false) (hfresh : timerId ∉ s.timers)
    (h : createCyclicRequest cfg s r .successful timerId = some (true, t)) :
    run (cyclicStep cfg) s [.create r .successful timerId, .created] = some t := by
  obtain ⟨⟨granted, u⟩, harm, heq⟩ := Option.map_eq_some_iff.mp h
  obtain ⟨rfl, rfl⟩ := Prod.mk.inj heq
  have hsame : u.creating = s.creating := by
    rcases armCyclicRequest_cases harm with ⟨_, _, _, rfl⟩ | ⟨_, _, _, rfl⟩
    · rw [scheduleNextTick_eq]
      rfl
    · rfl
  rw [hidle] at hsame
  cases u
  simp_all [run, cyclicStep, countCyclicRequest]

end SamV71Runtime.ThreadsCommon
