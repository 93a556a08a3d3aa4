import Mathlib.Algebra.Group.Nat.Defs
import Mathlib.Logic.Function.Basic
import SamV71Runtime.BoundedQueue
import SamV71Runtime.Rtems

/-!
# Sending a request to an interface

The message queues are those of RTEMS; interfaces are the indices below
`RUNTIME_THREAD_COUNT`, here `n`. Invocations of the overflow callback are recorded.
-/
namespace SamV71Runtime

abbrev Message := List (BitVec 8)

abbrev MessageQueues := RtemsId → Option (BoundedQueue Message)

def rtemsIdNone : RtemsId := 0#32

def rtemsMessageQueueSend (queues : MessageQueues) (id : RtemsId) (message : Message) :
    RtemsStatusCode × MessageQueues :=
  match queues id with
  | none => (.invalidId, queues)
  | some queue =>
      match queue.push message with
      | none => (.tooMany, queues)
      | some queue => (.successful, Function.update queues id (some queue))

/-- `none` while the caller has to wait. -/
def rtemsMessageQueueReceive (queues : MessageQueues) (id : RtemsId) :
    Option (Message × MessageQueues) := do
  let queue ← queues id
  let (message, queue) ← queue.pop
  some (message, Function.update queues id (some queue))

def rtemsMessageQueueGetNumberPending (queues : MessageQueues) (id : RtemsId) :
    Except RtemsStatusCode (BitVec 32) :=
  match queues id with
  | none => .error .invalidId
  | some queue => .ok (BitVec.ofNat 32 queue.items.length)

/-- The arguments of one call of `Monitor_MessageQueueOverflowCallback`. -/
structure OverflowReport (n : ℕ) where
  interface : Fin n
  numberOfOverflowedMessages : BitVec 32
  deriving DecidableEq, Repr

/-- `overflowCallback` tells whether the callback pointer differs from `NULL`. -/
structure RequestState (n : ℕ) where
  queues : MessageQueues
  maximumQueuedItems : Fin n → BitVec 32
  overflowCallback : Bool
  overflows : List (OverflowReport n)

variable {n : ℕ}

namespace Monitor

/-- The loop of `Monitor_Init` over `maximum_queued_items`. -/
def init (s : RequestState n) : RequestState n :=
  { s with maximumQueuedItems :=
      (List.finRange n).foldl (fun items i => Function.update items i 0) s.maximumQueuedItems }

def getQueuedItemsCount (map : Fin n → RtemsId) (queues : MessageQueues) (interface : Fin n) :
    BitVec 32 :=
  if map interface = rtemsIdNone then -1#32
  else
    match rtemsMessageQueueGetNumberPending queues (map interface) with
    | .error _ => -1#32
    | .ok count => count

def getMaximumQueuedItemsCount (s : RequestState n) (interface : Fin n) : BitVec 32 :=
  s.maximumQueuedItems interface

end Monitor

namespace ThreadsCommon
open Monitor

/-- `queued_items_count > -1`, signed, and `queued_items_count > maximum`, unsigned. -/
def exceedsMaximum (queuedItemsCount maximum : BitVec 32) : Bool :=
  (-1#32).slt queuedItemsCount && maximum.ult queuedItemsCount

def recordQueuedItems (items : Fin n → BitVec 32) (threadId : Fin n)
    (queuedItemsCount : BitVec 32) : Fin n → BitVec 32 :=
  if exceedsMaximum queuedItemsCount (items threadId) then
    Function.update items threadId queuedItemsCount
  else items

/-- The end of `ThreadsCommon_SendRequest`, from the status of the send on. -/
def reportOverflow (s : RequestState n) (result : RtemsStatusCode) (threadId : Fin n) :
    Bool × RequestState n :=
  if result = .tooMany ∧ s.overflowCallback then
    (true, { s with overflows := s.overflows ++ [⟨threadId, 1#32⟩] })
  else (result = .successful, s)

def sendRequest (map : Fin n → RtemsId) (s : RequestState n) (requestData : Message)
    (queueId : RtemsId) (threadId : Fin n) : Bool × RequestState n :=
  let sent := rtemsMessageQueueSend s.queues queueId requestData
  let queuedItemsCount := getQueuedItemsCount map sent.2 threadId
  let maximumQueuedItems := recordQueuedItems s.maximumQueuedItems threadId queuedItemsCount
  reportOverflow { s with queues := sent.2, maximumQueuedItems } sent.1 threadId

end ThreadsCommon

/-- The number of messages in a queue; no queue holds none. -/
def MessageQueues.pending (queues : MessageQueues) (id : RtemsId) : ℕ :=
  (queues id).elim 0 fun queue => queue.items.length

def MessageQueues.capacity (queues : MessageQueues) (id : RtemsId) : Option ℕ :=
  (queues id).map BoundedQueue.capacity

def MessageQueues.full (queues : MessageQueues) (id : RtemsId) : Bool :=
  (queues id).any fun queue => queue.items.length = queue.capacity

section Queues
variable {queues rest : MessageQueues} {id : RtemsId} {message : Message}

/-- A send is refused, or puts the message at the end of its queue. -/
theorem rtemsMessageQueueSend_cases (queues : MessageQueues) (id : RtemsId) (message : Message) :
    (queues id = none ∧ rtemsMessageQueueSend queues id message = (.invalidId, queues)) ∨
    (∃ queue, queues id = some queue ∧ queue.items.length = queue.capacity ∧
      rtemsMessageQueueSend queues id message = (.tooMany, queues)) ∨
    ∃ queue longer, queues id = some queue ∧ queue.push message = some longer ∧
      rtemsMessageQueueSend queues id message =
        (.successful, Function.update queues id (some longer)) := by
  unfold rtemsMessageQueueSend
  cases hid : queues id with
  | none => exact Or.inl ⟨rfl, rfl⟩
  | some queue =>
      cases hpush : queue.push message with
      | none =>
          have hfull := BoundedQueue.push_eq_none_iff.mp hpush
          exact Or.inr (Or.inl ⟨queue, rfl, hfull, by simp only [hpush]⟩)
      | some longer =>
          exact Or.inr (Or.inr ⟨queue, longer, rfl, hpush, by simp only [hpush]⟩)

theorem rtemsMessageQueueReceive_cases
    (h : rtemsMessageQueueReceive queues id = some (message, rest)) :
    ∃ queue shorter, queues id = some queue ∧ queue.pop = some (message, shorter) ∧
      rest = Function.update queues id (some shorter) := by
  obtain ⟨queue, hid, h⟩ := Option.bind_eq_some_iff.mp h
  obtain ⟨⟨first, shorter⟩, hpop, h⟩ := Option.bind_eq_some_iff.mp h
  obtain ⟨rfl, rfl⟩ := Prod.mk.inj (Option.some.inj h)
  exact ⟨queue, shorter, hid, hpop, rfl⟩

theorem capacity_update {queue other : BoundedQueue Message} (hid : queues id = some queue)
    (hsame : other.capacity = queue.capacity) :
    MessageQueues.capacity (Function.update queues id (some other)) = queues.capacity := by
  funext j
  unfold MessageQueues.capacity
  by_cases hj : j = id
  · rw [hj, Function.update_self, hid, Option.map_some, Option.map_some, hsame]
  · rw [Function.update_of_ne hj]

theorem rtemsMessageQueueSend_capacity (queues : MessageQueues) (id : RtemsId)
    (message : Message) :
    (rtemsMessageQueueSend queues id message).2.capacity = queues.capacity := by
  rcases rtemsMessageQueueSend_cases queues id message with
    ⟨_, h⟩ | ⟨_, _, _, h⟩ | ⟨queue, longer, hid, hpush, h⟩
  · rw [h]
  · rw [h]
  · rw [h]
    exact capacity_update hid (BoundedQueue.push_cases hpush).2.1

theorem rtemsMessageQueueReceive_capacity
    (h : rtemsMessageQueueReceive queues id = some (message, rest)) :
    rest.capacity = queues.capacity := by
  obtain ⟨queue, shorter, hid, hpop, rfl⟩ := rtemsMessageQueueReceive_cases h
  exact capacity_update hid (BoundedQueue.pop_cases hpop).1

theorem rtemsMessageQueueSend_of_ne {j : RtemsId} (hj : j ≠ id) :
    (rtemsMessageQueueSend queues id message).2 j = queues j := by
  rcases rtemsMessageQueueSend_cases queues id message with
    ⟨_, h⟩ | ⟨_, _, _, h⟩ | ⟨_, _, _, _, h⟩
  · rw [h]
  · rw [h]
  · rw [h]
    exact Function.update_of_ne hj ..

theorem rtemsMessageQueueReceive_of_ne {j : RtemsId} (hj : j ≠ id)
    (h : rtemsMessageQueueReceive queues id = some (message, rest)) : rest j = queues j := by
  obtain ⟨_, _, _, _, rfl⟩ := rtemsMessageQueueReceive_cases h
  exact Function.update_of_ne hj ..

theorem rtemsMessageQueueSend_self (queues : MessageQueues) (id : RtemsId) (message : Message) :
    (rtemsMessageQueueSend queues id message).2 id =
      (queues id).map fun queue => (queue.push message).getD queue := by
  rcases rtemsMessageQueueSend_cases queues id message with
    ⟨hid, h⟩ | ⟨queue, hid, hfull, h⟩ | ⟨queue, longer, hid, hpush, h⟩
  · rw [h, hid, Option.map_none]
    exact hid
  · rw [h, hid, Option.map_some, BoundedQueue.push_eq_none_iff.mpr hfull, Option.getD_none]
    exact hid
  · rw [h, hid, Option.map_some, hpush, Option.getD_some]
    exact Function.update_self ..

theorem rtemsMessageQueueSend_of_full (h : queues.full id = true) (message : Message) :
    rtemsMessageQueueSend queues id message = (.tooMany, queues) := by
  obtain ⟨queue, hid, hfull⟩ := (Option.any_eq_true _ _).mp h
  have hpush : queue.push message = none :=
    BoundedQueue.push_eq_none_iff.mpr (of_decide_eq_true hfull)
  simp only [rtemsMessageQueueSend, hid, hpush]

theorem rtemsMessageQueueSend_of_room (hid : (queues id).isSome) (hroom : queues.full id = false)
    (message : Message) :
    (rtemsMessageQueueSend queues id message).1 = .successful ∧
      ∀ j, (rtemsMessageQueueSend queues id message).2.pending j =
        queues.pending j + if j = id then 1 else 0 := by
  obtain ⟨queue, hid⟩ := Option.isSome_iff_exists.mp hid
  rcases rtemsMessageQueueSend_cases queues id message with
    ⟨hnone, _⟩ | ⟨full, hfull, hlength, _⟩ | ⟨queue, longer, hqueue, hpush, h⟩
  · exact absurd (hnone.symm.trans hid) (Option.some_ne_none _).symm
  · rw [MessageQueues.full, hfull, Option.any_some] at hroom
    exact absurd hlength (of_decide_eq_false hroom)
  · rw [h]
    refine ⟨rfl, fun j => ?_⟩
    by_cases hj : j = id
    · have hlonger : longer.items.length = queue.items.length + 1 := by
        rw [(BoundedQueue.push_cases hpush).2.2, List.length_append, List.length_singleton]
      simp [MessageQueues.pending, hj, hqueue, hlonger]
    · simp [MessageQueues.pending, hj]

theorem rtemsMessageQueueReceive_pending
    (h : rtemsMessageQueueReceive queues id = some (message, rest)) (j : RtemsId) :
    queues.pending j = rest.pending j + if j = id then 1 else 0 := by
  obtain ⟨queue, shorter, hid, hpop, rfl⟩ := rtemsMessageQueueReceive_cases h
  by_cases hj : j = id
  · simp [MessageQueues.pending, hj, hid, (BoundedQueue.pop_cases hpop).2]
  · simp [MessageQueues.pending, hj]

theorem pending_le_capacity {capacity : ℕ} (h : queues.capacity id = some capacity) :
    queues.pending id ≤ capacity := by
  obtain ⟨queue, hid, rfl⟩ := Option.map_eq_some_iff.mp h
  rw [MessageQueues.pending, hid]
  exact queue.bounded

end Queues

namespace Monitor

theorem foldl_update_zero (indices : List (Fin n)) (items : Fin n → BitVec 32) (i : Fin n)
    (hi : i ∈ indices ∨ items i = 0) :
    indices.foldl (fun items i => Function.update items i 0) items i = 0 := by
  induction indices generalizing items with
  | nil =>
      rcases hi with hi | hi
      · cases hi
      · exact hi
  | cons j indices ih =>
      apply ih
      rcases hi with hi | hi
      · rcases List.mem_cons.mp hi with rfl | hi
        · exact Or.inr (Function.update_self ..)
        · exact Or.inl hi
      · right
        exact (Function.update_apply ..).trans ((congrArg (ite _ 0) hi).trans (ite_self 0))

theorem init_maximumQueuedItems (s : RequestState n) :
    (init s).maximumQueuedItems = fun _ => 0 := by
  funext i
  apply foldl_update_zero
  exact Or.inl (List.mem_finRange i)

theorem getQueuedItemsCount_of_none {map : Fin n → RtemsId} {interface : Fin n}
    (h : map interface = rtemsIdNone) (queues : MessageQueues) :
    getQueuedItemsCount map queues interface = -1#32 :=
  if_pos h

theorem getQueuedItemsCount_of_capacity {map : Fin n → RtemsId} {interface : Fin n}
    {queues : MessageQueues} {capacity : ℕ} (hmap : map interface ≠ rtemsIdNone)
    (h : queues.capacity (map interface) = some capacity) :
    getQueuedItemsCount map queues interface =
      BitVec.ofNat 32 (queues.pending (map interface)) := by
  obtain ⟨queue, hid, _⟩ := Option.map_eq_some_iff.mp h
  rw [getQueuedItemsCount, if_neg hmap, rtemsMessageQueueGetNumberPending, hid,
    MessageQueues.pending, hid]
  rfl

end Monitor

namespace ThreadsCommon
open Monitor

section Marks
variable (items : Fin n → BitVec 32) (i : Fin n) {count : BitVec 32}

theorem recordQueuedItems_of_ne {j : Fin n} (hj : j ≠ i) (count : BitVec 32) :
    recordQueuedItems items i count j = items j := by
  unfold recordQueuedItems
  split
  · exact Function.update_of_ne hj ..
  · rfl

/-- The error value of `Monitor_GetQueuedItemsCount` is not recorded. -/
theorem recordQueuedItems_error : recordQueuedItems items i (-1#32) = items := by
  rw [recordQueuedItems, if_neg]
  simp [exceedsMaximum, BitVec.slt]

/-- A count that is no negative number for the signed comparison joins the maximum. -/
theorem recordQueuedItems_self (hcount : count.toNat < 2 ^ 31) :
    (recordQueuedItems items i count i).toNat = max (items i).toNat count.toNat := by
  have hsigned : (-1#32).slt count = true := by
    have hminus : (-1#32 : BitVec 32).toInt = -1 := by decide
    have hplus : count.toInt = count.toNat := BitVec.toInt_eq_toNat_of_lt (by omega)
    rw [BitVec.slt, decide_eq_true_iff, hminus, hplus]
    omega
  rw [recordQueuedItems, exceedsMaximum, hsigned, Bool.true_and]
  by_cases hless : (items i).toNat < count.toNat
  · rw [if_pos (by rw [BitVec.ult, decide_eq_true_iff]; exact hless), Function.update_self]
    omega
  · rw [if_neg (by rw [BitVec.ult, decide_eq_true_iff]; exact hless)]
    omega

end Marks

section SendRequest
variable (map : Fin n → RtemsId) (s : RequestState n) (requestData : Message) (queueId : RtemsId)
  (threadId : Fin n)

@[simp] theorem sendRequest_queues :
    (sendRequest map s requestData queueId threadId).2.queues =
      (rtemsMessageQueueSend s.queues queueId requestData).2 := by
  dsimp only [sendRequest, reportOverflow]
  split <;> rfl

@[simp] theorem sendRequest_maximumQueuedItems :
    (sendRequest map s requestData queueId threadId).2.maximumQueuedItems =
      recordQueuedItems s.maximumQueuedItems threadId (getQueuedItemsCount map
        (rtemsMessageQueueSend s.queues queueId requestData).2 threadId) := by
  dsimp only [sendRequest, reportOverflow]
  split <;> rfl

@[simp] theorem sendRequest_overflowCallback :
    (sendRequest map s requestData queueId threadId).2.overflowCallback = s.overflowCallback := by
  dsimp only [sendRequest, reportOverflow]
  split <;> rfl

theorem sendRequest_overflows :
    (sendRequest map s requestData queueId threadId).2.overflows =
      if (rtemsMessageQueueSend s.queues queueId requestData).1 = .tooMany ∧ s.overflowCallback
      then s.overflows ++ [⟨threadId, 1#32⟩] else s.overflows := by
  dsimp only [sendRequest, reportOverflow]
  split <;> rfl

end SendRequest

end ThreadsCommon

end SamV71Runtime
