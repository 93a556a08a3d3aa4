import SamV71Runtime.RequestQueues
import SamV71Runtime.Runs

/-!
# The high-water marks of uninterrupted sends

Whole calls of `ThreadsCommon_SendRequest` and receives, on any number of queues, from
`Monitor_Init` on.
-/
namespace SamV71Runtime.ThreadsCommon
open Monitor Runs

variable {n : ℕ}

inductive QueueAction (n : ℕ) where
  | send (threadId : Fin n) (queueId : RtemsId) (requestData : Message)
  | receive (queueId : RtemsId)

def queueStep (map : Fin n → RtemsId) (s : RequestState n) : QueueAction n → Option (RequestState n)
  | .send threadId queueId requestData => some (sendRequest map s requestData queueId threadId).2
  | .receive queueId =>
      (rtemsMessageQueueReceive s.queues queueId).map fun (_, queues) => { s with queues }

/-- The queues of sporadic interfaces are distinct and hold fewer than `2^31` messages. -/
structure SporadicQueues (map : Fin n → RtemsId) (queues : MessageQueues) : Prop where
  distinct : ∀ i j, map i ≠ rtemsIdNone → map i = map j → i = j
  small : ∀ i, map i ≠ rtemsIdNone → ∃ capacity < 2 ^ 31, queues.capacity (map i) = some capacity

/-- A request goes to the queue of its interface. An interface without a queue may have
its requests sent anywhere but to the queues of the others. -/
def Addressed (map : Fin n → RtemsId) : QueueAction n → Prop
  | .send threadId queueId _ =>
      queueId = map threadId ∨ map threadId = rtemsIdNone ∧ ∀ j, queueId ≠ map j
  | .receive _ => True

/-- The messages pending in the queue of `interface` right after a send to it. -/
def pendingAfterSend (map : Fin n → RtemsId) (interface : Fin n) (s : RequestState n) :
    QueueAction n → Option ℕ
  | .send threadId queueId requestData =>
      if threadId = interface then
        some ((sendRequest map s requestData queueId threadId).2.queues.pending (map interface))
      else none
  | .receive _ => none

def concerns (map : Fin n → RtemsId) (interface : Fin n) : QueueAction n → Bool
  | .send threadId _ _ => threadId = interface
  | .receive queueId => queueId = map interface ∧ map interface ≠ rtemsIdNone

/-- The largest number of pending messages that a send to `interface` left behind. -/
def highestPending (map : Fin n → RtemsId) (interface : Fin n) (s : RequestState n)
    (as : List (QueueAction n)) : ℕ :=
  (outputs (queueStep map) (pendingAfterSend map interface) s as).foldl max 0

section Steps
variable {map : Fin n → RtemsId} {s t : RequestState n} {a : QueueAction n} {i : Fin n}

theorem queueStep_receive_cases {queueId : RtemsId}
    (h : queueStep map s (.receive queueId) = some t) :
    ∃ message queues, rtemsMessageQueueReceive s.queues queueId = some (message, queues) ∧
      t = { s with queues } := by
  obtain ⟨⟨message, queues⟩, hreceive, rfl⟩ := Option.map_eq_some_iff.mp h
  exact ⟨message, queues, hreceive, rfl⟩

theorem queueStep_capacity (h : queueStep map s a = some t) :
    t.queues.capacity = s.queues.capacity := by
  cases a with
  | send threadId queueId requestData =>
      cases h
      rw [sendRequest_queues, rtemsMessageQueueSend_capacity]
  | receive queueId =>
      obtain ⟨_, queues, hreceive, rfl⟩ := queueStep_receive_cases h
      exact rtemsMessageQueueReceive_capacity hreceive

theorem SporadicQueues.next (hq : SporadicQueues map s.queues)
    (h : queueStep map s a = some t) : SporadicQueues map t.queues where
  distinct := hq.distinct
  small := by
    rw [queueStep_capacity h]
    exact hq.small

/-- A send to an interface raises its mark to what is pending then. -/
theorem sendRequest_mark (hq : SporadicQueues map s.queues) (hmap : map i ≠ rtemsIdNone)
    (requestData : Message) (queueId : RtemsId) :
    ((sendRequest map s requestData queueId i).2.maximumQueuedItems i).toNat =
      max (s.maximumQueuedItems i).toNat
        ((sendRequest map s requestData queueId i).2.queues.pending (map i)) := by
  obtain ⟨capacity, hsmall, hcapacity⟩ := hq.small i hmap
  rw [← rtemsMessageQueueSend_capacity s.queues queueId requestData] at hcapacity
  have hbound := pending_le_capacity hcapacity
  have hcount : (BitVec.ofNat 32
      ((rtemsMessageQueueSend s.queues queueId requestData).2.pending (map i))).toNat =
      (rtemsMessageQueueSend s.queues queueId requestData).2.pending (map i) := by
    rw [BitVec.toNat_ofNat]
    omega
  rw [sendRequest_maximumQueuedItems, sendRequest_queues,
    getQueuedItemsCount_of_capacity hmap hcapacity,
    recordQueuedItems_self _ _ (by rw [hcount]; omega), hcount]

theorem sendRequest_mark_of_none (hmap : map i = rtemsIdNone) (requestData : Message)
    (queueId : RtemsId) :
    (sendRequest map s requestData queueId i).2.maximumQueuedItems = s.maximumQueuedItems := by
  rw [sendRequest_maximumQueuedItems, getQueuedItemsCount_of_none hmap, recordQueuedItems_error]

/-- What one step does to the mark of an interface. -/
theorem queueStep_mark (hq : SporadicQueues map s.queues) (hmap : map i ≠ rtemsIdNone)
    (h : queueStep map s a = some t) :
    (t.maximumQueuedItems i).toNat =
      (pendingAfterSend map i s a).toList.foldl max (s.maximumQueuedItems i).toNat := by
  cases a with
  | send threadId queueId requestData =>
      cases h
      dsimp only [pendingAfterSend]
      split
      · rename_i hthread
        rw [hthread]
        exact sendRequest_mark hq hmap requestData queueId
      · rename_i hthread
        rw [sendRequest_maximumQueuedItems]
        exact congrArg _ (recordQueuedItems_of_ne _ _ (Ne.symm hthread) _)
  | receive queueId =>
      obtain ⟨_, queues, _, rfl⟩ := queueStep_receive_cases h
      rfl

theorem queueStep_mark_of_none (hmap : map i = rtemsIdNone) (h : queueStep map s a = some t) :
    t.maximumQueuedItems i = s.maximumQueuedItems i := by
  cases a with
  | send threadId queueId requestData =>
      cases h
      by_cases hthread : threadId = i
      · rw [hthread, sendRequest_mark_of_none hmap]
      · rw [sendRequest_maximumQueuedItems]
        exact recordQueuedItems_of_ne _ _ (Ne.symm hthread) _
  | receive queueId =>
      obtain ⟨_, queues, _, rfl⟩ := queueStep_receive_cases h
      rfl

end Steps

section Marks
variable {map : Fin n → RtemsId} {s t : RequestState n} {as : List (QueueAction n)} {i : Fin n}

theorem run_capacity (hr : run (queueStep map) s as = some t) :
    t.queues.capacity = s.queues.capacity :=
  run_invariant (I := fun t => t.queues.capacity = s.queues.capacity) (along_true s as) hr rfl
    fun _ _ _ hi _ hs => (queueStep_capacity hs).trans hi

theorem run_mark (hq : SporadicQueues map s.queues) (hzero : s.maximumQueuedItems i = 0)
    (hmap : map i ≠ rtemsIdNone) (hr : run (queueStep map) s as = some t) :
    (t.maximumQueuedItems i).toNat = highestPending map i s as := by
  refine (run_induction (I := fun as t => SporadicQueues map t.queues ∧
    (t.maximumQueuedItems i).toNat = highestPending map i s as) (along_true s as) hr
    ⟨hq, by rw [hzero]; rfl⟩ ?_).2
  intro as t a u hr hi _ hs
  refine ⟨hi.1.next hs, ?_⟩
  rw [queueStep_mark hi.1 hmap hs, hi.2, highestPending, highestPending, outputs_concat a hr,
    List.foldl_append]

theorem run_mark_of_none (hmap : map i = rtemsIdNone) (hr : run (queueStep map) s as = some t) :
    t.maximumQueuedItems i = s.maximumQueuedItems i :=
  run_invariant (I := fun t => t.maximumQueuedItems i = s.maximumQueuedItems i) (along_true s as)
    hr rfl fun _ _ _ hi _ hs => (queueStep_mark_of_none hmap hs).trans hi

/-- No send left more behind than the queue takes. -/
theorem highestPending_le {capacity : ℕ} (hcapacity : s.queues.capacity (map i) = some capacity)
    (hr : run (queueStep map) s as = some t) : highestPending map i s as ≤ capacity := by
  refine run_induction (I := fun as _ => highestPending map i s as ≤ capacity) (along_true s as) hr
    (Nat.zero_le _) ?_
  intro as t a u hr hi _ hs
  rw [highestPending, outputs_concat a hr, List.foldl_append]
  cases a with
  | send threadId queueId requestData =>
      dsimp only [pendingAfterSend]
      split
      · refine Nat.max_le.mpr ⟨hi, pending_le_capacity ?_⟩
        rw [sendRequest_queues, rtemsMessageQueueSend_capacity, run_capacity hr, hcapacity]
      · exact hi
  | receive queueId => exact hi

end Marks

section OtherInterfaces
variable {map : Fin n → RtemsId} {s t s' : RequestState n} {a : QueueAction n} {i : Fin n}

/-- The same mark for one interface, and the same queue if it has one. -/
structure SameFor (map : Fin n → RtemsId) (i : Fin n) (s s' : RequestState n) : Prop where
  mark : s.maximumQueuedItems i = s'.maximumQueuedItems i
  queue : map i ≠ rtemsIdNone → s.queues (map i) = s'.queues (map i)

theorem SameFor.trans {s₁ s₂ s₃ : RequestState n} (h : SameFor map i s₁ s₂)
    (h' : SameFor map i s₂ s₃) : SameFor map i s₁ s₃ where
  mark := h.mark.trans h'.mark
  queue hmap := (h.queue hmap).trans (h'.queue hmap)

/-- A step for another interface is not seen. -/
theorem queueStep_other (hq : SporadicQueues map s.queues) (haddressed : Addressed map a)
    (hother : concerns map i a = false) (h : queueStep map s a = some t) : SameFor map i t s := by
  cases a with
  | send threadId queueId requestData =>
      cases h
      have hthread : i ≠ threadId := fun hi => of_decide_eq_false hother hi.symm
      refine ⟨?_, fun hmap => ?_⟩
      · rw [sendRequest_maximumQueuedItems]
        exact recordQueuedItems_of_ne _ _ hthread _
      · rw [sendRequest_queues]
        apply rtemsMessageQueueSend_of_ne
        rcases haddressed with hqueue | ⟨_, hqueue⟩
        · exact fun heq => hthread (hq.distinct _ _ hmap (heq.trans hqueue))
        · exact (hqueue i).symm
  | receive queueId =>
      obtain ⟨_, queues, hreceive, rfl⟩ := queueStep_receive_cases h
      refine ⟨rfl, fun hmap => ?_⟩
      apply rtemsMessageQueueReceive_of_ne _ hreceive
      exact fun heq => of_decide_eq_false hother ⟨heq.symm, hmap⟩

/-- A step for the interface itself does the same to both states. -/
theorem queueStep_same (hq : SporadicQueues map s.queues) (hq' : SporadicQueues map s'.queues)
    (haddressed : Addressed map a) (hown : concerns map i a = true) (hsame : SameFor map i s s')
    (h : queueStep map s a = some t) :
    ∃ t', queueStep map s' a = some t' ∧ SameFor map i t t' := by
  cases a with
  | send threadId queueId requestData =>
      cases h
      obtain rfl := of_decide_eq_true hown
      refine ⟨_, rfl, ?_⟩
      have hqueue (hmap : map threadId ≠ rtemsIdNone) :
          (sendRequest map s requestData queueId threadId).2.queues (map threadId) =
            (sendRequest map s' requestData queueId threadId).2.queues (map threadId) := by
        obtain rfl := haddressed.resolve_right fun hnone => hmap hnone.1
        rw [sendRequest_queues, sendRequest_queues, rtemsMessageQueueSend_self,
          rtemsMessageQueueSend_self, hsame.queue hmap]
      refine ⟨?_, hqueue⟩
      by_cases hmap : map threadId = rtemsIdNone
      · rw [sendRequest_mark_of_none hmap, sendRequest_mark_of_none hmap, hsame.mark]
      · apply BitVec.eq_of_toNat_eq
        rw [sendRequest_mark hq hmap, sendRequest_mark hq' hmap, hsame.mark,
          MessageQueues.pending, MessageQueues.pending, hqueue hmap]
  | receive queueId =>
      obtain ⟨rfl, hmap⟩ := of_decide_eq_true hown
      obtain ⟨message, queues, hreceive, rfl⟩ := queueStep_receive_cases h
      obtain ⟨queue, shorter, hid, hpop, rfl⟩ := rtemsMessageQueueReceive_cases hreceive
      rw [hsame.queue hmap] at hid
      refine ⟨{ s' with queues := Function.update s'.queues (map i) (some shorter) }, ?_, ?_⟩
      · simp only [queueStep, rtemsMessageQueueReceive, hid, hpop, Option.bind_eq_bind,
          Option.bind_some, Option.map_some]
      · have hreceived (queues : MessageQueues) :
            Function.update queues (map i) (some shorter) (map i) = some shorter :=
          Function.update_self ..
        exact ⟨hsame.mark, fun _ => (hreceived _).trans (hreceived _).symm⟩

/-- Leaving out what concerns the other interfaces changes nothing for this one. -/
theorem run_same {as : List (QueueAction n)} (hq : SporadicQueues map s.queues)
    (haddressed : ∀ a ∈ as, Addressed map a) (hr : run (queueStep map) s as = some t) :
    ∃ t', run (queueStep map) s (as.filter (concerns map i)) = some t' ∧ SameFor map i t t' := by
  refine (run_induction (C := fun _ a => Addressed map a) (I := fun as t =>
    SporadicQueues map t.queues ∧ ∃ t', run (queueStep map) s (as.filter (concerns map i)) = some t' ∧
      SporadicQueues map t'.queues ∧ SameFor map i t t')
    (along_of_forall s haddressed) hr ⟨hq, s, rfl, hq, rfl, fun _ => rfl⟩ ?_).2.imp
      fun t' h => ⟨h.1, h.2.2⟩
  rintro as t a u hr ⟨hq, t', hr', hq', hsame⟩ haddressed hs
  refine ⟨hq.next hs, ?_⟩
  rw [List.filter_append]
  cases hown : concerns map i a with
  | false =>
      refine ⟨t', ?_, hq', (queueStep_other hq haddressed hown hs).trans hsame⟩
      rw [List.filter_cons_of_neg (by simp only [hown, Bool.false_eq_true, not_false_iff]),
        List.filter_nil, List.append_nil, hr']
  | true =>
      obtain ⟨u', hs', hsame'⟩ := queueStep_same hq hq' haddressed hown hsame hs
      refine ⟨u', ?_, hq'.next hs', hsame'⟩
      rw [List.filter_cons_of_pos hown, List.filter_nil]
      exact run_concat_some.mpr ⟨t', hr', hs'⟩

end OtherInterfaces

/-- What `Monitor_GetMaximumQueuedItemsCount` returns in state `t`, after the operations
`as` that followed `Monitor_Init` in state `s`. -/
structure HighWater (map : Fin n → RtemsId) (s : RequestState n) (as : List (QueueAction n))
    (t : RequestState n) : Prop where
  highest : ∀ i, map i ≠ rtemsIdNone →
    (getMaximumQueuedItemsCount t i).toInt = highestPending map i (Monitor.init s) as
  bounded : ∀ i capacity, map i ≠ rtemsIdNone → s.queues.capacity (map i) = some capacity →
    (getMaximumQueuedItemsCount t i).toInt ≤ capacity
  unaffected : ∀ i, ∃ t',
    run (queueStep map) (Monitor.init s) (as.filter (concerns map i)) = some t' ∧
    getMaximumQueuedItemsCount t' i = getMaximumQueuedItemsCount t i
  noQueue : ∀ i, map i = rtemsIdNone → getMaximumQueuedItemsCount t i = 0

theorem init_zero (s : RequestState n) (i : Fin n) : (Monitor.init s).maximumQueuedItems i = 0 :=
  congrFun (init_maximumQueuedItems s) i

theorem highWater_of_run (map : Fin n → RtemsId) (s : RequestState n)
    (as : List (QueueAction n)) (t : RequestState n) (hq : SporadicQueues map s.queues)
    (haddressed : ∀ a ∈ as, Addressed map a)
    (hr : run (queueStep map) (Monitor.init s) as = some t) : HighWater map s as t := by
  have hinit : SporadicQueues map (Monitor.init s).queues := hq
  have hexact (i : Fin n) (hmap : map i ≠ rtemsIdNone) :
      (getMaximumQueuedItemsCount t i).toNat = highestPending map i (Monitor.init s) as :=
    run_mark hinit (init_zero s i) hmap hr
  have hsigned (i : Fin n) (hmap : map i ≠ rtemsIdNone) :
      (getMaximumQueuedItemsCount t i).toInt = highestPending map i (Monitor.init s) as := by
    obtain ⟨capacity, hsmall, hcapacity⟩ := hq.small i hmap
    have hle := highestPending_le (s := Monitor.init s) hcapacity hr
    rw [← hexact i hmap] at hle ⊢
    exact BitVec.toInt_eq_toNat_of_lt (by omega)
  constructor
  case highest => exact hsigned
  case bounded =>
    intro i capacity hmap hcapacity
    rw [hsigned i hmap]
    exact Int.ofNat_le.mpr (highestPending_le (s := Monitor.init s) hcapacity hr)
  case unaffected =>
    intro i
    obtain ⟨t', hr', hsame⟩ := run_same (i := i) hinit haddressed hr
    exact ⟨t', hr', hsame.mark.symm⟩
  case noQueue =>
    intro i hmap
    exact (run_mark_of_none hmap hr).trans (init_zero s i)

/-- One queue of two messages; the second interface has none. -/
def oneQueue : Fin 2 → RtemsId
  | 0 => 1#32
  | 1 => rtemsIdNone

def oneQueueState : RequestState 2 where
  queues id := if id = 1#32 then some (BoundedQueue.empty 2) else none
  maximumQueuedItems _ := 7#32
  overflowCallback := true
  overflows := []

theorem highWater_of_three_sends : ∃ t,
    run (queueStep oneQueue) (Monitor.init oneQueueState)
      [.send 0 1#32 [5#8], .send 0 1#32 [], .receive 1#32, .send 1 rtemsIdNone []] = some t ∧
    HighWater oneQueue oneQueueState
      [.send 0 1#32 [5#8], .send 0 1#32 [], .receive 1#32, .send 1 rtemsIdNone []] t := by
  refine ⟨_, rfl, highWater_of_run oneQueue oneQueueState _ _ ⟨?_, ?_⟩ ?_ rfl⟩
  · decide
  · intro i hmap
    refine ⟨2, by decide, ?_⟩
    match i with
    | 0 => rfl
    | 1 => exact absurd rfl hmap
  · simp [Addressed, oneQueue]

end SamV71Runtime.ThreadsCommon
