import Mathlib.Algebra.GroupWithZero.Nat
import SamV71Runtime.CyclicRequests
import SamV71Runtime.RequestQueues

/-!
# Where the produced requests go

Requests are produced by `ThreadsCommon_SendRequest` and by the callbacks of the cyclic
timers; both put them into the same queues. A sender names its queue and its interface
independently of each other. Every queue named exists, and the overflow callback is
registered.
-/
namespace SamV71Runtime.ThreadsCommon
open Monitor Runs

variable {n : ℕ}

/-- `produced` and `received` count, for each queue, what was sent to it so far and what
was taken out of it. -/
structure ProductionState (n : ℕ) where
  cyclic : CyclicState
  requests : RequestState n
  produced : RtemsId → ℕ
  received : RtemsId → ℕ

def ProductionState.initial (queues : MessageQueues) (maximumQueuedItems : Fin n → BitVec 32) :
    ProductionState n where
  cyclic := .initial
  requests := ⟨queues, maximumQueuedItems, true, []⟩
  produced _ := 0
  received _ := 0

inductive ProductionAction (n : ℕ) where
  | send (threadId : Fin n) (queueId : RtemsId) (requestData : Message)
  | receive (queueId : RtemsId)
  | cyclic (a : CyclicAction)

def countOne (counts : RtemsId → ℕ) (queueId : RtemsId) : RtemsId → ℕ :=
  Function.update counts queueId (counts queueId + 1)

def EmptyRequest.message (r : EmptyRequest) : Message :=
  List.replicate r.requestSize.toNat 0#8

/-- The send of `timer_callback`; its status is dropped, as in the source. -/
def sendEmptyRequest (s : ProductionState n) (r : EmptyRequest) : Option (ProductionState n) :=
  if (s.requests.queues r.queueId).isSome then
    let queues := (rtemsMessageQueueSend s.requests.queues r.queueId r.message).2
    some { s with
      requests := { s.requests with queues }
      produced := countOne s.produced r.queueId }
  else none

def productionStep (cfg : CyclicConfig) (map : Fin n → RtemsId) (s : ProductionState n) :
    ProductionAction n → Option (ProductionState n)
  | .send threadId queueId requestData =>
      if (s.requests.queues queueId).isSome then
        some { s with
          requests := (sendRequest map s.requests requestData queueId threadId).2
          produced := countOne s.produced queueId }
      else none
  | .receive queueId =>
      (rtemsMessageQueueReceive s.requests.queues queueId).map fun (_, queues) => { s with
        requests := { s.requests with queues }
        received := countOne s.received queueId }
  | .cyclic a =>
      (cyclicStep cfg s.cyclic a).bind fun cyclic =>
        (cyclic.sent.drop s.cyclic.sent.length).foldlM sendEmptyRequest { s with cyclic }

/-- The request that the callback of an expiring timer sends. -/
def expiringRequest (s : CyclicState) : CyclicAction → Option EmptyRequest
  | .expire timerId => (s.armed timerId).map fun timer =>
      ⟨(s.cyclicRequestData timer.userData).queueId,
        (s.cyclicRequestData timer.userData).requestSize⟩
  | _ => none

/-- The queue that an action produces a request for. -/
def producedFor (s : ProductionState n) : ProductionAction n → Option RtemsId
  | .send _ queueId _ => some queueId
  | .receive _ => none
  | .cyclic a => (expiringRequest s.cyclic a).map EmptyRequest.queueId

/-- A sender that finds the queue full and reports an interface that does not own it. -/
def misreports (map : Fin n → RtemsId) (s : ProductionState n) (threadId : Fin n)
    (queueId : RtemsId) : Bool :=
  s.requests.queues.full queueId && decide (map threadId ≠ queueId)

/-- The full queue whose owner is not told: no callback tells it, and no sender for another. -/
def lostFor (map : Fin n → RtemsId) (s : ProductionState n) : ProductionAction n → Option RtemsId
  | .send threadId queueId _ => if misreports map s threadId queueId then some queueId else none
  | .receive _ => none
  | .cyclic a => ((expiringRequest s.cyclic a).map EmptyRequest.queueId).filter s.requests.queues.full

/-- The queue whose owner is told of a request that was never meant for it. -/
def blamedFor (map : Fin n → RtemsId) (s : ProductionState n) : ProductionAction n → Option RtemsId
  | .send threadId queueId _ =>
      if misreports map s threadId queueId then some (map threadId) else none
  | .receive _ | .cyclic _ => none

/-- The sum of the overflow counts reported for the interfaces that own a queue. -/
def reported (map : Fin n → RtemsId) (overflows : List (OverflowReport n)) (queueId : RtemsId) : ℕ :=
  ((overflows.filter fun r => map r.interface = queueId).map
    fun r => r.numberOfOverflowedMessages.toNat).sum

/-- What has been received, is pending or was reported. -/
def accounted (map : Fin n → RtemsId) (s : ProductionState n) (queueId : RtemsId) : ℕ :=
  s.received queueId + s.requests.queues.pending queueId + reported map s.requests.overflows queueId

section Steps
variable {cfg : CyclicConfig} {map : Fin n → RtemsId} {s t : ProductionState n}

theorem countOne_apply (counts : RtemsId → ℕ) (queueId j : RtemsId) :
    countOne counts queueId j = counts j + if j = queueId then 1 else 0 := by
  unfold countOne
  by_cases hj : j = queueId
  · simp [hj]
  · simp [hj]

theorem reported_append (overflows : List (OverflowReport n)) (i : Fin n) (queueId : RtemsId) :
    reported map (overflows ++ [⟨i, 1#32⟩]) queueId =
      reported map overflows queueId + if queueId = map i then 1 else 0 := by
  unfold reported
  by_cases hi : map i = queueId
  · simp [List.filter_append, hi]
  · simp [List.filter_append, hi, Ne.symm hi]

theorem scheduleNextTick_sent (s : CyclicState) (index : ℕ) :
    (scheduleNextTick s index).sent = s.sent := by
  rw [scheduleNextTick_eq]

theorem armCyclicRequest_sent {s t : CyclicState} {r : CyclicRequest} {status : RtemsStatusCode}
    {timerId : RtemsId} {granted : Bool}
    (h : armCyclicRequest cfg s r status timerId = some (granted, t)) : t.sent = s.sent := by
  rcases armCyclicRequest_cases h with ⟨_, _, _, rfl⟩ | ⟨_, _, _, rfl⟩
  · exact scheduleNextTick_sent _ _
  · rfl

/-- Only an expiry sends, and it sends one request. -/
theorem cyclicStep_sent {s t : CyclicState} {a : CyclicAction} (h : cyclicStep cfg s a = some t) :
    t.sent = s.sent ++ (expiringRequest s a).toList := by
  cases a with
  | tick =>
      cases h
      exact (List.append_nil _).symm
  | create r status timerId =>
      simp only [cyclicStep] at h
      split at h
      · cases h
      · obtain ⟨⟨granted, u⟩, harm, rfl⟩ := Option.map_eq_some_iff.mp h
        exact (armCyclicRequest_sent harm).trans (List.append_nil _).symm
  | created =>
      simp only [cyclicStep] at h
      split at h
      · cases h
        exact (List.append_nil _).symm
      · cases h
  | expire timerId =>
      obtain ⟨timer, harmed, h⟩ := Option.bind_eq_some_iff.mp h
      split at h
      · cases h
        simp only [timerCallback, scheduleNextTick_sent, expiringRequest, harmed, Option.map_some,
          Option.toList_some]
      · cases h

theorem productionStep_send_cases {threadId : Fin n} {queueId : RtemsId} {requestData : Message}
    (h : productionStep cfg map s (.send threadId queueId requestData) = some t) :
    (s.requests.queues queueId).isSome ∧ t = { s with
      requests := (sendRequest map s.requests requestData queueId threadId).2
      produced := countOne s.produced queueId } := by
  simp only [productionStep] at h
  split at h
  · rename_i hqueue
    exact ⟨hqueue, (Option.some.inj h).symm⟩
  · cases h

theorem productionStep_receive_cases {queueId : RtemsId}
    (h : productionStep cfg map s (.receive queueId) = some t) :
    ∃ message queues, rtemsMessageQueueReceive s.requests.queues queueId = some (message, queues) ∧
      t = { s with
        requests := { s.requests with queues }
        received := countOne s.received queueId } := by
  obtain ⟨⟨message, queues⟩, hreceive, rfl⟩ := Option.map_eq_some_iff.mp h
  exact ⟨message, queues, hreceive, rfl⟩

/-- A step of the cyclic requests sends nothing, or what the expiring callback sends. -/
theorem productionStep_cyclic_cases {a : CyclicAction}
    (h : productionStep cfg map s (.cyclic a) = some t) :
    (expiringRequest s.cyclic a = none ∧ ∃ cyclic, t = { s with cyclic }) ∨
    ∃ r cyclic, expiringRequest s.cyclic a = some r ∧ (s.requests.queues r.queueId).isSome ∧
      t = { s with
        cyclic
        requests := { s.requests with
          queues := (rtemsMessageQueueSend s.requests.queues r.queueId r.message).2 }
        produced := countOne s.produced r.queueId } := by
  obtain ⟨cyclic, hcyclic, h⟩ := Option.bind_eq_some_iff.mp h
  rw [cyclicStep_sent hcyclic, List.drop_left] at h
  cases hexpiring : expiringRequest s.cyclic a with
  | none =>
      rw [hexpiring] at h
      cases h
      exact Or.inl ⟨rfl, cyclic, rfl⟩
  | some r =>
      rw [hexpiring, Option.toList_some, List.foldlM_cons] at h
      obtain ⟨u, hsent, h⟩ := Option.bind_eq_some_iff.mp h
      cases h
      unfold sendEmptyRequest at hsent
      split at hsent
      · rename_i hqueue
        cases hsent
        exact Or.inr ⟨r, cyclic, rfl, hqueue, rfl⟩
      · cases hsent

theorem productionStep_overflowCallback {a : ProductionAction n}
    (h : productionStep cfg map s a = some t) :
    t.requests.overflowCallback = s.requests.overflowCallback := by
  cases a with
  | send threadId queueId requestData =>
      obtain ⟨_, rfl⟩ := productionStep_send_cases h
      exact sendRequest_overflowCallback ..
  | receive queueId =>
      obtain ⟨_, _, _, rfl⟩ := productionStep_receive_cases h
      rfl
  | cyclic a =>
      rcases productionStep_cyclic_cases h with ⟨_, _, rfl⟩ | ⟨_, _, _, _, rfl⟩
      · rfl
      · rfl

end Steps

/-- One message more is pending in the queue and nothing is reported. -/
def Placed (s t : RequestState n) (queueId : RtemsId) : Prop :=
  t.overflows = s.overflows ∧
    ∀ j, t.queues.pending j = s.queues.pending j + if j = queueId then 1 else 0

/-- The queues stay and the owner of the full one is reported once, with count 1. -/
def ReportedOnce (map : Fin n → RtemsId) (s t : RequestState n) (queueId : RtemsId) : Prop :=
  t.queues = s.queues ∧ ∃ i, map i = queueId ∧ t.overflows = s.overflows ++ [⟨i, 1#32⟩]

/-- The request that an action produces, if any, is placed or reported. -/
def Accounted (cfg : CyclicConfig) (map : Fin n → RtemsId) (s : ProductionState n)
    (a : ProductionAction n) : Prop :=
  ∀ t queueId, productionStep cfg map s a = some t → producedFor s a = some queueId →
    Placed s.requests t.requests queueId ∨ ReportedOnce map s.requests t.requests queueId

section Outcomes
variable {cfg : CyclicConfig} {map : Fin n → RtemsId}

/-- A sender places its request, or reports its own interface, whatever queue was full. -/
theorem sendRequest_outcome (map : Fin n → RtemsId) {s : RequestState n} {queueId : RtemsId}
    (hqueue : (s.queues queueId).isSome) (hcallback : s.overflowCallback = true)
    (threadId : Fin n) (requestData : Message) :
    (s.queues.full queueId = false ∧
      Placed s (sendRequest map s requestData queueId threadId).2 queueId) ∨
    (s.queues.full queueId = true ∧
      (sendRequest map s requestData queueId threadId).2.queues = s.queues ∧
      (sendRequest map s requestData queueId threadId).2.overflows =
        s.overflows ++ [⟨threadId, 1#32⟩]) := by
  unfold Placed
  rw [sendRequest_overflows, sendRequest_queues]
  cases hfull : s.queues.full queueId with
  | true =>
      right
      rw [rtemsMessageQueueSend_of_full hfull]
      exact ⟨rfl, rfl, if_pos ⟨rfl, hcallback⟩⟩
  | false =>
      left
      obtain ⟨hstatus, hpending⟩ := rtemsMessageQueueSend_of_room hqueue hfull requestData
      refine ⟨rfl, if_neg ?_, hpending⟩
      rw [hstatus]
      exact fun h => absurd h.1 (by decide)

/-- A callback places its request, or leaves everything as it was. -/
theorem emptyRequest_outcome {s : RequestState n} {r : EmptyRequest}
    (hqueue : (s.queues r.queueId).isSome) :
    (s.queues.full r.queueId = false ∧ Placed s { s with
      queues := (rtemsMessageQueueSend s.queues r.queueId r.message).2 } r.queueId) ∨
    (s.queues.full r.queueId = true ∧
      { s with queues := (rtemsMessageQueueSend s.queues r.queueId r.message).2 } = s) := by
  cases hfull : s.queues.full r.queueId with
  | true =>
      right
      rw [rtemsMessageQueueSend_of_full hfull]
      exact ⟨rfl, rfl⟩
  | false =>
      left
      exact ⟨rfl, rfl, (rtemsMessageQueueSend_of_room hqueue hfull r.message).2⟩

theorem not_placed_self (s : RequestState n) (queueId : RtemsId) : ¬ Placed s s queueId := by
  intro h
  have hpending := h.2 queueId
  rw [if_pos rfl] at hpending
  omega

theorem not_reportedOnce_self (s : RequestState n) (queueId : RtemsId) :
    ¬ ReportedOnce map s s queueId := by
  rintro ⟨_, i, _, h⟩
  exact absurd (congrArg List.length h) (by simp)

/-- A report names the owner of the queue exactly when the sender's interface owns it. -/
theorem reported_sender_iff {s t : RequestState n} {threadId : Fin n} (queueId : RtemsId)
    (hqueues : t.queues = s.queues) (hoverflows : t.overflows = s.overflows ++ [⟨threadId, 1#32⟩]) :
    Placed s t queueId ∨ ReportedOnce map s t queueId ↔ map threadId = queueId := by
  constructor
  · rintro (⟨hsame, _⟩ | ⟨_, i, hi, hone⟩)
    · rw [hoverflows] at hsame
      exact absurd (congrArg List.length hsame) (by simp)
    · rw [hoverflows] at hone
      have hreport := List.head_eq_of_cons_eq (List.append_cancel_left hone)
      rw [show threadId = i from congrArg OverflowReport.interface hreport]
      exact hi
  · exact fun howner => Or.inr ⟨hqueues, threadId, howner, hoverflows⟩

variable {s t : ProductionState n} {a : ProductionAction n}

theorem productionStep_accounted_iff (hcallback : s.requests.overflowCallback = true)
    (h : productionStep cfg map s a = some t) :
    Accounted cfg map s a ↔ lostFor map s a = none := by
  have hone : Accounted cfg map s a ↔ ∀ queueId, producedFor s a = some queueId →
      Placed s.requests t.requests queueId ∨ ReportedOnce map s.requests t.requests queueId := by
    refine ⟨fun hall queueId => hall t queueId h, fun hall u queueId hu => ?_⟩
    obtain rfl := Option.some.inj (h.symm.trans hu)
    exact hall queueId
  rw [hone]
  cases a with
  | send threadId queueId requestData =>
      obtain ⟨hqueue, rfl⟩ := productionStep_send_cases h
      simp only [producedFor, Option.some.injEq, forall_eq', lostFor, misreports]
      rcases sendRequest_outcome map hqueue hcallback threadId requestData with
        ⟨hroom, hplaced⟩ | ⟨hfull, hqueues, hoverflows⟩
      · exact iff_of_true (Or.inl hplaced) (by simp [hroom])
      · rw [reported_sender_iff queueId hqueues hoverflows]
        simp [hfull]
  | receive queueId =>
      refine iff_of_true ?_ rfl
      intro j hproduced
      cases hproduced
  | cyclic a =>
      rcases productionStep_cyclic_cases h with ⟨hnone, _⟩ | ⟨r, c, hr, hqueue, rfl⟩
      · refine iff_of_true ?_ (by rw [lostFor, hnone]; rfl)
        intro j hproduced
        rw [producedFor, hnone] at hproduced
        cases hproduced
      · rw [producedFor, hr]
        simp only [Option.map_some, Option.some.injEq, forall_eq', lostFor, hr]
        rcases emptyRequest_outcome hqueue with ⟨hroom, hplaced⟩ | ⟨hfull, hsame⟩
        · exact iff_of_true (Or.inl hplaced) (by simp [hroom])
        · rw [hsame]
          refine iff_of_false ?_ (by simp [hfull])
          exact not_or.mpr ⟨not_placed_self _ _, not_reportedOnce_self _ _⟩

/-- What was produced for a queue is accounted for, but for the requests lost there, and
with the reports made there for other queues. -/
theorem productionStep_balance (hcallback : s.requests.overflowCallback = true)
    (h : productionStep cfg map s a = some t) (queueId : RtemsId) :
    t.produced queueId + accounted map s queueId +
        (if blamedFor map s a = some queueId then 1 else 0) =
      s.produced queueId + accounted map t queueId +
        if lostFor map s a = some queueId then 1 else 0 := by
  unfold accounted
  cases a with
  | send threadId sentTo requestData =>
      obtain ⟨hqueue, rfl⟩ := productionStep_send_cases h
      simp only [countOne_apply, blamedFor, lostFor]
      rcases sendRequest_outcome map hqueue hcallback threadId requestData with
        ⟨hroom, hoverflows, hpending⟩ | ⟨hfull, hqueues, hoverflows⟩
      · have hright : misreports map s threadId sentTo = false := by
          rw [misreports, hroom, Bool.false_and]
        rw [hoverflows, hpending]
        simp only [hright, Bool.false_eq_true, if_false, reduceCtorEq]
        omega
      · rw [hoverflows, hqueues, reported_append]
        by_cases howner : map threadId = sentTo
        · have hright : misreports map s threadId sentTo = false := by simp [misreports, howner]
          simp only [hright, howner, Bool.false_eq_true, if_false, reduceCtorEq]
          omega
        · have hwrong : misreports map s threadId sentTo = true := by
            simp [misreports, hfull, howner]
          simp only [hwrong, if_true, Option.some.injEq, eq_comm (b := queueId)]
          omega
  | receive j =>
      obtain ⟨message, queues, hreceive, rfl⟩ := productionStep_receive_cases h
      simp only [countOne_apply, rtemsMessageQueueReceive_pending hreceive queueId, blamedFor,
        lostFor, reduceCtorEq, if_false]
      omega
  | cyclic a =>
      simp only [blamedFor, reduceCtorEq, if_false]
      rcases productionStep_cyclic_cases h with ⟨hnone, c, rfl⟩ | ⟨r, c, hr, hqueue, rfl⟩
      · simp [lostFor, hnone]
      · simp only [countOne_apply]
        rcases emptyRequest_outcome hqueue with ⟨hroom, _, hpending⟩ | ⟨hfull, hsame⟩
        · have hlost : lostFor map s (.cyclic a) = none := by simp [lostFor, hr, hroom]
          rw [hlost, if_neg (Option.some_ne_none _).symm]
          simp only [hpending]
          omega
        · have hlost : lostFor map s (.cyclic a) = some r.queueId := by simp [lostFor, hr, hfull]
          rw [hlost, rtemsMessageQueueSend_of_full hfull]
          simp only [Option.some.injEq, eq_comm (a := r.queueId)]
          omega

/-- Whoever is told of somebody else's request is told by the sender that lost it. -/
theorem blamedFor_eq_none (h : lostFor map s a = none) : blamedFor map s a = none := by
  cases a with
  | send threadId queueId requestData =>
      simp only [lostFor, ite_eq_right_iff, reduceCtorEq, imp_false] at h
      simp only [blamedFor, if_neg h]
  | receive | cyclic => rfl

end Outcomes

/-- No callback finds its queue full, and no sender one that its interface does not own. -/
def NothingLost (map : Fin n → RtemsId) (s : ProductionState n) (a : ProductionAction n) : Prop :=
  lostFor map s a = none

instance (map : Fin n → RtemsId) (s : ProductionState n) (a : ProductionAction n) :
    Decidable (NothingLost map s a) :=
  inferInstanceAs (Decidable (lostFor map s a = none))

/-- What was there at the start and what was produced since is accounted for. -/
def Conserved (map : Fin n → RtemsId) (queues : MessageQueues) (s : ProductionState n) : Prop :=
  ∀ queueId, queues.pending queueId + s.produced queueId = accounted map s queueId

/-- The requests that are missing for a queue are those lost there, and the reports that are
too many there were made for other queues. -/
def Balanced (cfg : CyclicConfig) (map : Fin n → RtemsId) (queues : MessageQueues)
    (marks : Fin n → BitVec 32) (as : List (ProductionAction n)) (t : ProductionState n) : Prop :=
  ∀ queueId, queues.pending queueId + t.produced queueId +
      (outputs (productionStep cfg map) (blamedFor map) (.initial queues marks) as).count queueId =
    accounted map t queueId +
      (outputs (productionStep cfg map) (lostFor map) (.initial queues marks) as).count queueId

section Runs

theorem count_toList (o : Option RtemsId) (queueId : RtemsId) :
    o.toList.count queueId = if o = some queueId then 1 else 0 := by
  cases o with
  | none => simp
  | some j => simp [List.count_singleton]

variable {cfg : CyclicConfig} {map : Fin n → RtemsId} {queues : MessageQueues}
  {marks : Fin n → BitVec 32} {t : ProductionState n} {as : List (ProductionAction n)}

theorem run_balanced (hr : run (productionStep cfg map) (.initial queues marks) as = some t) :
    t.requests.overflowCallback = true ∧ Balanced cfg map queues marks as t := by
  refine run_induction (I := fun as t => t.requests.overflowCallback = true ∧
    Balanced cfg map queues marks as t) (along_true _ as) hr ⟨rfl, fun queueId => ?_⟩ ?_
  · simp [accounted, reported, outputs, ProductionState.initial]
  · rintro as t a u hr ⟨hcallback, hbalanced⟩ _ hs
    refine ⟨(productionStep_overflowCallback hs).trans hcallback, fun queueId => ?_⟩
    have hstep := productionStep_balance hcallback hs queueId
    have hbefore := hbalanced queueId
    rw [outputs_concat a hr, outputs_concat a hr, List.count_append, List.count_append,
      count_toList, count_toList]
    omega

theorem run_conserved
    (hlost : Along (productionStep cfg map) (NothingLost map) (.initial queues marks) as)
    (hr : run (productionStep cfg map) (.initial queues marks) as = some t) :
    Conserved map queues t := by
  have hblamed : Along (productionStep cfg map) (fun s a => blamedFor map s a = none)
      (.initial queues marks) as :=
    along_of_invariant (I := fun _ => True) hlost trivial (fun _ _ _ _ _ _ => trivial)
      fun _ _ _ h => blamedFor_eq_none h
  intro queueId
  have hbalance := (run_balanced hr).2 queueId
  rwa [outputs_eq_nil hblamed, outputs_eq_nil hlost] at hbalance

/-- Every production of the run accounted for, and the books balanced in every state. -/
def Conserving (cfg : CyclicConfig) (map : Fin n → RtemsId) (queues : MessageQueues)
    (marks : Fin n → BitVec 32) (as : List (ProductionAction n)) : Prop :=
  Along (productionStep cfg map) (Accounted cfg map) (.initial queues marks) as ∧
    ∀ u ∈ trail (productionStep cfg map) (.initial queues marks) as, Conserved map queues u

theorem conserving_of_nothingLost
    (hlost : Along (productionStep cfg map) (NothingLost map) (.initial queues marks) as)
    (hr : run (productionStep cfg map) (.initial queues marks) as = some t) :
    Conserving cfg map queues marks as := by
  refine (run_induction (I := fun as _ =>
    Along (productionStep cfg map) (NothingLost map) (.initial queues marks) as ∧
      Conserving cfg map queues marks as) hlost hr ⟨trivial, trivial, ?_⟩ ?_).2
  · intro u hu
    obtain rfl := List.mem_singleton.mp hu
    have hstart : run (productionStep cfg map) (.initial queues marks) [] =
        some (.initial queues marks) := rfl
    have hnone : Along (productionStep cfg map) (NothingLost map) (.initial queues marks) [] :=
      trivial
    exact run_conserved hnone hstart
  · rintro as t a u hr ⟨hlost, haccounted, hconserved⟩ hnone hs
    have hlost' : Along (productionStep cfg map) (NothingLost map) (.initial queues marks)
        (as ++ [a]) := (along_append hr).mpr ⟨hlost, hnone, by rw [hs]; trivial⟩
    refine ⟨hlost', (along_append hr).mpr ⟨haccounted, ?_, ?_⟩, ?_⟩
    · exact (productionStep_accounted_iff (run_balanced hr).1 hs).mpr hnone
    · rw [hs]
      trivial
    · intro v hv
      rw [trail_concat hr hs] at hv
      rcases List.mem_append.mp hv with hv | hv
      · exact hconserved v hv
      · obtain rfl := List.mem_singleton.mp hv
        exact run_conserved hlost' (run_concat_some.mpr ⟨t, hr, hs⟩)

theorem nothingLost_of_accounted
    (haccounted : Along (productionStep cfg map) (Accounted cfg map) (.initial queues marks) as)
    (hr : run (productionStep cfg map) (.initial queues marks) as = some t) :
    Along (productionStep cfg map) (NothingLost map) (.initial queues marks) as := by
  refine run_induction (I := fun as _ =>
    Along (productionStep cfg map) (NothingLost map) (.initial queues marks) as) haccounted hr
    trivial ?_
  intro as t a u hr hi ha hs
  refine (along_append hr).mpr ⟨hi, ?_, ?_⟩
  · exact (productionStep_accounted_iff (run_balanced hr).1 hs).mp ha
  · rw [hs]
    trivial

end Runs

/-- No produced request is dropped silently, and each is reported for the owner of its queue,
as long as no callback of a cyclic request finds its queue full and no sender finds full a
queue that its interface does not own, and only then. -/
theorem conserving_iff (cfg : CyclicConfig) (map : Fin n → RtemsId) (queues : MessageQueues)
    (marks : Fin n → BitVec 32) (as : List (ProductionAction n)) (t : ProductionState n)
    (hr : run (productionStep cfg map) (.initial queues marks) as = some t) :
    Conserving cfg map queues marks as ↔
      Along (productionStep cfg map) (NothingLost map) (.initial queues marks) as :=
  ⟨fun h => nothingLost_of_accounted h.1 hr, fun h => conserving_of_nothingLost h hr⟩

def ticksOfOneMillisecond : CyclicConfig where
  maxCyclicInterfaces := 1
  microsecondsPerTick := 1000#32

def queueOfOne (id : RtemsId) : Option (BoundedQueue Message) :=
  if id = 1#32 then some (BoundedQueue.empty 1) else none

/-- Interface 0 owns the queue, interface 1 another one. -/
def ownedQueues (interface : Fin 2) : RtemsId := if interface.val = 0 then 1#32 else 2#32

/-- A cyclic request every millisecond and two senders. The owner is told of what the first
sender finds no room for; the second places its request in a queue of another interface. -/
def servedRequests : List (ProductionAction 2) :=
  [.cyclic (.create ⟨1000000#64, 0#64, 1#32, 16#32⟩ .successful 1#32), .cyclic .created,
    .cyclic .tick, .cyclic (.expire 1#32), .receive 1#32, .cyclic .tick, .cyclic (.expire 1#32),
    .send ⟨0, by decide⟩ 1#32 [3#8], .receive 1#32, .send ⟨1, by decide⟩ 1#32 [4#8]]

theorem conserving_servedRequests : ∃ t,
    run (productionStep ticksOfOneMillisecond ownedQueues)
      (.initial queueOfOne fun _ => 0) servedRequests = some t ∧
    t.produced 1#32 = 4 ∧ t.received 1#32 = 2 ∧ t.requests.queues.pending 1#32 = 1 ∧
    t.requests.overflows = [⟨⟨0, by decide⟩, 1#32⟩] ∧
    Conserving ticksOfOneMillisecond ownedQueues queueOfOne (fun _ => 0) servedRequests :=
  ⟨_, rfl, rfl, rfl, rfl, rfl, (conserving_iff ticksOfOneMillisecond ownedQueues queueOfOne
    (fun _ => 0) servedRequests _ rfl).mpr (by decide)⟩

/-- Two callbacks without a receive between them: the second request is gone. -/
def unservedCallbacks : List (ProductionAction 1) :=
  [.cyclic (.create ⟨1000000#64, 0#64, 1#32, 16#32⟩ .successful 1#32), .cyclic .created,
    .cyclic .tick, .cyclic (.expire 1#32), .cyclic .tick, .cyclic (.expire 1#32)]

theorem not_conserving_unservedCallbacks : ∃ t,
    run (productionStep ticksOfOneMillisecond fun _ => 1#32)
      (.initial queueOfOne fun _ => 0) unservedCallbacks = some t ∧
    t.produced 1#32 = 2 ∧ t.received 1#32 = 0 ∧ t.requests.queues.pending 1#32 = 1 ∧
    t.requests.overflows = [] ∧
    ¬ Conserving ticksOfOneMillisecond (fun _ => 1#32) queueOfOne (fun _ => 0)
      unservedCallbacks := by
  refine ⟨_, rfl, rfl, rfl, rfl, rfl, fun h => ?_⟩
  exact absurd (h.2 _ (last_mem_trail rfl) 1#32) (by decide)

end SamV71Runtime.ThreadsCommon
