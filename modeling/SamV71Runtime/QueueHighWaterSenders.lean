import SamV71Runtime.RequestQueues
import SamV71Runtime.Runs

/-!
# The high-water marks of preempting senders

One step is one statement of `ThreadsCommon_SendRequest`, executed for one of the calls
in progress, or a whole receive. Any number of calls may be in progress, for the same
interface or for others; which of them executes next is free.
-/
namespace SamV71Runtime.ThreadsCommon
open Monitor Runs

variable {n : ℕ}

/-- The statement a call executes next, with the locals it has written. -/
inductive SendPoint where
  | sendMessage
  | readCount (result : RtemsStatusCode)
  | compare (result : RtemsStatusCode) (queuedItemsCount : BitVec 32)
  | store (result : RtemsStatusCode) (queuedItemsCount : BitVec 32)
  | report (result : RtemsStatusCode) (queuedItemsCount : BitVec 32)
  | returned (value : Bool) (queuedItemsCount : BitVec 32)

structure SenderCall (n : ℕ) where
  threadId : Fin n
  queueId : RtemsId
  requestData : Message
  point : SendPoint

structure SenderState (n : ℕ) where
  requests : RequestState n
  senders : List (SenderCall n)

/-- After `Monitor_Init`, before the first call. -/
def SenderState.initial (s : RequestState n) : SenderState n where
  requests := Monitor.init s
  senders := []

inductive SenderAction (n : ℕ) where
  | call (threadId : Fin n) (queueId : RtemsId) (requestData : Message)
  | statement (sender : ℕ)
  | receive (queueId : RtemsId)

def SenderCall.execute (map : Fin n → RtemsId) (s : RequestState n) (c : SenderCall n) :
    Option (RequestState n × SendPoint) :=
  match c.point with
  | .sendMessage =>
      let sent := rtemsMessageQueueSend s.queues c.queueId c.requestData
      some ({ s with queues := sent.2 }, .readCount sent.1)
  | .readCount result => some (s, .compare result (getQueuedItemsCount map s.queues c.threadId))
  | .compare result count =>
      some (s, if exceedsMaximum count (s.maximumQueuedItems c.threadId) then .store result count
        else .report result count)
  | .store result count =>
      let maximumQueuedItems := Function.update s.maximumQueuedItems c.threadId count
      some ({ s with maximumQueuedItems }, .report result count)
  | .report result count =>
      let reply := reportOverflow s result c.threadId
      some (reply.2, .returned reply.1 count)
  | .returned _ _ => none

def senderStep (map : Fin n → RtemsId) (s : SenderState n) : SenderAction n → Option (SenderState n)
  | .call threadId queueId requestData =>
      some { s with senders := s.senders ++ [⟨threadId, queueId, requestData, .sendMessage⟩] }
  | .statement sender => do
      let c ← s.senders[sender]?
      let (requests, point) ← c.execute map s.requests
      some ⟨requests, s.senders.set sender { c with point }⟩
  | .receive queueId =>
      (rtemsMessageQueueReceive s.requests.queues queueId).map fun (_, queues) =>
        { s with requests := { s.requests with queues } }

/-- The count that a call is about to store. -/
def SendPoint.storing : SendPoint → Option (BitVec 32)
  | .store _ count => some count
  | _ => none

/-- The count that a call past its store has observed. -/
def SendPoint.observed : SendPoint → Option (BitVec 32)
  | .report _ count => some count
  | .returned _ count => some count
  | _ => none

/-- Both calls are about to store for one interface, and the second call holds less. -/
def SenderCall.overtakes (c d : SenderCall n) : Bool :=
  match c.point.storing, d.point.storing with
  | some count, some other => d.threadId = c.threadId && decide (other.toNat < count.toNat)
  | _, _ => false

/-- A count is stored while no other sender of the interface waits to store a smaller one. -/
def StoresInOrder (s : SenderState n) : SenderAction n → Prop
  | .statement sender => ∀ c : SenderCall n, c ∈ s.senders[sender]? →
      ∀ d ∈ s.senders, c.overtakes d = false
  | _ => True

instance (s : SenderState n) : (a : SenderAction n) → Decidable (StoresInOrder s a)
  | .call _ _ _ => isTrue trivial
  | .receive _ => isTrue trivial
  | .statement sender => inferInstanceAs (Decidable (∀ c : SenderCall n,
      c ∈ s.senders[sender]? → ∀ d ∈ s.senders, c.overtakes d = false))

def MarksKept (map : Fin n → RtemsId) (s : SenderState n) (a : SenderAction n) : Prop :=
  ∀ t, senderStep map s a = some t → ∀ i,
    (s.requests.maximumQueuedItems i).toNat ≤ (t.requests.maximumQueuedItems i).toNat

/-- What a finished sender observed, as the signed value it is, is covered by the mark. -/
def ObservedCovered (s : SenderState n) : Prop :=
  ∀ c ∈ s.senders, ∀ count, c.point.observed = some count →
    count.toInt ≤ (s.requests.maximumQueuedItems c.threadId).toNat

/-- Whoever is about to store holds a count that is not below the mark. -/
def StoresRaise (s : SenderState n) : Prop :=
  ∀ c ∈ s.senders, ∀ count, c.point.storing = some count →
    (s.requests.maximumQueuedItems c.threadId).toNat ≤ count.toNat

/-- A sender is about to store a count below the mark. -/
def Lagging (s : SenderState n) : Prop :=
  ∃ (k : ℕ) (c : SenderCall n) (count : BitVec 32),
    s.senders[k]? = some c ∧ c.point.storing = some count ∧
      count.toNat < (s.requests.maximumQueuedItems c.threadId).toNat

section Statements
variable {map : Fin n → RtemsId} {s t : SenderState n} {a : SenderAction n}

theorem senderStep_statement_cases {sender : ℕ} (h : senderStep map s (.statement sender) = some t) :
    ∃ c requests point, s.senders[sender]? = some c ∧
      c.execute map s.requests = some (requests, point) ∧
      t = ⟨requests, s.senders.set sender { c with point }⟩ := by
  obtain ⟨c, hc, h⟩ := Option.bind_eq_some_iff.mp h
  obtain ⟨⟨requests, point⟩, he, h⟩ := Option.bind_eq_some_iff.mp h
  exact ⟨c, requests, point, hc, he, (Option.some.inj h).symm⟩

theorem SenderCall.overtakes_iff {c d : SenderCall n} : c.overtakes d = true ↔
    ∃ count other, c.point.storing = some count ∧ d.point.storing = some other ∧
      d.threadId = c.threadId ∧ other.toNat < count.toNat := by
  unfold SenderCall.overtakes
  cases c.point.storing with
  | none => simp
  | some count =>
      cases d.point.storing with
      | none => simp
      | some other => simp

theorem reportOverflow_maximumQueuedItems (s : RequestState n) (result : RtemsStatusCode)
    (threadId : Fin n) :
    (reportOverflow s result threadId).2.maximumQueuedItems = s.maximumQueuedItems := by
  unfold reportOverflow
  split
  · rfl
  · rfl

/-- The marks change at a store and nowhere else. -/
theorem SenderCall.execute_marks {s requests : RequestState n} {c : SenderCall n}
    {point : SendPoint} (h : c.execute map s = some (requests, point)) :
    requests.maximumQueuedItems =
      c.point.storing.elim s.maximumQueuedItems (Function.update s.maximumQueuedItems c.threadId) := by
  unfold SenderCall.execute at h
  cases hpoint : c.point with
  | report result count =>
      rw [hpoint] at h
      cases h
      exact reportOverflow_maximumQueuedItems ..
  | returned value count =>
      rw [hpoint] at h
      cases h
  | _ =>
      rw [hpoint] at h
      cases h
      rfl

theorem toInt_le_toNat (count : BitVec 32) : count.toInt ≤ count.toNat := by
  rw [BitVec.toInt_eq_toNat_cond]
  split
  · exact Int.le_refl _
  · omega

/-- A count that the comparison turns down is negative or not above the mark. -/
theorem toInt_le_of_not_exceedsMaximum {count mark : BitVec 32}
    (h : ¬ exceedsMaximum count mark = true) : count.toInt ≤ mark.toNat := by
  rw [exceedsMaximum, Bool.and_eq_true, not_and_or] at h
  rcases h with h | h
  · rw [BitVec.slt, decide_eq_true_iff] at h
    have hminus : (-1#32 : BitVec 32).toInt = -1 := by decide
    omega
  · rw [BitVec.ult, decide_eq_true_iff] at h
    have hle := toInt_le_toNat count
    omega

/-- A call comes to its store with a count above the mark. -/
theorem SenderCall.execute_storing {s requests : RequestState n} {c : SenderCall n}
    {point : SendPoint} {count : BitVec 32} (h : c.execute map s = some (requests, point))
    (hstoring : point.storing = some count) :
    requests.maximumQueuedItems = s.maximumQueuedItems ∧
      (s.maximumQueuedItems c.threadId).toNat < count.toNat := by
  unfold SenderCall.execute at h
  cases hpoint : c.point with
  | compare result other =>
      rw [hpoint] at h
      simp only [Option.some.injEq, Prod.mk.injEq] at h
      obtain ⟨rfl, hp⟩ := h
      split at hp
      · rename_i hexceeds
        subst hp
        cases hstoring
        exact ⟨rfl, BitVec.ult_iff_lt.mp (Bool.and_eq_true_iff.mp hexceeds).2⟩
      · subst hp
        cases hstoring
  | returned value other =>
      rw [hpoint] at h
      cases h
  | _ =>
      rw [hpoint] at h
      cases h
      cases hstoring

/-- What a call has observed when it is past its store is covered by the mark. -/
theorem SenderCall.execute_observed {s requests : RequestState n} {c : SenderCall n}
    {point : SendPoint} {count : BitVec 32} (h : c.execute map s = some (requests, point))
    (hobserved : point.observed = some count) :
    c.point.observed = some count ∨
      count.toInt ≤ (requests.maximumQueuedItems c.threadId).toNat := by
  unfold SenderCall.execute at h
  cases hpoint : c.point with
  | compare result other =>
      rw [hpoint] at h
      simp only [Option.some.injEq, Prod.mk.injEq] at h
      obtain ⟨rfl, hp⟩ := h
      split at hp
      · subst hp
        cases hobserved
      · rename_i hexceeds
        subst hp
        cases hobserved
        exact Or.inr (toInt_le_of_not_exceedsMaximum hexceeds)
  | store result other =>
      rw [hpoint] at h
      cases h
      cases hobserved
      right
      dsimp only
      rw [Function.update_self]
      exact toInt_le_toNat _
  | report result other =>
      rw [hpoint] at h
      cases h
      exact Or.inl hobserved
  | returned value other =>
      rw [hpoint] at h
      cases h
  | _ =>
      rw [hpoint] at h
      cases h
      cases hobserved

/-- The marks after a statement of the call `c`. -/
theorem SenderCall.execute_mark {s requests : RequestState n} {c : SenderCall n}
    {point : SendPoint} (h : c.execute map s = some (requests, point)) (i : Fin n) :
    (requests.maximumQueuedItems i = s.maximumQueuedItems i ∧
      (i = c.threadId → c.point.storing = none)) ∨
    ∃ count, i = c.threadId ∧ c.point.storing = some count ∧
      requests.maximumQueuedItems i = count := by
  rw [SenderCall.execute_marks h]
  cases hstoring : c.point.storing with
  | none => exact Or.inl ⟨rfl, fun _ => rfl⟩
  | some count =>
      rw [Option.elim_some]
      by_cases hi : i = c.threadId
      · exact Or.inr ⟨count, hi, rfl, by rw [hi, Function.update_self]⟩
      · exact Or.inl ⟨Function.update_of_ne hi .., fun h => absurd h hi⟩

theorem senderStep_marksKept (hraise : StoresRaise s) : MarksKept map s a := by
  intro t h i
  cases a with
  | call threadId queueId requestData =>
      cases h
      exact Nat.le_refl _
  | receive queueId =>
      obtain ⟨_, _, rfl⟩ := Option.map_eq_some_iff.mp h
      exact Nat.le_refl _
  | statement sender =>
      obtain ⟨c, requests, point, hc, he, rfl⟩ := senderStep_statement_cases h
      rcases SenderCall.execute_mark he i with ⟨hsame, _⟩ | ⟨count, rfl, hstoring, hmark⟩
      · exact Nat.le_of_eq (congrArg _ hsame.symm)
      · rw [hmark]
        exact hraise c (List.mem_of_getElem? hc) count hstoring

theorem senderStep_storesRaise (hraise : StoresRaise s) (horder : StoresInOrder s a)
    (h : senderStep map s a = some t) : StoresRaise t := by
  intro d hd other hother
  cases a with
  | call threadId queueId requestData =>
      cases h
      rcases List.mem_append.mp hd with hd | hd
      · exact hraise d hd other hother
      · obtain rfl := List.mem_singleton.mp hd
        cases hother
  | receive queueId =>
      obtain ⟨_, _, rfl⟩ := Option.map_eq_some_iff.mp h
      exact hraise d hd other hother
  | statement sender =>
      obtain ⟨c, requests, point, hc, he, rfl⟩ := senderStep_statement_cases h
      rcases List.mem_or_eq_of_mem_set hd with hd | rfl
      · rcases SenderCall.execute_mark he d.threadId with ⟨hsame, _⟩ | ⟨count, hthread, hstoring, hmark⟩
        · rw [hsame]
          exact hraise d hd other hother
        · rw [hmark]
          apply Nat.le_of_not_lt
          intro hless
          have hovertakes := SenderCall.overtakes_iff.mpr
            ⟨count, other, hstoring, hother, hthread, hless⟩
          rw [horder c hc d hd] at hovertakes
          cases hovertakes
      · obtain ⟨hsame, hless⟩ := SenderCall.execute_storing he hother
        rw [hsame]
        exact Nat.le_of_lt hless

theorem senderStep_observedCovered (hkept : MarksKept map s a) (hcovered : ObservedCovered s)
    (h : senderStep map s a = some t) : ObservedCovered t := by
  intro d hd count hcount
  have hold (hd : d ∈ s.senders) :
      count.toInt ≤ (t.requests.maximumQueuedItems d.threadId).toNat :=
    Int.le_trans (hcovered d hd count hcount) (Int.ofNat_le.mpr (hkept t h d.threadId))
  cases a with
  | call threadId queueId requestData =>
      cases h
      rcases List.mem_append.mp hd with hd | hd
      · exact hold hd
      · obtain rfl := List.mem_singleton.mp hd
        cases hcount
  | receive queueId =>
      obtain ⟨_, _, rfl⟩ := Option.map_eq_some_iff.mp h
      exact hold hd
  | statement sender =>
      obtain ⟨c, requests, point, hc, he, rfl⟩ := senderStep_statement_cases h
      rcases List.mem_or_eq_of_mem_set hd with hd | rfl
      · exact hold hd
      · rcases SenderCall.execute_observed he hcount with hbefore | hnow
        · refine Int.le_trans (hcovered c (List.mem_of_getElem? hc) count hbefore) ?_
          exact Int.ofNat_le.mpr (hkept _ h c.threadId)
        · exact hnow

/-- As long as no mark goes down, a sender below its mark stays where it is. -/
theorem senderStep_lagging (hkept : MarksKept map s a) (hlagging : Lagging s)
    (h : senderStep map s a = some t) : Lagging t := by
  obtain ⟨k, d, other, hd, hother, hless⟩ := hlagging
  have hbelow := Nat.lt_of_lt_of_le hless (hkept t h d.threadId)
  cases a with
  | call threadId queueId requestData =>
      cases h
      obtain ⟨hlt, _⟩ := List.getElem?_eq_some_iff.mp hd
      exact ⟨k, d, other, (List.getElem?_append_left hlt).trans hd, hother, hbelow⟩
  | receive queueId =>
      obtain ⟨_, _, rfl⟩ := Option.map_eq_some_iff.mp h
      exact ⟨k, d, other, hd, hother, hbelow⟩
  | statement sender =>
      obtain ⟨c, requests, point, hc, he, rfl⟩ := senderStep_statement_cases h
      by_cases hk : sender = k
      · subst hk
        obtain rfl := Option.some.inj (hd.symm.trans hc)
        rcases SenderCall.execute_mark he d.threadId with ⟨_, hnone⟩ | ⟨count, _, hstoring, hmark⟩
        · rw [hnone rfl] at hother
          cases hother
        · obtain rfl := Option.some.inj (hother.symm.trans hstoring)
          dsimp only at hbelow
          rw [hmark] at hbelow
          exact absurd hbelow (Nat.lt_irrefl _)
      · exact ⟨k, d, other, (List.getElem?_set_ne hk).trans hd, hother, hbelow⟩

/-- A store past a smaller count that waits leaves its sender below the mark. -/
theorem lagging_of_not_storesInOrder (hdisorder : ¬ StoresInOrder s a)
    (h : senderStep map s a = some t) : Lagging t := by
  cases a with
  | call threadId queueId requestData => exact absurd trivial hdisorder
  | receive queueId => exact absurd trivial hdisorder
  | statement sender =>
      simp only [StoresInOrder] at hdisorder
      push Not at hdisorder
      obtain ⟨c, hc, d, hd, hovertakes⟩ := hdisorder
      obtain ⟨count, other, hcount, hother, hthread, hless⟩ :=
        SenderCall.overtakes_iff.mp (eq_true_of_ne_false hovertakes)
      obtain ⟨c', requests, point, hc', he, rfl⟩ := senderStep_statement_cases h
      obtain rfl := Option.some.inj (hc.symm.trans hc')
      obtain ⟨k, hk⟩ := List.mem_iff_getElem?.mp hd
      have hne : sender ≠ k := by
        rintro rfl
        obtain rfl := Option.some.inj (hk.symm.trans hc)
        obtain rfl := Option.some.inj (hother.symm.trans hcount)
        exact absurd hless (Nat.lt_irrefl _)
      refine ⟨k, d, other, (List.getElem?_set_ne hne).trans hk, hother, ?_⟩
      rcases SenderCall.execute_mark he d.threadId with ⟨_, hnone⟩ | ⟨count', _, hstoring, hmark⟩
      · rw [hnone hthread] at hcount
        cases hcount
      · obtain rfl := Option.some.inj (hstoring.symm.trans hcount)
        rw [hmark]
        exact hless

end Statements

section Uninterrupted
variable {map : Fin n → RtemsId} {s requests : RequestState n} {senders : List (SenderCall n)}
  {k : ℕ} {threadId : Fin n} {queueId : RtemsId} {requestData : Message}

theorem run_statement {p point : SendPoint} (hlt : k < senders.length)
    (he : SenderCall.execute map s ⟨threadId, queueId, requestData, p⟩ = some (requests, point))
    (as : List (SenderAction n)) :
    run (senderStep map) ⟨s, senders.set k ⟨threadId, queueId, requestData, p⟩⟩
        (.statement k :: as) =
      run (senderStep map) ⟨requests, senders.set k ⟨threadId, queueId, requestData, point⟩⟩ as := by
  simp only [run, senderStep, List.getElem?_set_self hlt, he, Option.bind_eq_bind, Option.bind_some,
    List.set_set]

/-- A call that no other step comes between does what the whole function does. -/
theorem uninterrupted_sendRequest
    (hk : senders[k]? = some ⟨threadId, queueId, requestData, .sendMessage⟩) :
    ∃ m count, run (senderStep map) ⟨s, senders⟩ (List.replicate m (.statement k)) =
      some ⟨(sendRequest map s requestData queueId threadId).2, senders.set k
        ⟨threadId, queueId, requestData,
          .returned (sendRequest map s requestData queueId threadId).1 count⟩⟩ := by
  let sent := rtemsMessageQueueSend s.queues queueId requestData
  let s₁ : RequestState n := { s with queues := sent.2 }
  let count := getQueuedItemsCount map sent.2 threadId
  let call := SenderCall.mk threadId queueId requestData
  have hsend : (call .sendMessage).execute map s = some (s₁, .readCount sent.1) := rfl
  have hread : (call (.readCount sent.1)).execute map s₁ = some (s₁, .compare sent.1 count) := rfl
  obtain ⟨hlt, hget⟩ := List.getElem?_eq_some_iff.mp hk
  have hcall : senders[k] = call .sendMessage := hget
  have hstart : senders = senders.set k (call .sendMessage) := by
    rw [← hcall, List.set_getElem_self]
  rw [hstart]
  by_cases hexceeds : exceedsMaximum count (s.maximumQueuedItems threadId) = true
  · have hcompare : (call (.compare sent.1 count)).execute map s₁ =
        some (s₁, .store sent.1 count) := by
      simp only [SenderCall.execute, call, s₁, if_pos hexceeds]
    refine ⟨5, count, ?_⟩
    simp only [List.replicate]
    rw [run_statement hlt hsend, run_statement hlt hread, run_statement hlt hcompare,
      run_statement hlt rfl, run_statement hlt rfl]
    simp only [run, List.set_set, sendRequest, recordQueuedItems, sent, count, s₁, if_pos hexceeds]
  · have hcompare : (call (.compare sent.1 count)).execute map s₁ =
        some (s₁, .report sent.1 count) := by
      simp only [SenderCall.execute, call, s₁, if_neg hexceeds]
    refine ⟨4, count, ?_⟩
    simp only [List.replicate]
    rw [run_statement hlt hsend, run_statement hlt hread, run_statement hlt hcompare,
      run_statement hlt rfl]
    simp only [run, List.set_set, sendRequest, recordQueuedItems, sent, count, s₁, if_neg hexceeds]

end Uninterrupted

section Runs
variable {map : Fin n → RtemsId} {s : RequestState n} {t : SenderState n}
  {as : List (SenderAction n)}

/-- No mark goes down, and in every state the finished senders are covered. -/
def HighWaterKept (map : Fin n → RtemsId) (s : RequestState n) (as : List (SenderAction n)) : Prop :=
  Along (senderStep map) (MarksKept map) (.initial s) as ∧
    ∀ u ∈ trail (senderStep map) (.initial s) as, ObservedCovered u

theorem highWaterKept_of_storesInOrder
    (horder : Along (senderStep map) StoresInOrder (.initial s) as)
    (hr : run (senderStep map) (.initial s) as = some t) : HighWaterKept map s as := by
  refine (run_induction (I := fun as t => StoresRaise t ∧ ObservedCovered t ∧
    HighWaterKept map s as) horder hr ⟨?_, ?_, trivial, ?_⟩ ?_).2.2
  · intro c hc
    cases hc
  · intro c hc
    cases hc
  · intro u hu
    obtain rfl := List.mem_singleton.mp hu
    intro c hc
    cases hc
  · rintro as t a u hr ⟨hraise, hcovered, hkept, hall⟩ horder hs
    have hcovered' := senderStep_observedCovered (senderStep_marksKept hraise) hcovered hs
    refine ⟨senderStep_storesRaise hraise horder hs, hcovered',
      (along_append hr).mpr ⟨hkept, senderStep_marksKept hraise, ?_⟩, ?_⟩
    · rw [hs]
      trivial
    · intro v hv
      rw [trail_concat hr hs] at hv
      rcases List.mem_append.mp hv with hv | hv
      · exact hall v hv
      · obtain rfl := List.mem_singleton.mp hv
        exact hcovered'

theorem storesInOrder_of_marksKept
    (hkept : Along (senderStep map) (MarksKept map) (.initial s) as)
    (hr : run (senderStep map) (.initial s) as = some t)
    (hstored : ∀ c ∈ t.senders, c.point.storing = none) :
    Along (senderStep map) StoresInOrder (.initial s) as := by
  have hcases := run_induction (I := fun as t =>
    Along (senderStep map) StoresInOrder (.initial s) as ∨ Lagging t) hkept hr (Or.inl trivial) ?_
  · rcases hcases with horder | ⟨k, c, count, hc, hstoring, _⟩
    · exact horder
    · rw [hstored c (List.mem_of_getElem? hc)] at hstoring
      cases hstoring
  · intro as t a u hr hi hkept hs
    rcases hi with horder | hlagging
    · by_cases hnext : StoresInOrder t a
      · refine Or.inl ((along_append hr).mpr ⟨horder, hnext, ?_⟩)
        rw [hs]
        trivial
      · exact Or.inr (lagging_of_not_storesInOrder hnext hs)
    · exact Or.inr (senderStep_lagging hkept hlagging hs)

end Runs

/-- Stores in order keep the high-water marks. Where no sender is left before its store,
nothing else keeps them. -/
theorem highWaterKept_iff (map : Fin n → RtemsId) (s : RequestState n)
    (as : List (SenderAction n)) (t : SenderState n)
    (hr : run (senderStep map) (.initial s) as = some t) :
    (Along (senderStep map) StoresInOrder (.initial s) as → HighWaterKept map s as) ∧
    ((∀ c ∈ t.senders, c.point.storing = none) → HighWaterKept map s as →
      Along (senderStep map) StoresInOrder (.initial s) as) :=
  ⟨fun horder => highWaterKept_of_storesInOrder horder hr,
    fun hstored hkept => storesInOrder_of_marksKept hkept.1 hr hstored⟩

def queueOfTwo : RequestState 1 where
  queues id := if id = 1#32 then some (BoundedQueue.empty 2) else none
  maximumQueuedItems _ := 0
  overflowCallback := true
  overflows := []

/-- Both senders stand at their stores before the first of them makes its own. -/
def overlappingSenders : List (SenderAction 1) :=
  [.call 0 1#32 [], .call 0 1#32 [], .statement 0, .statement 0, .statement 0, .statement 1,
    .statement 1, .statement 1, .statement 0, .receive 1#32, .statement 1, .statement 1,
    .statement 0]

theorem highWaterKept_overlappingSenders : ∃ s t,
    run (senderStep fun _ => 1#32) (.initial queueOfTwo) (overlappingSenders.take 8) = some s ∧
    s.senders.map (fun c => c.point.storing) = [some 1#32, some 2#32] ∧
    run (senderStep fun _ => 1#32) (.initial queueOfTwo) overlappingSenders = some t ∧
    t.senders.map (fun c => c.point.observed) = [some 1#32, some 2#32] ∧
    t.requests.maximumQueuedItems 0 = 2#32 ∧
    HighWaterKept (fun _ => 1#32) queueOfTwo overlappingSenders :=
  ⟨_, _, rfl, by decide, rfl, by decide, rfl,
    (highWaterKept_iff (fun _ => 1#32) queueOfTwo overlappingSenders _ rfl).1 (by decide)⟩

/-- The first sender is preempted before its store by one that stores a larger count. -/
def overtakenSender : List (SenderAction 1) :=
  [.call 0 1#32 [], .call 0 1#32 [], .statement 0, .statement 0, .statement 0, .statement 1,
    .statement 1, .statement 1, .statement 1, .statement 1, .statement 0]

theorem not_highWaterKept_overtakenSender : ∃ t,
    run (senderStep fun _ => 1#32) (.initial queueOfTwo) overtakenSender = some t ∧
    t.requests.maximumQueuedItems 0 = 1#32 ∧
    (t.senders[1]?.map fun c => c.point.observed) = some (some 2#32) ∧
    ¬ HighWaterKept (fun _ => 1#32) queueOfTwo overtakenSender := by
  refine ⟨_, rfl, rfl, rfl, fun h => ?_⟩
  have hcovered := h.2 _ (last_mem_trail rfl) ⟨0, 1#32, [], .returned true 2#32⟩
  exact absurd (hcovered (List.mem_of_getElem? (i := 1) rfl) 2#32 rfl) (by decide)

end SamV71Runtime.ThreadsCommon
