import Mathlib.Algebra.Group.Nat.Defs
import Mathlib.Data.List.Nodup
import SamV71Runtime.CyclicRequests

/-!
# The cyclic request table over whole runs

The granted creations, in order, are the entries of the table; a timer's callback
argument is the position of the creation that made the timer.
-/
namespace SamV71Runtime.ThreadsCommon
open Runs

structure Creation where
  timerId : RtemsId
  request : CyclicRequest
  deriving DecidableEq, Repr

/-- The creation an action grants, if it grants one. -/
def creationOf (cfg : CyclicConfig) (s : CyclicState) : CyclicAction → Option Creation
  | .create r status timerId =>
      match armCyclicRequest cfg s r status timerId with
      | some (true, _) => some ⟨timerId, r⟩
      | _ => none
  | _ => none

/-- Entry `d` is as its creation filled it in, but for the moving deadline. -/
def Creation.Fills (cfg : CyclicConfig) (c : Creation) (d : CyclicRequestData) : Prop :=
  d = { c.request.entry cfg c.timerId with nextWakeupTicks := d.nextWakeupTicks }

theorem Creation.Fills.advance {cfg : CyclicConfig} {c : Creation} {d : CyclicRequestData}
    (h : c.Fills cfg d) : c.Fills cfg d.advance := by
  unfold Creation.Fills at h ⊢
  rw [h]
  rfl

theorem Creation.Fills.timerId {cfg : CyclicConfig} {c : Creation} {d : CyclicRequestData}
    (h : c.Fills cfg d) : d.timerId = c.timerId := by
  rw [h]
  rfl

/-- Timers, entries and callback arguments belong together. -/
structure TableEntries (cfg : CyclicConfig) (cs : List Creation) (s : CyclicState) : Prop where
  timers : s.timers = cs.map Creation.timerId
  distinct : s.timers.Nodup
  entries : ∀ (k : ℕ) (c : Creation), cs[k]? = some c → c.Fills cfg (s.cyclicRequestData k)
  armed : ∀ id timer, s.armed id = some timer → ∃ c, cs[timer.userData]? = some c ∧
    c.timerId = id ∧ (s.cyclicRequestData timer.userData).nextWakeupTicks =
      BitVec.ofNat 32 timer.expiry

/-- The same with the count, which lags one behind while a creation is in progress. -/
structure TableConsistent (cfg : CyclicConfig) (cs : List Creation) (s : CyclicState) : Prop
    extends TableEntries cfg cs s where
  counted : cs.length = s.cyclicRequestsCount + s.creating.toNat
  bounded : cs.length ≤ cfg.maxCyclicInterfaces

theorem tableConsistent_initial (cfg : CyclicConfig) : TableConsistent cfg [] .initial where
  timers := rfl
  distinct := List.nodup_nil
  entries k c h := by simp at h
  armed id timer h := by cases h
  counted := rfl
  bounded := Nat.zero_le _

section Entries
variable {cfg : CyclicConfig} {cs : List Creation} {s : CyclicState}

theorem TableEntries.member (h : TableEntries cfg cs s) {k : ℕ} {c : Creation}
    (hk : cs[k]? = some c) : c.timerId ∈ s.timers := by
  rw [h.timers]
  exact List.mem_map_of_mem (List.mem_of_getElem? hk)

theorem TableEntries.idle_of_fresh (h : TableEntries cfg cs s) {id : RtemsId}
    (hfresh : id ∉ s.timers) : s.armed id = none := by
  cases ha : s.armed id with
  | none => rfl
  | some timer =>
      obtain ⟨c, hc, rfl, _⟩ := h.armed id timer ha
      exact absurd (h.member hc) hfresh

theorem nextDeadline_eq (d : CyclicRequestData) (n : ℕ) :
    d.advance.nextWakeupTicks =
      BitVec.ofNat 32 (n + (d.delay (BitVec.ofNat 32 n)).toNat) := by
  rw [BitVec.ofNat_add, BitVec.ofNat_toNat, BitVec.setWidth_eq, BitVec.add_comm (BitVec.ofNat 32 n)]
  exact (BitVec.sub_add_cancel _ _).symm

/-- Scheduling an entry whose timer is idle keeps the table together. -/
theorem TableEntries.scheduleNextTick (h : TableEntries cfg cs s) {k : ℕ} {c : Creation}
    (hk : cs[k]? = some c) (hidle : s.armed c.timerId = none) :
    TableEntries cfg cs (scheduleNextTick s k) := by
  have hentry := h.entries k c hk
  have hcall : (scheduledCall s k).timerId = c.timerId := hentry.timerId
  rw [scheduleNextTick_eq]
  refine ⟨h.timers, h.distinct, ?_, ?_⟩
  · intro j d hj
    by_cases hjk : j = k
    · subst hjk
      obtain rfl := Option.some.inj (hj.symm.trans hk)
      simpa only [Function.update_self] using hentry.advance
    · simpa only [Function.update_of_ne hjk] using h.entries j d hj
  · intro id timer htimer
    change rearmed s (scheduledCall s k) id = some timer at htimer
    by_cases hid : id = c.timerId
    · subst hid
      rw [← hcall] at htimer hidle
      rw [rearmed_self s _ (by rw [hcall]; exact h.member hk) hidle] at htimer
      split at htimer
      · cases htimer
      · obtain rfl := Option.some.inj htimer
        refine ⟨c, hk, rfl, ?_⟩
        simp only [scheduledCall, Function.update_self]
        exact nextDeadline_eq _ _
    · rw [rearmed_of_ne s _ (by rw [hcall]; exact hid)] at htimer
      obtain ⟨d, hd, hdid, hnext⟩ := h.armed id timer htimer
      have hne : timer.userData ≠ k := by
        intro he
        rw [he, hk] at hd
        exact hid (hdid.symm.trans (congrArg Creation.timerId (Option.some.inj hd)).symm)
      exact ⟨d, hd, hdid, by simpa only [Function.update_of_ne hne] using hnext⟩

/-- RTEMS disarms a timer before it runs the callback. -/
theorem TableEntries.disarm (h : TableEntries cfg cs s) (id : RtemsId) (sent : List EmptyRequest) :
    TableEntries cfg cs { s with armed := Function.update s.armed id none, sent := sent } := by
  refine ⟨h.timers, h.distinct, h.entries, ?_⟩
  intro other timer htimer
  by_cases ho : other = id
  · subst ho
    simp at htimer
  · simp only [Function.update_of_ne ho] at htimer
    exact h.armed other timer htimer

theorem TableEntries.fillEntry (h : TableEntries cfg cs s) (hlen : cs.length = s.cyclicRequestsCount)
    {timerId : RtemsId} (hfresh : timerId ∉ s.timers) (r : CyclicRequest) :
    TableEntries cfg (cs ++ [⟨timerId, r⟩]) (fillEntry cfg s r timerId) := by
  constructor
  case timers => simp [ThreadsCommon.fillEntry, h.timers]
  case distinct =>
    simp only [ThreadsCommon.fillEntry]
    exact List.nodup_append.mpr ⟨h.distinct, List.nodup_singleton _, by
      intro a ha b hb
      rw [List.mem_singleton] at hb
      rintro rfl
      exact hfresh (hb ▸ ha)⟩
  case entries =>
    intro k c hk
    simp only [ThreadsCommon.fillEntry]
    rcases Nat.lt_trichotomy k cs.length with hlt | heq | hgt
    · rw [List.getElem?_append_left hlt] at hk
      rw [Function.update_of_ne (by omega)]
      exact h.entries k c hk
    · subst heq
      rw [List.getElem?_concat_length] at hk
      obtain rfl := Option.some.inj hk
      rw [hlen, Function.update_self]
      rfl
    · rw [List.getElem?_eq_none (by simp; omega)] at hk
      cases hk
  case armed =>
    intro id timer htimer
    obtain ⟨c, hc, hid, hnext⟩ := h.armed id timer htimer
    obtain ⟨hlt, _⟩ := List.getElem?_eq_some_iff.mp hc
    refine ⟨c, by rw [List.getElem?_append_left hlt]; exact hc, hid, ?_⟩
    simp only [ThreadsCommon.fillEntry]
    rw [Function.update_of_ne (by omega)]
    exact hnext

end Entries

/-- What scheduling the idle timer of creation `c`, at position `k`, does to the rest. -/
structure Scheduled (s t : CyclicState) (c : Creation) (k : ℕ) (delta : RtemsInterval) : Prop where
  call : t.fireAfters = s.fireAfters ++ [⟨c.timerId, delta, k⟩]
  armed : t.armed c.timerId = if delta = 0 then none else some ⟨s.ticks + delta.toNat, k⟩
  others : ∀ id, id ≠ c.timerId → t.armed id = s.armed id
  data : t.cyclicRequestData =
    Function.update s.cyclicRequestData k (s.cyclicRequestData k).advance
  count : t.cyclicRequestsCount = s.cyclicRequestsCount

theorem TableEntries.scheduled {cfg : CyclicConfig} {cs : List Creation} {s : CyclicState}
    (h : TableEntries cfg cs s) {k : ℕ} {c : Creation} (hk : cs[k]? = some c)
    (hidle : s.armed c.timerId = none) :
    Scheduled s (ThreadsCommon.scheduleNextTick s k) c k
      ((s.cyclicRequestData k).delay s.ticksSinceBoot) := by
  have hcall : scheduledCall s k =
      ⟨c.timerId, (s.cyclicRequestData k).delay s.ticksSinceBoot, k⟩ := by
    simp only [scheduledCall, (h.entries k c hk).timerId]
  rw [scheduleNextTick_eq, hcall]
  refine ⟨rfl, ?_, fun id hid => rearmed_of_ne s _ hid, rfl, rfl⟩
  exact rearmed_self s ⟨c.timerId, _, k⟩ (h.member hk) hidle

section Step
variable {cfg : CyclicConfig} {cs : List Creation} {s t : CyclicState}

/-- A creation step is granted at the end of the table or refused; a refusal may have
written the free slot behind the last entry. -/
theorem cyclicStep_create_cases {r : CyclicRequest} {status : RtemsStatusCode} {timerId : RtemsId}
    (hs : cyclicStep cfg s (.create r status timerId) = some t) :
    s.creating = false ∧
      ((creationOf cfg s (.create r status timerId) = some ⟨timerId, r⟩ ∧ timerId ∉ s.timers ∧
          status = .successful ∧ s.cyclicRequestsCount < cfg.maxCyclicInterfaces ∧
          t = { scheduleNextTick (fillEntry cfg s r timerId) s.cyclicRequestsCount with
            creating := true }) ∨
        (creationOf cfg s (.create r status timerId) = none ∧
          (cfg.maxCyclicInterfaces ≤ s.cyclicRequestsCount ∨ status ≠ .successful) ∧
          ∃ slot, t = { s with
            cyclicRequestData :=
              Function.update s.cyclicRequestData s.cyclicRequestsCount slot })) := by
  simp only [cyclicStep] at hs
  split at hs
  · cases hs
  · rename_i hguard
    rw [not_or, not_and] at hguard
    obtain ⟨⟨granted, u⟩, harm, rfl⟩ := Option.map_eq_some_iff.mp hs
    have hidle : s.creating = false := by simpa using hguard.1
    refine ⟨hidle, ?_⟩
    rcases armCyclicRequest_cases harm with ⟨rfl, hroom, hok, rfl⟩ | ⟨rfl, hno, slot, rfl⟩
    · exact Or.inl ⟨by simp only [creationOf, harm], hguard.2 hok, hok, hroom, rfl⟩
    · refine Or.inr ⟨by simp only [creationOf, harm], hno, slot, ?_⟩
      rw [← hidle]

/-- The state in which the callback of timer `id` reaches `schedule_next_tick`. -/
def firing (s : CyclicState) (id : RtemsId) (k : ℕ) : CyclicState :=
  { s with
    armed := Function.update s.armed id none
    sent := s.sent ++
      [⟨(s.cyclicRequestData k).queueId, (s.cyclicRequestData k).requestSize⟩] }

theorem cyclicStep_expire_cases {id : RtemsId} (hs : cyclicStep cfg s (.expire id) = some t) :
    ∃ timer, s.armed id = some timer ∧ timer.expiry ≤ s.ticks ∧
      t = scheduleNextTick (firing s id timer.userData) timer.userData := by
  obtain ⟨timer, harmed, hs⟩ := Option.bind_eq_some_iff.mp hs
  split at hs
  · rename_i hdue
    exact ⟨timer, harmed, hdue, (Option.some.inj hs).symm⟩
  · cases hs

/-- While no creation is in progress the next slot is the one behind the last entry. -/
theorem TableConsistent.fill (h : TableConsistent cfg cs s) (hidle : s.creating = false)
    {timerId : RtemsId} (hfresh : timerId ∉ s.timers) (r : CyclicRequest) :
    TableEntries cfg (cs ++ [⟨timerId, r⟩]) (fillEntry cfg s r timerId) ∧
      (cs ++ [⟨timerId, r⟩])[s.cyclicRequestsCount]? = some ⟨timerId, r⟩ ∧
      (fillEntry cfg s r timerId).armed timerId = none := by
  have hlen : cs.length = s.cyclicRequestsCount := by simpa [hidle] using h.counted
  refine ⟨h.toTableEntries.fillEntry hlen hfresh r, ?_, h.toTableEntries.idle_of_fresh hfresh⟩
  rw [← hlen, List.getElem?_concat_length]

theorem TableConsistent.below (h : TableConsistent cfg cs s) (hidle : s.creating = false)
    {k : ℕ} {c : Creation} (hk : cs[k]? = some c) : k ≠ s.cyclicRequestsCount := by
  have hlen : cs.length = s.cyclicRequestsCount := by simpa [hidle] using h.counted
  obtain ⟨hlt, _⟩ := List.getElem?_eq_some_iff.mp hk
  omega

/-- What a refused creation leaves behind the last entry is not part of the table. -/
theorem TableConsistent.refuse (h : TableConsistent cfg cs s) (hidle : s.creating = false)
    (slot : CyclicRequestData) :
    TableConsistent cfg cs { s with
      cyclicRequestData := Function.update s.cyclicRequestData s.cyclicRequestsCount slot } := by
  refine ⟨⟨h.timers, h.distinct, ?_, ?_⟩, h.counted, h.bounded⟩
  · intro k c hk
    simpa only [Function.update_of_ne (h.below hidle hk)] using h.entries k c hk
  · intro id timer htimer
    obtain ⟨c, hk, hid, hnext⟩ := h.armed id timer htimer
    exact ⟨c, hk, hid, by simpa only [Function.update_of_ne (h.below hidle hk)] using hnext⟩

theorem cyclicStep_consistent (h : TableConsistent cfg cs s) {a : CyclicAction}
    (hs : cyclicStep cfg s a = some t) :
    TableConsistent cfg (cs ++ (creationOf cfg s a).toList) t := by
  cases a with
  | tick =>
      obtain rfl := Option.some.inj hs
      simp only [creationOf, Option.toList_none, List.append_nil]
      exact ⟨⟨h.timers, h.distinct, h.entries, h.armed⟩, h.counted, h.bounded⟩
  | create r status timerId =>
      obtain ⟨hidle, ⟨hc, hfresh, -, hroom, rfl⟩ | ⟨hc, -, slot, rfl⟩⟩ := cyclicStep_create_cases hs
      · have hlen : cs.length = s.cyclicRequestsCount := by simpa [hidle] using h.counted
        obtain ⟨hfill, hpos, hfree⟩ := h.fill hidle hfresh r
        have hentries := hfill.scheduleNextTick hpos hfree
        have hcount := (hfill.scheduled hpos hfree).count
        rw [hc]
        refine ⟨⟨hentries.timers, hentries.distinct, hentries.entries, hentries.armed⟩, ?_, ?_⟩
        · simp only [Option.toList_some, List.length_append, List.length_singleton, hcount, hlen]
          rfl
        · simp only [Option.toList_some, List.length_append, List.length_singleton]
          omega
      · rw [hc, Option.toList_none, List.append_nil]
        exact h.refuse hidle slot
  | created =>
      simp only [cyclicStep] at hs
      split at hs
      · rename_i hcreating
        obtain rfl := Option.some.inj hs
        simp only [creationOf, Option.toList_none, List.append_nil]
        refine ⟨⟨h.timers, h.distinct, h.entries, h.armed⟩, ?_, h.bounded⟩
        rw [h.counted, hcreating]
        rfl
      · cases hs
  | expire id =>
      obtain ⟨timer, harmed, -, rfl⟩ := cyclicStep_expire_cases hs
      obtain ⟨c, hk, rfl, -⟩ := h.armed id timer harmed
      simp only [creationOf, Option.toList_none, List.append_nil]
      have hdis := h.toTableEntries.disarm c.timerId
        (s.sent ++ [⟨(s.cyclicRequestData timer.userData).queueId,
          (s.cyclicRequestData timer.userData).requestSize⟩])
      have hfree : (firing s c.timerId timer.userData).armed c.timerId = none :=
        Function.update_self ..
      refine ⟨hdis.scheduleNextTick hk hfree, ?_, h.bounded⟩
      rw [h.counted, scheduleNextTick_eq]
      rfl

/-- Over any run of creations, expiries and ticks the table stays together. -/
theorem run_consistent {as : List CyclicAction}
    (hr : run (cyclicStep cfg) .initial as = some s) :
    TableConsistent cfg (outputs (cyclicStep cfg) (creationOf cfg) .initial as) s := by
  refine run_induction
    (I := fun as s => TableConsistent cfg (outputs (cyclicStep cfg) (creationOf cfg) .initial as) s)
    (along_true _ as) hr (tableConsistent_initial cfg) ?_
  intro as s a t hm ih _ hs
  rw [outputs_concat a hm]
  exact cyclicStep_consistent ih hs

end Step

/-- The creations granted along a run from the start. -/
def creations (cfg : CyclicConfig) (as : List CyclicAction) : List Creation :=
  outputs (cyclicStep cfg) (creationOf cfg) .initial as

def CyclicAction.isCreate : CyclicAction → Bool
  | .create _ _ _ => true
  | _ => false

/-- Requests do not disturb one another in step `a`, which leads from `s` to `t`. -/
structure StepIndependent (cfg : CyclicConfig) (cs : List Creation) (s : CyclicState)
    (a : CyclicAction) (t : CyclicState) : Prop where
  bounded : t.cyclicRequestsCount ≤ cfg.maxCyclicInterfaces
  refused : a.isCreate → creationOf cfg s a = none →
    t.cyclicRequestsCount = s.cyclicRequestsCount ∧ t.armed = s.armed ∧
      ∀ k < cs.length, t.cyclicRequestData k = s.cyclicRequestData k
  fires : ∀ id, a = .expire id → ∃ (k : ℕ) (c : Creation), cs[k]? = some c ∧ c.timerId = id ∧
    t.sent = s.sent ++ [⟨c.request.queueId, c.request.requestSize⟩] ∧
    ∃ expiry, t.armed id = some ⟨expiry, k⟩
  others : ∀ (k : ℕ) (c : Creation), cs[k]? = some c → a ≠ .expire c.timerId →
    t.cyclicRequestData k = s.cyclicRequestData k ∧ t.armed c.timerId = s.armed c.timerId
  kept : ∀ (k : ℕ) (c : Creation), cs[k]? = some c → c.Fills cfg (t.cyclicRequestData k)

def CyclicRequest.interval (cfg : CyclicConfig) (r : CyclicRequest) : RtemsInterval :=
  (r.intervalTicks cfg).setWidth 32

/-- No callback runs exactly one interval after its expiry, modulo `2^32`. An interval
below one tick counts as 0, so its callbacks may not run on time either. -/
def CallbackOffInterval (cfg : CyclicConfig) (cs : List Creation) (s : CyclicState) :
    CyclicAction → Prop
  | .expire id => ∀ timer c, s.armed id = some timer → cs[timer.userData]? = some c →
      s.ticks % 2 ^ 32 ≠ (timer.expiry + (c.request.interval cfg).toNat) % 2 ^ 32
  | _ => True

/-- What one expiry does, in terms of the creation that made the timer. -/
theorem TableEntries.expire {cfg : CyclicConfig} {cs : List Creation} {s t : CyclicState}
    (h : TableEntries cfg cs s) {id : RtemsId} (hs : cyclicStep cfg s (.expire id) = some t) :
    ∃ timer c, s.armed id = some timer ∧ timer.expiry ≤ s.ticks ∧
      cs[timer.userData]? = some c ∧ c.timerId = id ∧
      t.sent = s.sent ++ [⟨c.request.queueId, c.request.requestSize⟩] ∧
      Scheduled (firing s id timer.userData) t c timer.userData
        (BitVec.ofNat 32 timer.expiry + c.request.interval cfg - s.ticksSinceBoot) := by
  obtain ⟨timer, harmed, hdue, rfl⟩ := cyclicStep_expire_cases hs
  obtain ⟨c, hk, rfl, hnext⟩ := h.armed id timer harmed
  have hfills := h.entries _ c hk
  have hfree : (firing s c.timerId timer.userData).armed c.timerId = none :=
    Function.update_self ..
  have hsched := (h.disarm c.timerId (firing s c.timerId timer.userData).sent).scheduled hk hfree
  refine ⟨timer, c, harmed, hdue, hk, rfl, ?_, ?_⟩
  · rw [scheduleNextTick_eq]
    simp only [firing]
    rw [hfills]
    rfl
  · have hdelay : (s.cyclicRequestData timer.userData).delay s.ticksSinceBoot =
        BitVec.ofNat 32 timer.expiry + c.request.interval cfg - s.ticksSinceBoot := by
      rw [CyclicRequestData.delay, hnext, hfills]
      rfl
    rw [← hdelay]
    exact hsched

theorem delay_eq_zero_iff (s : CyclicState) (expiry : ℕ) (interval : RtemsInterval) :
    BitVec.ofNat 32 expiry + interval - s.ticksSinceBoot = 0 ↔
      s.ticks % 2 ^ 32 = (expiry + interval.toNat) % 2 ^ 32 := by
  rw [← BitVec.toNat_inj]
  simp only [CyclicState.ticksSinceBoot, BitVec.toNat_sub, BitVec.toNat_add, BitVec.toNat_ofNat, BitVec.ofNat_eq_ofNat]
  omega

/-- A step touches the entry and the timer of one request at most. -/
theorem cyclicStep_others {cfg : CyclicConfig} {cs : List Creation} {s t : CyclicState}
    (h : TableConsistent cfg cs s) {a : CyclicAction} (hs : cyclicStep cfg s a = some t) {k : ℕ}
    {c : Creation} (hk : cs[k]? = some c) (ha : a ≠ .expire c.timerId) :
    t.cyclicRequestData k = s.cyclicRequestData k ∧ t.armed c.timerId = s.armed c.timerId := by
  cases a with
  | tick =>
      obtain rfl := Option.some.inj hs
      exact ⟨rfl, rfl⟩
  | create r status timerId =>
      obtain ⟨hidle, ⟨-, hfresh, -, -, rfl⟩ | ⟨-, -, slot, rfl⟩⟩ := cyclicStep_create_cases hs
      · obtain ⟨hfill, hpos, hfree⟩ := h.fill hidle hfresh r
        have hsched := hfill.scheduled hpos hfree
        have hne : c.timerId ≠ timerId := fun he => hfresh (he ▸ h.member hk)
        refine ⟨(congrFun hsched.data k).trans ?_, hsched.others c.timerId hne⟩
        rw [Function.update_of_ne (h.below hidle hk)]
        exact Function.update_of_ne (h.below hidle hk) ..
      · exact ⟨Function.update_of_ne (h.below hidle hk) .., rfl⟩
  | created =>
      simp only [cyclicStep] at hs
      split at hs
      · obtain rfl := Option.some.inj hs
        exact ⟨rfl, rfl⟩
      · cases hs
  | expire id =>
      obtain ⟨timer, d, -, -, hd, rfl, -, hsched⟩ := h.toTableEntries.expire hs
      have hid : c.timerId ≠ d.timerId := fun he => ha (by rw [he])
      have hne : k ≠ timer.userData := by
        intro he
        rw [he, hd] at hk
        exact hid (congrArg Creation.timerId (Option.some.inj hk)).symm
      refine ⟨(congrFun hsched.data k).trans (Function.update_of_ne hne ..), ?_⟩
      exact (hsched.others c.timerId hid).trans (Function.update_of_ne hid ..)

theorem cyclicStep_refused {cfg : CyclicConfig} {cs : List Creation} {s t : CyclicState}
    (h : TableConsistent cfg cs s) {a : CyclicAction} (hs : cyclicStep cfg s a = some t)
    (hcreate : a.isCreate) (hnone : creationOf cfg s a = none) :
    t.cyclicRequestsCount = s.cyclicRequestsCount ∧ t.armed = s.armed ∧
      ∀ k < cs.length, t.cyclicRequestData k = s.cyclicRequestData k := by
  cases a with
  | create r status timerId =>
      obtain ⟨hidle, ⟨hc, -⟩ | ⟨-, -, slot, rfl⟩⟩ := cyclicStep_create_cases hs
      · rw [hnone] at hc
        cases hc
      · refine ⟨rfl, rfl, fun k hk => Function.update_of_ne ?_ ..⟩
        exact h.below hidle (List.getElem?_eq_getElem hk)
  | tick | created | expire => cases hcreate

theorem cyclicStep_fires {cfg : CyclicConfig} {cs : List Creation} {s t : CyclicState}
    (h : TableConsistent cfg cs s) {id : RtemsId} (hs : cyclicStep cfg s (.expire id) = some t)
    (hoff : CallbackOffInterval cfg cs s (.expire id)) :
    ∃ (k : ℕ) (c : Creation), cs[k]? = some c ∧ c.timerId = id ∧
      t.sent = s.sent ++ [⟨c.request.queueId, c.request.requestSize⟩] ∧
      ∃ expiry, t.armed id = some ⟨expiry, k⟩ := by
  obtain ⟨timer, c, harmed, -, hk, rfl, hsent, hsched⟩ := h.toTableEntries.expire hs
  have hne := mt (delay_eq_zero_iff s timer.expiry (c.request.interval cfg)).mp
    (hoff timer c harmed hk)
  exact ⟨timer.userData, c, hk, rfl, hsent, _, hsched.armed.trans (if_neg hne)⟩

/-- An expiry that re-arms its timer was not late by exactly the interval. -/
theorem callbackOffInterval_of_rearmed {cfg : CyclicConfig} {cs : List Creation}
    {s t : CyclicState} (h : TableConsistent cfg cs s) {id : RtemsId}
    (hs : cyclicStep cfg s (.expire id) = some t) {timer : ArmedTimer}
    (hagain : t.armed id = some timer) : CallbackOffInterval cfg cs s (.expire id) := by
  intro timer' c harmed hk hzero
  obtain ⟨timer'', c', harmed', -, hk', rfl, -, hsched⟩ := h.toTableEntries.expire hs
  obtain rfl := Option.some.inj (harmed.symm.trans harmed')
  obtain rfl := Option.some.inj (hk.symm.trans hk')
  rw [hsched.armed, if_pos ((delay_eq_zero_iff _ _ _).mpr hzero)] at hagain
  cases hagain

/-- In every run, each step leaves the other requests alone, and it satisfies all that is
asked of it exactly when no callback is late by its own interval. -/
theorem stepIndependent_iff {cfg : CyclicConfig} (as : List CyclicAction) {s t : CyclicState}
    (a : CyclicAction) (hr : run (cyclicStep cfg) .initial as = some s)
    (hs : cyclicStep cfg s a = some t) :
    StepIndependent cfg (creations cfg as) s a t ↔
      CallbackOffInterval cfg (creations cfg as) s a := by
  have h : TableConsistent cfg (creations cfg as) s := run_consistent hr
  have ht := cyclicStep_consistent h hs
  constructor
  · intro hind
    cases a with
    | expire id =>
        obtain ⟨_, _, _, _, _, expiry, hagain⟩ := hind.fires id rfl
        exact callbackOffInterval_of_rearmed h hs hagain
    | tick | create | created => trivial
  · intro hoff
    refine ⟨?_, cyclicStep_refused h hs, ?_, fun k c hk ha => cyclicStep_others h hs hk ha, ?_⟩
    · have hcounted := ht.counted
      have hbounded := ht.bounded
      omega
    · rintro id rfl
      exact cyclicStep_fires h hs hoff
    · intro k c hk
      obtain ⟨hlt, _⟩ := List.getElem?_eq_some_iff.mp hk
      exact ht.entries k c (by rw [List.getElem?_append_left hlt]; exact hk)

def twoRequests : CyclicConfig := ⟨2, 1000#32⟩

/-- A period of two ticks, first due at tick 3. -/
def secondTicks : CyclicRequest := ⟨2000000#64, 1000000#64, 1#32, 8#32⟩

/-- A period of three ticks, first due at tick 4. -/
def thirdTicks : CyclicRequest := ⟨3000000#64, 1000000#64, 2#32, 16#32⟩

def untilSecondTick : List CyclicAction :=
  [.create secondTicks .successful 7, .created, .tick, .tick]

/-- The first callback is one tick late when the second is due. -/
def untilBothDue : List CyclicAction :=
  untilSecondTick ++ [.create thirdTicks .successful 8, .created, .tick, .tick]

theorem stepIndependent_lateExpiry :
    ∃ s t, run (cyclicStep twoRequests) .initial untilBothDue = some s ∧
      cyclicStep twoRequests s (.expire 7) = some t ∧
      creations twoRequests untilBothDue = [⟨7, secondTicks⟩, ⟨8, thirdTicks⟩] ∧
      s.armed 7 = some ⟨3, 0⟩ ∧ s.armed 8 = some ⟨4, 1⟩ ∧ s.ticks = 4 ∧
      t.armed 7 = some ⟨5, 0⟩ ∧ t.armed 8 = some ⟨4, 1⟩ ∧
      StepIndependent twoRequests (creations twoRequests untilBothDue) s (.expire 7) t := by
  refine ⟨_, _, rfl, rfl, by decide, by decide, by decide, rfl, by decide, by decide,
    (stepIndependent_iff untilBothDue (.expire 7) rfl rfl).mpr ?_⟩
  intro timer c harmed hk
  obtain rfl : ⟨3, 0⟩ = timer := Option.some.inj harmed
  obtain rfl : ⟨7, secondTicks⟩ = c := Option.some.inj hk
  decide

/-- A period of half a tick, first due at tick 1. -/
def halfTickRequest : CyclicRequest := ⟨500000#64, 1000000#64, 1#32, 8#32⟩

def untilFirstExpiry : List CyclicAction :=
  [.create halfTickRequest .successful 7, .created, .tick]

/-- The callback of a period below one tick runs on time and yet does not re-arm. -/
theorem expiry_does_not_rearm :
    ∃ s t, run (cyclicStep twoRequests) .initial untilFirstExpiry = some s ∧
      cyclicStep twoRequests s (.expire 7) = some t ∧ s.armed 7 = some ⟨1, 0⟩ ∧ s.ticks = 1 ∧
      ¬ StepIndependent twoRequests (creations twoRequests untilFirstExpiry) s (.expire 7) t := by
  have fired : ∃ s t, run (cyclicStep twoRequests) .initial untilFirstExpiry = some s ∧
      cyclicStep twoRequests s (.expire 7) = some t ∧ s.armed 7 = some ⟨1, 0⟩ ∧ s.ticks = 1 ∧
      t.armed 7 = none :=
    ⟨_, _, rfl, rfl, by decide, rfl, by decide⟩
  obtain ⟨s, t, hr, hs, harmed, hticks, hnone⟩ := fired
  refine ⟨s, t, hr, hs, harmed, hticks, fun hind => ?_⟩
  obtain ⟨_, _, _, _, _, expiry, hagain⟩ := hind.fires 7 rfl
  rw [hnone] at hagain
  cases hagain

end SamV71Runtime.ThreadsCommon
