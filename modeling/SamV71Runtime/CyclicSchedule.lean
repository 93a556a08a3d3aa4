import SamV71Runtime.CyclicTable

/-!
# When cyclic timers fire

The stored deadline and the tick count are compared modulo `2^32`. First, for every
call of `schedule_next_tick`, when the delay it computes is a sensible one; then that
punctual callbacks keep a timer on its ideal schedule for ever.
-/
namespace SamV71Runtime.ThreadsCommon
open Runs

def CyclicRequest.offset (cfg : CyclicConfig) (r : CyclicRequest) : RtemsInterval :=
  (r.offsetTicks cfg).setWidth 32

/-- `rtems_timer_fire_after` got a delay between one tick and offset plus interval, and
armed the timer of `c` with it. -/
def DelaySane (cfg : CyclicConfig) (s t : CyclicState) (c : Creation) : Prop :=
  ∃ (k : ℕ) (delta : RtemsInterval), t.fireAfters = s.fireAfters ++ [⟨c.timerId, delta, k⟩] ∧
    1 ≤ delta.toNat ∧
    delta.toNat ≤ (c.request.offset cfg).toNat + (c.request.interval cfg).toNat ∧
    t.armed c.timerId = some ⟨s.ticks + delta.toNat, k⟩

/-- The tick count is fewer than `interval` ticks past the deadline or at most `offset`
ticks short of it, on the circle of the 32-bit counter. -/
def InWindow (offset interval deadline now : RtemsInterval) : Prop :=
  (now - deadline).toNat < interval.toNat ∨
    interval.toNat < (now - deadline).toNat ∧ 2 ^ 32 ≤ (now - deadline).toNat + offset.toNat

instance (offset interval deadline now : RtemsInterval) :
    Decidable (InWindow offset interval deadline now) := inferInstanceAs (Decidable (_ ∨ _))

theorem delay_bounds_iff (offset interval deadline now : RtemsInterval) :
    (1 ≤ (deadline + interval - now).toNat ∧
        (deadline + interval - now).toNat ≤ offset.toNat + interval.toNat) ↔
      InWindow offset interval deadline now := by
  have hd := deadline.isLt
  have hi := interval.isLt
  have hn := now.isLt
  simp only [InWindow, BitVec.toNat_sub, BitVec.toNat_add]
  omega

/-- For a creation the window is simply: before tick offset plus interval. -/
theorem inWindow_creation_iff (offset interval now : RtemsInterval)
    (h : offset.toNat + interval.toNat < 2 ^ 32) :
    InWindow offset interval offset now ↔ now.toNat < offset.toNat + interval.toNat := by
  have hn := now.isLt
  simp only [InWindow, BitVec.toNat_sub]
  omega

theorem Scheduled.delaySane_iff {cfg : CyclicConfig} {s t : CyclicState} {c : Creation} {k : ℕ}
    {deadline : RtemsInterval}
    (h : Scheduled s t c k (deadline + c.request.interval cfg - s.ticksSinceBoot)) :
    DelaySane cfg s t c ↔
      InWindow (c.request.offset cfg) (c.request.interval cfg) deadline s.ticksSinceBoot := by
  rw [← delay_bounds_iff]
  constructor
  · rintro ⟨j, delta, hcall, hpos, hbound, _⟩
    have hsame := List.append_cancel_left (h.call.symm.trans hcall)
    simp only [List.cons.injEq, FireAfter.mk.injEq] at hsame
    rw [hsame.1.2.1]
    exact ⟨hpos, hbound⟩
  · rintro ⟨hpos, hbound⟩
    refine ⟨k, _, h.call, hpos, hbound, h.armed.trans (if_neg ?_)⟩
    intro hz
    rw [hz] at hpos
    exact absurd hpos (by decide)

theorem Scheduled.inProgress {s t : CyclicState} {c : Creation} {k : ℕ} {delta : RtemsInterval}
    (h : Scheduled s t c k delta) (creating : Bool) :
    Scheduled s { t with creating := creating } c k delta :=
  ⟨h.call, h.armed, h.others, h.data, h.count⟩

theorem TableConsistent.create {cfg : CyclicConfig} {cs : List Creation} {s t : CyclicState}
    (h : TableConsistent cfg cs s) {r : CyclicRequest} {id : RtemsId}
    (hroom : s.cyclicRequestsCount < cfg.maxCyclicInterfaces)
    (hs : cyclicStep cfg s (.create r .successful id) = some t) :
    TableConsistent cfg (cs ++ [⟨id, r⟩]) t ∧
      (cs ++ [⟨id, r⟩])[s.cyclicRequestsCount]? = some ⟨id, r⟩ ∧
      Scheduled (fillEntry cfg s r id) t ⟨id, r⟩ s.cyclicRequestsCount
        (r.offset cfg + r.interval cfg - s.ticksSinceBoot) := by
  have ht := cyclicStep_consistent h hs
  obtain ⟨hidle, ⟨hgranted, hfresh, -, -, rfl⟩ | ⟨-, hno, -⟩⟩ := cyclicStep_create_cases hs
  · rw [hgranted] at ht
    obtain ⟨hfill, hpos, hfree⟩ := h.fill hidle hfresh r
    have hsched := hfill.scheduled hpos hfree
    have hdelay : ((fillEntry cfg s r id).cyclicRequestData s.cyclicRequestsCount).delay
        (fillEntry cfg s r id).ticksSinceBoot =
          r.offset cfg + r.interval cfg - s.ticksSinceBoot := by
      simp only [fillEntry, Function.update_self]
      rfl
    rw [hdelay] at hsched
    exact ⟨ht, hpos, hsched.inProgress true⟩
  · rcases hno with hfull | hfail
    · exact absurd hroom (Nat.not_lt.mpr hfull)
    · exact absurd rfl hfail

/-- A period of two ticks, first due at tick 2. -/
def twoTickRequest : CyclicRequest := ⟨2000000#64, 0#64, 1#32, 8#32⟩

def threeTicks : List CyclicAction := [.tick, .tick, .tick]

/-- The tick at which the timer whose callback runs was due. -/
def expiryOf (id : RtemsId) (s : CyclicState) : CyclicAction → Option ℕ
  | .expire other => if other = id then (s.armed id).map ArmedTimer.expiry else none
  | _ => none

theorem expiryOf_other {id : RtemsId} {s : CyclicState} {a : CyclicAction}
    (h : a ≠ .expire id) : expiryOf id s a = none := by
  cases a with
  | expire other => exact if_neg fun he => h (congrArg CyclicAction.expire he)
  | tick | create | created => rfl

/-- The callback of timer `id` reads the tick count fewer than `interval` ticks after its
expiry. The other timers may be as late as they like. -/
def Punctual (id : RtemsId) (interval : ℕ) (s : CyclicState) (a : CyclicAction) : Prop :=
  ∀ expiry ∈ expiryOf id s a, s.ticks < expiry + interval

instance (id : RtemsId) (interval : ℕ) (s : CyclicState) (a : CyclicAction) :
    Decidable (Punctual id interval s a) :=
  match h : expiryOf id s a with
  | none => isTrue fun _ he => by simp [h] at he
  | some expiry => decidable_of_iff (s.ticks < expiry + interval) (by simp [Punctual, h])

/-- Before the wrap or across it, a deadline less than `2^32` ticks ahead is met. -/
theorem armed_at_deadline {deadline now : ℕ} {interval : RtemsInterval}
    (hahead : now < deadline + interval.toNat)
    (hnear : deadline + interval.toNat < now + 2 ^ 32) :
    BitVec.ofNat 32 deadline + interval - BitVec.ofNat 32 now ≠ 0 ∧
      now + (BitVec.ofNat 32 deadline + interval - BitVec.ofNat 32 now).toNat =
        deadline + interval.toNat := by
  have hdelay : (BitVec.ofNat 32 deadline + interval - BitVec.ofNat 32 now).toNat =
      deadline + interval.toNat - now := by
    simp only [BitVec.toNat_sub, BitVec.toNat_add, BitVec.toNat_ofNat]
    omega
  refine ⟨fun hz => ?_, by omega⟩
  rw [hz] at hdelay
  change 0 = _ at hdelay
  omega

theorem Scheduled.armed_at {s t : CyclicState} {c : Creation} {k deadline : ℕ}
    {interval : RtemsInterval}
    (h : Scheduled s t c k (BitVec.ofNat 32 deadline + interval - s.ticksSinceBoot))
    (hahead : s.ticks < deadline + interval.toNat)
    (hnear : deadline + interval.toNat < s.ticks + 2 ^ 32) :
    t.armed c.timerId = some ⟨deadline + interval.toNat, k⟩ := by
  obtain ⟨hpos, hdue⟩ := armed_at_deadline hahead hnear
  rw [h.armed, CyclicState.ticksSinceBoot, if_neg hpos, hdue]

/-- After `n` expiries the timer of `c` is armed for the next multiple of its interval. -/
structure OnSchedule (cfg : CyclicConfig) (c : Creation) (index offset n : ℕ) (s : CyclicState) :
    Prop where
  table : ∃ cs, TableConsistent cfg cs s ∧ cs[index]? = some c
  armed : s.armed c.timerId =
    some ⟨offset + (n + 1) * (c.request.interval cfg).toNat, index⟩

section Schedule
variable {cfg : CyclicConfig} {c : Creation} {index offset n : ℕ} {s t : CyclicState}

theorem OnSchedule.other (h : OnSchedule cfg c index offset n s) {a : CyclicAction}
    (hs : cyclicStep cfg s a = some t) (ha : a ≠ .expire c.timerId) :
    OnSchedule cfg c index offset n t := by
  obtain ⟨⟨cs, hcs, hk⟩, harmed⟩ := h
  obtain ⟨hlt, _⟩ := List.getElem?_eq_some_iff.mp hk
  refine ⟨⟨_, cyclicStep_consistent hcs hs, ?_⟩, (cyclicStep_others hcs hs hk ha).2.trans harmed⟩
  rw [List.getElem?_append_left hlt]
  exact hk

theorem OnSchedule.expire (h : OnSchedule cfg c index offset n s)
    (hs : cyclicStep cfg s (.expire c.timerId) = some t)
    (hp : Punctual c.timerId (c.request.interval cfg).toNat s (.expire c.timerId)) :
    OnSchedule cfg c index offset (n + 1) t := by
  obtain ⟨⟨cs, hcs, hk⟩, harmed⟩ := h
  have hlate := hp _ (by simp only [expiryOf, if_true, harmed]; rfl)
  obtain ⟨timer, d, harmed', hdue, hk', -, -, hsched⟩ := hcs.toTableEntries.expire hs
  obtain rfl := Option.some.inj (harmed.symm.trans harmed')
  obtain rfl := Option.some.inj (hk.symm.trans hk')
  have hi := (c.request.interval cfg).isLt
  have hnext := Scheduled.armed_at
    (s := firing s c.timerId index) hsched hlate (by simp only [firing] at hdue ⊢; omega)
  refine ⟨⟨_, cyclicStep_consistent hcs hs, by simpa [creationOf] using hk⟩, ?_⟩
  rw [hnext, Nat.add_mul (n + 1) 1, Nat.one_mul, Nat.add_assoc]

/-- Along a punctual run from a state on schedule the expiries come at the multiples. -/
theorem run_onSchedule {as : List CyclicAction} (h : OnSchedule cfg c index offset 0 s)
    (hp : Along (cyclicStep cfg) (Punctual c.timerId (c.request.interval cfg).toNat) s as)
    (hr : run (cyclicStep cfg) s as = some t) :
    ∃ n, OnSchedule cfg c index offset n t ∧
      outputs (cyclicStep cfg) (expiryOf c.timerId) s as =
        (List.range n).map fun k => offset + (k + 1) * (c.request.interval cfg).toNat := by
  refine run_induction (I := fun as t => ∃ n, OnSchedule cfg c index offset n t ∧
    outputs (cyclicStep cfg) (expiryOf c.timerId) s as =
      (List.range n).map fun k => offset + (k + 1) * (c.request.interval cfg).toNat)
    hp hr ⟨0, h, rfl⟩ ?_
  rintro as m a u hm ⟨n, hn, hout⟩ ha hs
  rw [outputs_concat a hm]
  by_cases hown : a = .expire c.timerId
  · subst hown
    refine ⟨n + 1, hn.expire hs ha, ?_⟩
    rw [hout, List.range_succ, List.map_append]
    simp [expiryOf, hn.armed]
  · refine ⟨n, hn.other hs hown, ?_⟩
    rw [hout, expiryOf_other hown]
    exact List.append_nil _

/-- The expiries of a timer are at offset plus one, two, three and so on intervals, as
long as its callbacks are less than an interval late; `offset` is any tick number the
stored offset stands for. -/
theorem kth_expiry {cfg : CyclicConfig} {s s₁ t : CyclicState} (as bs : List CyclicAction)
    (r : CyclicRequest) (id : RtemsId) (offset : ℕ)
    (hr : run (cyclicStep cfg) .initial as = some s)
    (hroom : s.cyclicRequestsCount < cfg.maxCyclicInterfaces)
    (hs : cyclicStep cfg s (.create r .successful id) = some s₁)
    (hoffset : BitVec.ofNat 32 offset = r.offset cfg)
    (hahead : s.ticks + 1 ≤ offset + (r.interval cfg).toNat)
    (hnear : offset + (r.interval cfg).toNat < s.ticks + 2 ^ 32)
    (hbs : run (cyclicStep cfg) s₁ bs = some t)
    (hp : Along (cyclicStep cfg) (Punctual id (r.interval cfg).toNat) s₁ bs) :
    ∃ n, outputs (cyclicStep cfg) (expiryOf id) s₁ bs =
        (List.range n).map (fun k => offset + (k + 1) * (r.interval cfg).toNat) ∧
      t.armed id = some ⟨offset + (n + 1) * (r.interval cfg).toNat, s.cyclicRequestsCount⟩ := by
  have h : TableConsistent cfg (creations cfg as) s := run_consistent hr
  obtain ⟨htable, hk, hsched⟩ := h.create hroom hs
  rw [← hoffset] at hsched
  have hfirst := Scheduled.armed_at (s := fillEntry cfg s r id) hsched hahead hnear
  have hstart : OnSchedule cfg ⟨id, r⟩ s.cyclicRequestsCount offset 0 s₁ :=
    ⟨⟨_, htable, hk⟩, by rw [hfirst, Nat.zero_add, Nat.one_mul]⟩
  obtain ⟨n, hn, hout⟩ := run_onSchedule hstart hp hbs
  exact ⟨n, hout, hn.armed⟩

/-- Two expiries of the two-tick request, the first callback one tick late. -/
theorem two_expiries_on_schedule :
    ∃ s₁ t, cyclicStep twoRequests .initial (.create twoTickRequest .successful 7) = some s₁ ∧
      run (cyclicStep twoRequests) s₁
        [.created, .tick, .tick, .tick, .expire 7, .tick, .expire 7] = some t ∧
      ∃ n, outputs (cyclicStep twoRequests) (expiryOf 7) s₁
          [.created, .tick, .tick, .tick, .expire 7, .tick, .expire 7] =
          (List.range n).map (fun k => 0 + (k + 1) * (twoTickRequest.interval twoRequests).toNat) ∧
        t.armed 7 = some ⟨0 + (n + 1) * (twoTickRequest.interval twoRequests).toNat, 0⟩ :=
  ⟨_, _, rfl, rfl, kth_expiry [] [.created, .tick, .tick, .tick, .expire 7, .tick, .expire 7]
    twoTickRequest 7 0 rfl (by decide) rfl (by decide) (by decide) (by decide) rfl (by decide)⟩

end Schedule

end SamV71Runtime.ThreadsCommon
