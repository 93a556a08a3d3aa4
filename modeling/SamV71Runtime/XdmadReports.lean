import Mathlib.Data.List.Nodup
import SamV71Runtime.XdmadController

/-!
# How the ends of transfers are reported

Every end of a transfer that was started is reported once, by the handler that an interrupt or a
poll calls, whatever calls, interrupts and other transfers come in between.
-/
namespace SamV71Runtime.XdmaDriver
open KeyedLog Runs

section System
variable {board : Board} {s t : DmaState} {a : DmaAction} {c : BitVec 8}

/-- With the channels that the controller has, and with one handler at most. -/
structure Settled (s : DmaState) : Prop where
  initialized : s.initialized = true
  channels : s.driver.numChannels ≤ 24#8
  single : s.handlers.length ≤ 1

theorem Settled.lt (h : Settled s) (hc : c < s.driver.numChannels) : c.toNat < 24 :=
  Nat.lt_of_lt_of_le (BitVec.lt_def.mp hc) (BitVec.le_def.mp h.channels)

/-- A step of the system is a move of every channel. -/
theorem dmaStep_move (Early : ChannelView → BitVec 32 → Prop) (hs : Settled s)
    (hc : c < s.driver.numChannels) (hprotocol : FollowsProtocol s a)
    (hearly : ∀ i interrupts, a = .raise i interrupts → Early (s.view i) interrupts)
    (h : dmaStep board s a = some t) :
    Move Early (s.view c) (last (transferEvent s a).toList c) (t.view c) := by
  cases a with
  | call a =>
      have hlt : c.toNat < 32 := Nat.lt_trans (hs.lt hc) (by decide)
      exact call_moves hs.initialized hc hlt hprotocol h
  | raise i interrupts => exact raise_move (hearly i interrupts rfl) h
  | finish i interrupts => exact finish_move hprotocol h
  | interrupt =>
      obtain ⟨entering, rfl, -⟩ := callHandler_cases h
      exact Move.stay
  | poll dwChannel =>
      rcases poll_cases h with h | rfl
      · obtain ⟨entering, rfl, -⟩ := callHandler_cases h
        exact Move.stay
      · exact Move.stay
  | enter => exact enter_move h
  | iterate => exact iterate_move hs.single h

theorem Settled.step (hs : Settled s) (h : dmaStep board s a = some t) :
    Settled t ∧ t.driver.numChannels = s.driver.numChannels := by
  cases a with
  | call a =>
      obtain ⟨d, hcall, hd, rfl⟩ := dmaStep_call_cases h
      have hnum := (driverStep_shows hs.initialized hd).numChannels
      obtain ⟨-, hhandlers⟩ := driverStep_settings hs.initialized hcall hd
      refine ⟨⟨driverStep_initialized hs.initialized hd, ?_, ?_⟩, hnum⟩
      · rw [hnum]
        exact hs.channels
      · rw [hhandlers]
        exact hs.single
  | raise i interrupts =>
      simp only [dmaStep] at h
      split at h
      · cases h
        exact ⟨⟨hs.initialized, hs.channels, hs.single⟩, rfl⟩
      · cases h
  | finish i interrupts =>
      simp only [dmaStep] at h
      split at h
      · cases h
        exact ⟨⟨hs.initialized, hs.channels, hs.single⟩, rfl⟩
      · cases h
  | interrupt =>
      obtain ⟨entering, rfl, -⟩ := callHandler_cases h
      exact ⟨⟨hs.initialized, hs.channels, hs.single⟩, rfl⟩
  | poll dwChannel =>
      rcases poll_cases h with h | rfl
      · obtain ⟨entering, rfl, -⟩ := callHandler_cases h
        exact ⟨⟨hs.initialized, hs.channels, hs.single⟩, rfl⟩
      · exact ⟨hs, rfl⟩
  | enter =>
      obtain ⟨hhandlers, gis, -, rfl⟩ := enter_cases h
      unfold DriverState.enterHandler
      split
      · refine ⟨⟨hs.initialized, hs.channels, ?_⟩, rfl⟩
        rw [hhandlers]
        exact Nat.le_refl 1
      · exact ⟨⟨hs.initialized, hs.channels, hs.single⟩, rfl⟩
  | iterate =>
      have hiterates := iterate_cases hs.single h
      generalize transferEvent s .iterate = event at hiterates
      cases hiterates with
      | leave => exact ⟨⟨hs.initialized, hs.channels, Nat.zero_le 1⟩, rfl⟩
      | pass => exact ⟨⟨hs.initialized, hs.channels, Nat.le_refl 1⟩, rfl⟩
      | report => exact ⟨⟨hs.initialized, hs.channels, Nat.le_refl 1⟩, rfl⟩
      | look => exact ⟨⟨hs.initialized, hs.channels, Nat.le_refl 1⟩, rfl⟩

/-- What holds of every channel after a run. -/
structure Reporting (s : DmaState) (events : List (BitVec 8 × TransferEvent)) : Prop where
  settled : Settled s
  sound : ∀ c < s.driver.numChannels, Sound (s.view c) (last events c)
  ordered : ∀ c < s.driver.numChannels, Ordered TransferEvent.Follows events c

theorem Reporting.step {events : List (BitVec 8 × TransferEvent)} (h : Reporting s events)
    (hprotocol : FollowsProtocol s a) (hstep : dmaStep board s a = some t) :
    Reporting t (events ++ (transferEvent s a).toList) := by
  obtain ⟨hsettled, hnum⟩ := h.settled.step hstep
  have hmove {c : BitVec 8} (hc : c < t.driver.numChannels) :
      Move (fun _ _ => True) (s.view c) (last (transferEvent s a).toList c) (t.view c) :=
    dmaStep_move _ h.settled (hnum ▸ hc) hprotocol (fun _ _ _ => trivial) hstep
  refine ⟨hsettled, fun c hc => ?_, fun c hc => ?_⟩
  · rw [last_append]
    exact (hmove hc).sound (h.sound c (hnum ▸ hc))
  · refine (h.ordered c (hnum ▸ hc)).append fun e he => ?_
    have hm := hmove hc
    rw [he, Option.toList_some, last_singleton, if_pos rfl] at hm
    exact hm.follows (h.sound c (hnum ▸ hc))

theorem start_reporting (board : Board) (memory : Xdmad) (bPollingMode : BitVec 8)
    (hchannels : (DmaState.start board memory bPollingMode).driver.numChannels ≤ 24#8) :
    Reporting (.start board memory bPollingMode) [] where
  settled := ⟨rfl, hchannels, Nat.zero_le 1⟩
  sound c hc := by
    have hfree : ((DmaState.start board memory bPollingMode).view c).state = .free :=
      congrArg XdmadChannel.state (if_pos hc)
    refine ⟨fun hs => ?_, fun hs => ?_, fun _ => ⟨nofun, ?_⟩, fun _ hr => ?_, nofun, nofun⟩
    · rw [hfree] at hs
      cases hs
    · rw [hfree] at hs
      cases hs
    · exact not_pending_of_status rfl
    · simp [DmaState.view, channelRegisters, DmaState.start] at hr
  ordered c _ := ordered_nil _ c

def transferEvents (board : Board) (memory : Xdmad) (bPollingMode : BitVec 8)
    (as : List DmaAction) : List (BitVec 8 × TransferEvent) :=
  outputs (dmaStep board) transferEvent (.start board memory bPollingMode) as

theorem run_reporting {memory : Xdmad} {bPollingMode : BitVec 8} {as : List DmaAction}
    (hchannels : (DmaState.start board memory bPollingMode).driver.numChannels ≤ 24#8)
    (hr : run (dmaStep board) (.start board memory bPollingMode) as = some t)
    (hprotocol : Along (dmaStep board) FollowsProtocol (.start board memory bPollingMode) as) :
    Reporting t (transferEvents board memory bPollingMode as) := by
  refine run_induction (I := fun as t => Reporting t (transferEvents board memory bPollingMode as))
    hprotocol hr (start_reporting board memory bPollingMode hchannels) ?_
  intro as t a u hr hreporting hfollows hs
  rw [transferEvents, outputs_concat a hr]
  exact hreporting.step hfollows hs

end System

/-- Two transfers of a single block, with the interrupt at their end; the second is to be
reported. -/
def reportedTransfer : List DmaAction :=
  [.call (.allocateChannel 0xFF#8 21#8), .call (.setCallback 0#32 0x400000#32 0#32),
    .call (.prepareChannel 0#32),
    .call (.configureTransfer 0#32 ⟨4, 0, 0, 0, 0, 0, 0, 0⟩ 0 0 1), .call (.startTransfer 0#32),
    .interrupt, .finish 0#8 1#32, .interrupt, .enter, .iterate, .iterate, .iterate,
    .call (.startTransfer 0#32), .finish 0#8 1#32]

/-- A linked list shows the end of a block, and ends between the handler's look at the running
channels and its look at this one: the interrupt status is cleared, and nothing is reported. -/
def overtakenEnd : List DmaAction :=
  [.call (.allocateChannel 0xFF#8 21#8), .call (.setCallback 0#32 0x400000#32 0#32),
    .call (.configureTransfer 0#32 ⟨4, 0, 0, 0, 0, 0, 0, 0⟩ 1 0 3), .call (.startTransfer 0#32),
    .raise 0#8 1#32, .interrupt, .enter, .finish 0#8 2#32, .iterate]

example : transferEvents (boardWith 2) blankDriver 0#8 overtakenEnd =
      [(0#8, .started), (0#8, .ended)] ∧
    (run (dmaStep (boardWith 2)) (.start (boardWith 2) blankDriver 0#8) overtakenEnd).any (fun t =>
      (t.driver.xdmaChannels 0#8).state = .start ∧ (t.view 0#8).status.interruptStatus = 0) ∧
    ¬ Along (dmaStep (boardWith 2)) FollowsProtocol (.start (boardWith 2) blankDriver 0#8)
      overtakenEnd := by decide +kernel

section HandlerRun
variable {board : Board} {s t : DmaState} {a : DmaAction} {frame : HandlerFrame} {c : BitVec 8}
  {events : List (BitVec 8 × TransferEvent)}

/-- A handler that is on its way to every channel whose end is to be reported. -/
structure OnItsWay (s : DmaState) (frame : HandlerFrame) : Prop where
  handlers : s.handlers = [frame]
  distinct : frame.remaining.Nodup
  inside : ∀ c ∈ frame.remaining, c < s.driver.numChannels
  pending : ∀ c ∈ frame.remaining, frame.xdmaGlobaIntStatus.getLsbD c.toNat = true →
    (s.view c).Pending
  waiting : ∀ c < s.driver.numChannels, (s.view c).state = .start → (s.view c).running = false →
    c ∈ frame.remaining ∧ frame.xdmaGlobaIntStatus.getLsbD c.toNat = true
  callbacks : ∀ c < s.driver.numChannels, (s.view c).state = .start →
    (s.driver.xdmaChannels c).fCallback ≠ 0

/-- A handler changes the state of a channel only when it reports its transfer, and reports only
what is not running. -/
structure Reports (s t : DmaState) : Prop where
  entering : t.entering = s.entering
  numChannels : t.driver.numChannels = s.driver.numChannels
  running : ∀ c, (t.view c).running = (s.view c).running
  state : ∀ c, (t.view c).state = (s.view c).state ∨
    (t.view c).state = .done ∧ (s.view c).running = false

theorem Reports.start_of_start (h : Reports s t) (hstart : (t.view c).state = .start) :
    (s.view c).state = .start := by
  rcases h.state c with hsame | ⟨hdone, -⟩
  · exact hsame.symm.trans hstart
  · rw [hdone] at hstart
    cases hstart

theorem handleChannel_total {d : Xdmad} {gis : BitVec 32} {i : BitVec 8} (gs : BitVec 32)
    (status : ChannelStatus) (bExec : Bool) (hused : gis &&& channelBit i ≠ 0 →
      (d.xdmaChannels i).state ≠ .free ∧ (d.xdmaChannels i).fCallback ≠ 0) :
    ∃ d' bExec' calls,
      handleChannel d gis gs status i bExec = some (.continued d' bExec' calls) := by
  unfold handleChannel
  by_cases hpending : gis &&& channelBit i = 0
  · exact ⟨_, _, _, if_pos hpending⟩
  · obtain ⟨hstate, hcallback⟩ := hused hpending
    simp only [if_neg hpending, if_neg hstate, if_neg hcallback]
    split
    · split
      · exact ⟨_, _, _, rfl⟩
      · exact ⟨_, _, _, rfl⟩
    · split
      · exact ⟨_, _, _, rfl⟩
      · exact ⟨_, _, _, rfl⟩

theorem iterate_total (board : Board) {i : BitVec 8} {rest : List (BitVec 8)}
    (hhandlers : s.handlers = [frame]) (hremaining : frame.remaining = i :: rest)
    (hused : frame.xdmaGlobaIntStatus &&& channelBit i ≠ 0 →
      (s.driver.xdmaChannels i).state ≠ .free ∧ (s.driver.xdmaChannels i).fCallback ≠ 0) :
    ∃ t bExec, dmaStep board s .iterate = some t ∧
      t.handlers = [{ frame with remaining := rest, bExec }] := by
  obtain ⟨d', bExec, calls, hcontinued⟩ :=
    handleChannel_total frame.xdmaGlobalChStatus s.nextStatus frame.bExec hused
  simp only [dmaStep, iterateHandler, hhandlers, hremaining, hcontinued, Option.map_some]
  exact ⟨_, bExec, rfl, rfl⟩

theorem OnItsWay.found (h : OnItsWay s frame) (hreporting : Reporting s events) (c : BitVec 8)
    (hfound : (s.view c).awaited = some false) : (s.view c).running = false := by
  have hmember : c ∈ frame.remaining := by
    by_contra hnot
    simp [DmaState.view, h.handlers, hnot] at hfound
  exact (hreporting.sound c (h.inside c hmember)).found hfound

theorem Iterates.reports {event : Option (BitVec 8 × TransferEvent)} (h : Iterates s event t)
    (hfound : ∀ c, (s.view c).awaited = some false → (s.view c).running = false) :
    Reports s t ∧
      ∀ c, (t.driver.xdmaChannels c).fCallback = (s.driver.xdmaChannels c).fCallback := by
  cases h with
  | leave => exact ⟨⟨rfl, rfl, fun _ => rfl, fun _ => Or.inl rfl⟩, fun _ => rfl⟩
  | pass => exact ⟨⟨rfl, rfl, fun _ => rfl, fun _ => Or.inl rfl⟩, fun _ => rfl⟩
  | look => exact ⟨⟨rfl, rfl, fun _ => rfl, fun _ => Or.inl rfl⟩, fun _ => rfl⟩
  | report frame i rest bExec hhandlers hremaining hpending hdisabled =>
      refine ⟨⟨rfl, rfl, fun _ => rfl, fun c => ?_⟩, fun c => ?_⟩
      · by_cases hc : c = i
        · subst hc
          refine Or.inr ⟨(setChannel_state ..).trans (if_pos rfl), hfound c ?_⟩
          rw [awaited_head hhandlers hremaining, if_neg hpending,
            and_channelBit_eq_zero_iff.mp hdisabled]
        · exact Or.inl ((setChannel_state ..).trans (if_neg hc))
      · dsimp only [Xdmad.setState, Xdmad.setChannel]
        by_cases hc : c = i
        · rw [hc, Function.update_self]
        · rw [Function.update_of_ne hc]

/-- An iteration touches no channel but its own, and reads its interrupts away. -/
theorem Iterates.others {event : Option (BitVec 8 × TransferEvent)} {i : BitVec 8}
    {rest : List (BitVec 8)} (h : Iterates s event t) (hhandlers : s.handlers = [frame])
    (hremaining : frame.remaining = i :: rest) (hleft : t.handlers ≠ []) :
    (∀ c, c ≠ i → (t.view c).toChannelRegisters = (s.view c).toChannelRegisters ∧
      (t.view c).state = (s.view c).state) ∧
    (frame.xdmaGlobaIntStatus &&& channelBit i ≠ 0 → ¬ (t.view i).Pending) := by
  have hread {c i : BitVec 8} (hc : c ≠ i) :
      channelRegisters ((xdmacGetChannelIsr i).effect xdmacWrite s.registers) c =
        channelRegisters s.registers c := channelRegisters_other trivial rfl hc
  have hcleared (i : BitVec 8) : (channelRegisters ((xdmacGetChannelIsr i).effect xdmacWrite
      s.registers) i).status.interruptStatus = 0 := by rw [registers_getChannelIsr]
  cases h with
  | leave => exact absurd rfl hleft
  | pass frame' i' rest' bExec hhandlers' hremaining' hpending =>
      obtain rfl : frame' = frame := (List.cons.inj (hhandlers'.symm.trans hhandlers)).1
      obtain rfl : i' = i := (List.cons.inj (hremaining'.symm.trans hremaining)).1
      exact ⟨fun _ _ => ⟨rfl, rfl⟩, fun hother => absurd hpending hother⟩
  | report frame' i' rest' bExec hhandlers' hremaining' =>
      obtain rfl : frame' = frame := (List.cons.inj (hhandlers'.symm.trans hhandlers)).1
      obtain rfl : i' = i := (List.cons.inj (hremaining'.symm.trans hremaining)).1
      exact ⟨fun c hc => ⟨hread hc, (setChannel_state ..).trans (if_neg hc)⟩,
        fun _ => not_pending_of_status (hcleared i')⟩
  | look frame' i' rest' bExec hhandlers' hremaining' =>
      obtain rfl : frame' = frame := (List.cons.inj (hhandlers'.symm.trans hhandlers)).1
      obtain rfl : i' = i := (List.cons.inj (hremaining'.symm.trans hremaining)).1
      exact ⟨fun c hc => ⟨hread hc, rfl⟩, fun _ => not_pending_of_status (hcleared i')⟩

theorem Reporting.pending_of_stopped (h : Reporting s events) (hc : c < s.driver.numChannels)
    (hstart : (s.view c).state = .start) (hstopped : (s.view c).running = false) :
    (s.view c).Pending := by
  rcases (h.sound c hc).started hstart with ⟨-, hrunning⟩ | ⟨-, -, hended⟩
  · rw [hstopped] at hrunning
    cases hrunning
  · exact pending_of_transferEnded hended

/-- The next iteration, and the handler is still on its way. -/
theorem OnItsWay.step (board : Board) {i : BitVec 8} {rest : List (BitVec 8)} (h : OnItsWay s frame)
    (hreporting : Reporting s events) (hremaining : frame.remaining = i :: rest) :
    ∃ t bExec, dmaStep board s .iterate = some t ∧
      OnItsWay t { frame with remaining := rest, bExec } ∧
      Reporting t (events ++ (transferEvent s .iterate).toList) ∧ Reports s t := by
  have hi : i < s.driver.numChannels := h.inside i (hremaining ▸ List.mem_cons_self)
  have hnew := h.distinct
  rw [hremaining, List.nodup_cons] at hnew
  have hused : frame.xdmaGlobaIntStatus &&& channelBit i ≠ 0 →
      (s.driver.xdmaChannels i).state ≠ .free ∧ (s.driver.xdmaChannels i).fCallback ≠ 0 := by
    intro hfound
    have hpending := h.pending i (hremaining ▸ List.mem_cons_self)
      (and_channelBit_ne_zero_iff.mp hfound)
    have hstart : (s.view i).state = .start := by
      by_contra hidle
      exact ((hreporting.sound i hi).idle hidle).2 hpending
    have hstate : (s.driver.xdmaChannels i).state = .start := hstart
    refine ⟨fun hfree => ?_, h.callbacks i hi hstart⟩
    rw [hstate] at hfree
    cases hfree
  obtain ⟨t, bExec, hstep, hhandlers⟩ := iterate_total board h.handlers hremaining hused
  have hiterates := iterate_cases hreporting.settled.single hstep
  have hleft : t.handlers ≠ [] := by
    rw [hhandlers]
    exact List.cons_ne_nil _ _
  obtain ⟨hothers, hlooked⟩ := hiterates.others h.handlers hremaining hleft
  obtain ⟨hreports, hcallbacks⟩ := hiterates.reports (h.found hreporting)
  have hnext := hreporting.step (a := .iterate) trivial hstep
  have hkept {c : BitVec 8} (hc : c ∈ rest) : c ≠ i := fun heq => hnew.1 (heq ▸ hc)
  refine ⟨t, bExec, hstep, ⟨hhandlers, hnew.2, ?_, ?_, ?_, ?_⟩, hnext, hreports⟩
  · intro c hc
    rw [hreports.numChannels]
    exact h.inside c (hremaining ▸ List.mem_cons_of_mem i hc)
  · intro c hc hfound
    rw [ChannelView.Pending, (hothers c (hkept hc)).1]
    exact h.pending c (hremaining ▸ List.mem_cons_of_mem i hc) hfound
  · intro c hc hstart hstopped
    by_cases hown : c = i
    · -- its end, if there was one, has been reported
      subst hown
      exfalso
      have hended := hnext.pending_of_stopped hc hstart hstopped
      have hbefore := hreports.start_of_start hstart
      rw [hreports.running c] at hstopped
      obtain ⟨-, hfound⟩ := h.waiting c hi hbefore hstopped
      exact hlooked (and_channelBit_ne_zero_iff.mpr hfound) hended
    · rw [hreports.numChannels] at hc
      obtain ⟨hregisters, hstate⟩ := hothers c hown
      rw [hregisters] at hstopped
      obtain ⟨hmember, hfound⟩ := h.waiting c hc (hstate ▸ hstart) hstopped
      rw [hremaining] at hmember
      exact ⟨(List.mem_cons.mp hmember).resolve_left hown, hfound⟩
  · intro c hc hstart
    rw [hreports.numChannels] at hc
    rw [hcallbacks c]
    exact h.callbacks c hc (hreports.start_of_start hstart)

theorem Reports.trans {u : DmaState} (h : Reports s t) (h' : Reports t u) : Reports s u where
  entering := h'.entering.trans h.entering
  numChannels := h'.numChannels.trans h.numChannels
  running c := (h'.running c).trans (h.running c)
  state c := by
    rcases h'.state c with hsame | hdone
    · rw [hsame]
      exact h.state c
    · rw [h.running c] at hdone
      exact Or.inr hdone

/-- The rest of the loop: induction on the channels that are left. -/
theorem OnItsWay.run (board : Board) {remaining : List (BitVec 8)} (h : OnItsWay s frame)
    (hreporting : Reporting s events) (hremaining : frame.remaining = remaining) :
    ∃ u, Runs.run (dmaStep board) s (List.replicate (remaining.length + 1) .iterate) = some u ∧
      u.handlers = [] ∧ Reports s u ∧
      ∀ c < s.driver.numChannels, (u.view c).state = .start → (u.view c).running = true := by
  induction remaining generalizing s frame events with
  | nil =>
      refine ⟨{ s with handlers := [] }, ?_, rfl, ⟨rfl, rfl, fun _ => rfl, fun _ => Or.inl rfl⟩, ?_⟩
      · have hlooked : lookedAt s.toDriverState = none := by
          simp only [lookedAt, h.handlers, hremaining]
        simp only [List.length_nil, List.replicate, Runs.run, dmaStep, iterateHandler, h.handlers,
          hremaining, hlooked, Option.map_some, Option.bind_some, Option.elim_none]
      · intro c hc hstart
        by_contra hstopped
        obtain ⟨hmember, -⟩ := h.waiting c hc hstart ((Bool.not_eq_true _).mp hstopped)
        rw [hremaining] at hmember
        exact absurd hmember List.not_mem_nil
  | cons i rest ih =>
      obtain ⟨t, bExec, hstep, hnext, hreporting', hreports⟩ := h.step board hreporting hremaining
      obtain ⟨u, hrun, hhandlers, hlater, hrunning⟩ := ih hnext hreporting' rfl
      refine ⟨u, ?_, hhandlers, hreports.trans hlater, ?_⟩
      · rw [List.length_cons, List.replicate_succ, Runs.run, hstep]
        exact hrun
      · rw [← hreports.numChannels]
        exact hrunning

theorem globalInterruptStatus_getLsbD (registers : XdmacRegisters) {k : ℕ} (hk : k < 24) :
    (globalInterruptStatus registers).getLsbD k =
      decide ((channelStatus registers (BitVec.ofNat 8 k)).interruptStatus &&&
        (channelStatus registers (BitVec.ofNat 8 k)).interruptMask ≠ 0) := by
  have hin : k < 32 := Nat.lt_trans hk (by decide)
  rw [globalInterruptStatus, BitVec.getLsbD_setWidth, BitVec.getLsbD_ofBoolListLE]
  simp [hk, hin]

theorem channelNumbers_nodup (d : Xdmad) : d.channelNumbers.Nodup := by
  refine List.Nodup.map_on ?_ List.nodup_range
  intro j hj k hk heq
  rw [List.mem_range] at hj hk
  have hnum := d.numChannels.isLt
  have hnat := congrArg BitVec.toNat heq
  rw [BitVec.toNat_ofNat, BitVec.toNat_ofNat] at hnat
  omega

theorem mem_channelNumbers {d : Xdmad} {c : BitVec 8} :
    c ∈ d.channelNumbers ↔ c < d.numChannels := by
  have hnum := d.numChannels.isLt
  rw [Xdmad.channelNumbers, List.mem_map]
  constructor
  · rintro ⟨k, hk, rfl⟩
    have hk := List.mem_range.mp hk
    rw [BitVec.lt_def, BitVec.toNat_ofNat]
    omega
  · intro hc
    exact ⟨c.toNat, List.mem_range.mpr hc, by rw [BitVec.ofNat_toNat, BitVec.setWidth_eq]⟩

theorem gate_getLsbD : ∀ k < 24, (0xFFFFFF#32).getLsbD k = true := by decide

/-- What the handler reads tells the channels with an interrupt. -/
theorem pending_iff (hc : c.toNat < 24) :
    (globalInterruptStatus s.registers).getLsbD c.toNat = true ↔ (s.view c).Pending := by
  rw [globalInterruptStatus_getLsbD _ hc, BitVec.ofNat_toNat, BitVec.setWidth_eq,
    decide_eq_true_iff]
  rfl

theorem dmaStep_callsHandler (board : Board) (h : CallsHandler s a) :
    dmaStep board s a = s.callHandler := by
  cases a with
  | interrupt => rfl
  | poll dwChannel => exact if_pos h
  | call | raise | finish | enter | iterate => exact absurd h id

/-- From its first register on, a handler that nothing comes between reports what has ended. -/
theorem Reporting.handler (board : Board) (h : Reporting s events) (hhandlers : s.handlers = [])
    (hentering : s.entering = none) (hcallbacks : ∀ c < s.driver.numChannels,
      (s.view c).state = .start → (s.driver.xdmaChannels c).fCallback ≠ 0)
    (hcalls : CallsHandler s a) :
    ∃ bs u, (∀ b ∈ bs, b.OfHandler) ∧ Runs.run (dmaStep board) s (a :: bs) = some u ∧
      u.handlers = [] ∧ Reports s u ∧
      ∀ c < s.driver.numChannels, (u.view c).state = .start → (u.view c).running = true := by
  have hfirst := dmaStep_callsHandler board hcalls
  have hsmall {c : BitVec 8} (hc : c < s.driver.numChannels) : c.toNat < 24 := h.settled.lt hc
  by_cases hgate : globalInterruptStatus s.registers &&& 0xFFFFFF#32 = 0
  · refine ⟨[], s, List.forall_mem_nil _, ?_, hhandlers,
      ⟨rfl, rfl, fun _ => rfl, fun _ => Or.inl rfl⟩, ?_⟩
    · have hsame : { s with entering := none } = s := by rw [← hentering]
      simp only [Runs.run, hfirst, DmaState.callHandler, hhandlers, hentering, hgate, ne_eq,
        not_true_eq_false, if_false, Option.bind_some]
      rw [hsame]
    · intro c hc hstart
      by_contra hstopped
      have hpending := h.pending_of_stopped hc hstart ((Bool.not_eq_true _).mp hstopped)
      have hbit := congrArg (fun x => x.getLsbD c.toNat) hgate
      simp [gate_getLsbD _ (hsmall hc), (pending_iff (hsmall hc)).mpr hpending] at hbit
  · let gis := globalInterruptStatus s.registers
    let frame : HandlerFrame := ⟨gis, s.registers .gs, s.driver.channelNumbers, false⟩
    have hcall : dmaStep board s a = some { s with entering := some gis } := by
      simp only [hfirst, DmaState.callHandler, hhandlers, hentering, if_pos hgate, gis]
    have henter : dmaStep board { s with entering := some gis } .enter =
        some { s with handlers := [frame], entering := none } := by
      simp only [dmaStep, hhandlers, DriverState.enterHandler, if_pos hgate, gis, frame]
    have hprotocol : FollowsProtocol s a := by
      cases a with
      | interrupt | poll => trivial
      | call | raise | finish | enter | iterate => exact absurd hcalls id
    have hentered := (h.step hprotocol hcall).step (a := .enter) trivial henter
    have honitsway : OnItsWay { s with handlers := [frame], entering := none } frame := by
      refine ⟨rfl, channelNumbers_nodup _, fun c hc => mem_channelNumbers.mp hc, ?_, ?_, hcallbacks⟩
      · intro c hc hbit
        exact (pending_iff (s := s) (hsmall (mem_channelNumbers.mp hc))).mp hbit
      · intro c hc hstart hstopped
        exact ⟨mem_channelNumbers.mpr hc,
          (pending_iff (hsmall hc)).mpr (h.pending_of_stopped hc hstart hstopped)⟩
    obtain ⟨u, hrun, hleft, hreports, hrunning⟩ := honitsway.run board hentered rfl
    refine ⟨.enter :: List.replicate (s.driver.channelNumbers.length + 1) .iterate, u, ?_, ?_,
      hleft, ⟨hreports.entering.trans hentering.symm, hreports.numChannels, hreports.running,
        hreports.state⟩, hrunning⟩
    · simp only [List.forall_mem_cons]
      refine ⟨trivial, fun b hb => ?_⟩
      rw [List.eq_of_mem_replicate hb]
      trivial
    · simp only [Runs.run, hcall, henter, Option.bind_some]
      exact hrun

end HandlerRun

/-- A transfer that is polled: it is running at the first poll, and has ended after that. -/
def polledTransfer : List DmaAction :=
  [.call (.allocateChannel 0xFF#8 21#8), .call (.setCallback 0#32 0x400000#32 0#32),
    .call (.configureTransfer 0#32 ⟨4, 0, 0, 0, 0, 0, 0, 0⟩ 0 0 1), .call (.startTransfer 0#32),
    .poll 0#32, .finish 0#8 1#32]

end SamV71Runtime.XdmaDriver
