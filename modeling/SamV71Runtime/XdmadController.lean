import SamV71Runtime.XdmacRegisters

/-!
# The driver and its controller

The driver beside the registers of the controller. The controller sets the interrupt status of
the channels that are running, and ends their transfers, between any two steps of the driver; the
status is cleared when it is read. An interrupt or a poll calls the handler, which reads the two
global registers one after the other, and takes a step for each channel.
-/
namespace SamV71Runtime.XdmaDriver
open KeyedLog Runs

/-- What is read from the global interrupt status register. -/
def globalInterruptStatus (registers : XdmacRegisters) : BitVec 32 :=
  (BitVec.ofBoolListLE ((List.range 24).map fun k =>
    let status := channelStatus registers (BitVec.ofNat 8 k)
    decide (status.interruptStatus &&& status.interruptMask ≠ 0))).setWidth 32

/-- `entering`: what a handler has read that has not read the global channel status yet. -/
structure DmaState extends DriverState where
  registers : XdmacRegisters
  entering : Option (BitVec 32)

/-- After a reset of the controller and the first `XDMAD_Initialize`. -/
def DmaState.start (board : Board) (memory : Xdmad) (bPollingMode : BitVec 8) : DmaState where
  toDriverState := .start board memory bPollingMode
  registers _ := 0
  entering := none

inductive DmaAction where
  | call (a : DriverAction)
  | raise (iChannel : BitVec 8) (interrupts : BitVec 32)
  | finish (iChannel : BitVec 8) (interrupts : BitVec 32)
  | interrupt
  | poll (dwChannel : BitVec 32)
  | enter
  | iterate

/-- A call of a thread or of a callback that leads to no handler. -/
def DriverAction.IsCall : DriverAction → Prop
  | .isTransferDone _ _ _ | .handler _ _ | .iterate _ => False
  | _ => True

instance : (a : DriverAction) → Decidable a.IsCall
  | .isTransferDone _ _ _ | .handler _ _ | .iterate _ => inferInstanceAs (Decidable False)
  | .initializeAgain _ | .allocateChannel _ _ | .freeChannel _ | .setCallback _ _ _
  | .prepareChannel _ | .configureTransfer _ _ _ _ _ | .startTransfer _ | .stopTransfer _ =>
      inferInstanceAs (Decidable True)

/-- The register accesses of a call. -/
def callAccesses (s : DriverState) : DriverAction → List RegisterAccess
  | .freeChannel dwChannel => (freeChannel s.driver dwChannel).accesses
  | .setCallback dwChannel fCallback pArg =>
      (setCallback s.driver dwChannel fCallback pArg).accesses
  | .prepareChannel dwChannel => (prepareChannel s.driver dwChannel).accesses
  | .configureTransfer dwChannel pXdmaParam dwXdmaDescCfg dwXdmaDescAddr dwXdmaIntEn =>
      (configureTransfer s.driver dwChannel pXdmaParam dwXdmaDescCfg dwXdmaDescAddr
        dwXdmaIntEn).accesses
  | .startTransfer dwChannel => (startTransfer s.driver dwChannel).accesses
  | .stopTransfer dwChannel => (stopTransfer s.driver dwChannel).accesses
  | .initializeAgain _ | .allocateChannel _ _ | .isTransferDone _ _ _ | .handler _ _
  | .iterate _ => []

/-- The channel whose interrupt status the next iteration reads. -/
def lookedAt (s : DriverState) : Option (BitVec 8) :=
  match s.handlers with
  | [] => none
  | frame :: _ =>
      match frame.remaining with
      | [] => none
      | iChannel :: _ =>
          if frame.xdmaGlobaIntStatus &&& channelBit iChannel ≠ 0 ∧
              (s.driver.xdmaChannels iChannel).state ≠ .free then some iChannel
          else none

def DmaState.nextStatus (s : DmaState) : ChannelStatus :=
  (lookedAt s.toDriverState).elim ⟨0, 0⟩ (channelStatus s.registers)

def raiseInterrupts (registers : XdmacRegisters) (c : BitVec 8) (interrupts : BitVec 32) :
    XdmacRegisters :=
  Function.update registers (.channel c .cis) (registers (.channel c .cis) ||| interrupts)

def endTransfer (registers : XdmacRegisters) (c : BitVec 8) : XdmacRegisters :=
  Function.update registers .gs (registers .gs &&& ~~~channelBit c)

/-- The first read of a handler, which no other one interrupts. -/
def DmaState.callHandler (s : DmaState) : Option DmaState :=
  match s.handlers, s.entering with
  | [], none =>
      let xdmaGlobaIntStatus := globalInterruptStatus s.registers
      some { s with entering :=
        if xdmaGlobaIntStatus &&& 0xFFFFFF#32 ≠ 0 then some xdmaGlobaIntStatus else none }
  | _, _ => none

/-- `poll` is a call of `XDMAD_IsTransferDone`. -/
def dmaStep (board : Board) (s : DmaState) : DmaAction → Option DmaState
  | .call a =>
      if a.IsCall then (driverStep board s.toDriverState a).map fun d =>
        { s with
          toDriverState := d
          registers := (callAccesses s.toDriverState a).foldl (RegisterAccess.effect xdmacWrite)
            s.registers }
      else none
  | .raise c interrupts =>
      if (channelRegisters s.registers c).running then
        some { s with registers := raiseInterrupts s.registers c interrupts }
      else none
  | .finish c interrupts =>
      if (channelRegisters s.registers c).running then
        some { s with registers := endTransfer (raiseInterrupts s.registers c interrupts) c }
      else none
  | .interrupt => s.callHandler
  | .poll dwChannel => if (isTransferDone s.driver dwChannel).2 then s.callHandler else some s
  | .enter =>
      match s.handlers, s.entering with
      | [], some xdmaGlobaIntStatus => some { s with
          toDriverState := s.toDriverState.enterHandler xdmaGlobaIntStatus (s.registers .gs)
          entering := none }
      | _, _ => none
  | .iterate => (iterateHandler s.toDriverState s.nextStatus).map fun d =>
      { s with
        toDriverState := d
        registers := (lookedAt s.toDriverState).elim s.registers fun c =>
          RegisterAccess.effect xdmacWrite s.registers (xdmacGetChannelIsr c) }

/-- A channel beside its registers, and what the handler in progress found of it. -/
def DmaState.view (s : DmaState) (c : BitVec 8) : ChannelView where
  toChannelRegisters := channelRegisters s.registers c
  state := (s.driver.xdmaChannels c).state
  awaited := s.handlers.head?.bind fun frame =>
    if c ∈ frame.remaining ∧ frame.xdmaGlobaIntStatus.getLsbD c.toNat = true then
      some (frame.xdmaGlobalChStatus.getLsbD c.toNat)
    else none
  polled := decide (s.driver.pollingMode ≠ 0)

/-- An interrupt, or a call that polls. -/
def CallsHandler (s : DmaState) : DmaAction → Prop
  | .interrupt => True
  | .poll dwChannel => (isTransferDone s.driver dwChannel).2 = true
  | _ => False

/-- A later step of a handler. -/
def DmaAction.OfHandler : DmaAction → Prop
  | .enter | .iterate => True
  | _ => False

def transferEvent (s : DmaState) : DmaAction → Option (BitVec 8 × TransferEvent)
  | .call (.startTransfer dwChannel) => (startTransfer s.driver dwChannel).granted dwChannel .started
  | .call (.stopTransfer dwChannel) => (stopTransfer s.driver dwChannel).granted dwChannel .stopped
  | .finish c _ => some (c, .ended)
  | .iterate => (endedChannel s.toDriverState s.nextStatus).map fun c => (c, .reported)
  | _ => none

/-- A channel is configured when it is neither started nor running, and not started again before
the handler has looked at it. A started transfer ends with an interrupt that is enabled, and not
while the handler that found it running is on its way to it. -/
def FollowsProtocol (s : DmaState) : DmaAction → Prop
  | .call (.configureTransfer dwChannel _ _ _ _) =>
      (s.view (channelOf dwChannel)).state ≠ .start ∧
        (s.view (channelOf dwChannel)).running = false
  | .call (.startTransfer dwChannel) => (s.view (channelOf dwChannel)).awaited = none
  | .finish c interrupts => (s.view c).state = .start →
      transferEnded ((s.view c).raise interrupts).status = true ∧ (s.view c).awaited ≠ some true
  | _ => True

instance (s : DmaState) : (a : DmaAction) → Decidable (FollowsProtocol s a)
  | .call (.configureTransfer _ _ _ _ _) => inferInstanceAs (Decidable (_ ∧ _))
  | .call (.startTransfer _) => inferInstanceAs (Decidable (_ = _))
  | .finish _ _ => inferInstanceAs (Decidable (_ → _))
  | .call (.initializeAgain _) | .call (.allocateChannel _ _) | .call (.freeChannel _)
  | .call (.setCallback _ _ _) | .call (.prepareChannel _) | .call (.stopTransfer _)
  | .call (.isTransferDone _ _ _) | .call (.handler _ _) | .call (.iterate _) | .raise _ _
  | .interrupt | .poll _ | .enter | .iterate => inferInstanceAs (Decidable True)

section Moves
variable {Early : ChannelView → BitVec 32 → Prop} {v v' : ChannelView}

/-- A step that leaves the registers of a channel alone, and starts and ends nothing. -/
theorem move_of_idle (hregisters : v'.toChannelRegisters = v.toChannelRegisters)
    (hawaited : v'.awaited = v.awaited) (hpolled : v'.polled = v.polled)
    (hstate : v'.state = v.state ∨ v.state ≠ .start ∧ v'.state ≠ .start) :
    Move Early v none v' := by
  obtain ⟨registers', state', awaited', polled'⟩ := v'
  dsimp only at hregisters hawaited hpolled hstate
  subst hregisters hawaited hpolled
  rcases hstate with rfl | ⟨hold, hnew⟩
  · exact Move.stay
  · exact Move.setIdle state' hold hnew

theorem Shows.idle {d d' : Xdmad} {event : Option (BitVec 8 × LifeEvent)} {c : BitVec 8}
    (h : Shows d d' event) (hc : c < d.numChannels)
    (hquiet : ∀ e ∈ event, e.2 = .allocated ∨ e.2 = .released) :
    (d'.xdmaChannels c).state = (d.xdmaChannels c).state ∨
      (d.xdmaChannels c).state ≠ .start ∧ (d'.xdmaChannels c).state ≠ .start := by
  rw [h.state c]
  cases event with
  | none => exact Or.inl rfl
  | some made =>
      obtain ⟨c', e⟩ := made
      rw [Option.toList_some, last_singleton]
      by_cases hsame : c' = c
      · subst hsame
        rw [if_pos rfl]
        right
        constructor
        · intro hstart
          have hfollows := h.follows c' e rfl hc (some .started) hstart
          rcases hquiet _ rfl with he | he
          · obtain rfl : e = .allocated := he
            rcases hfollows with hlife | hlife
            · cases hlife
            · cases hlife
          · obtain rfl : e = .released := he
            exact hfollows.2 rfl
        · rcases hquiet _ rfl with he | he
          · obtain rfl : e = .allocated := he
            nofun
          · obtain rfl : e = .released := he
            nofun
      · rw [if_neg hsame]
        exact Or.inl rfl

end Moves

section Calls
variable {Early : ChannelView → BitVec 32 → Prop} {board : Board} {s t : DmaState}
  {a : DriverAction} {c : BitVec 8} {d : Xdmad}
  {dwChannel : BitVec 32}

theorem startTransfer_cases (d : Xdmad) (dwChannel : BitVec 32) :
    ((startTransfer d dwChannel).result ≠ .ok ∧ (startTransfer d dwChannel).driver = d ∧
      (startTransfer d dwChannel).accesses = []) ∨
    ((startTransfer d dwChannel).result = .ok ∧
      (d.xdmaChannels (channelOf dwChannel)).state ≠ .start ∧
      (startTransfer d dwChannel).driver = d.setState (channelOf dwChannel) .start ∧
      (startTransfer d dwChannel).accesses = xdmacEnableChannel (channelOf dwChannel) ::
        if d.pollingMode = 0 then [xdmacEnableGIt (channelOf dwChannel)] else []) := by
  unfold startTransfer
  split
  · exact Or.inl ⟨nofun, rfl, rfl⟩
  · split
    · exact Or.inl ⟨nofun, rfl, rfl⟩
    · exact Or.inl ⟨nofun, rfl, rfl⟩
    all_goals
      rename_i hstate
      exact Or.inr ⟨rfl, by rw [hstate]; nofun, rfl, rfl⟩

theorem stopTransfer_cases (d : Xdmad) (dwChannel : BitVec 32) :
    ((stopTransfer d dwChannel).result ≠ .ok ∧ (stopTransfer d dwChannel).driver = d ∧
      (stopTransfer d dwChannel).accesses = []) ∨
    ((stopTransfer d dwChannel).result = .ok ∧
      (stopTransfer d dwChannel).driver = d.setState (channelOf dwChannel) .halted ∧
      (stopTransfer d dwChannel).accesses = [xdmacDisableChannel (channelOf dwChannel),
        xdmacDisableChannelIt (channelOf dwChannel) 0xFF#8,
        xdmacGetChannelIsr (channelOf dwChannel), xdmacGetGlobalChStatus]) := by
  unfold stopTransfer
  split
  · exact Or.inl ⟨nofun, rfl, rfl⟩
  · exact Or.inr ⟨rfl, rfl, rfl⟩

theorem dmaStep_call_cases (h : dmaStep board s (.call a) = some t) :
    ∃ d, a.IsCall ∧ driverStep board s.toDriverState a = some d ∧
      t = ⟨d, (callAccesses s.toDriverState a).foldl (RegisterAccess.effect xdmacWrite) s.registers,
        s.entering⟩ := by
  simp only [dmaStep] at h
  split at h
  · rename_i hcall
    obtain ⟨d, hd, rfl⟩ := Option.map_eq_some_iff.mp h
    exact ⟨d, hcall, hd, rfl⟩
  · cases h

/-- A call for another channel. -/
theorem move_other {i : BitVec 8} {accesses : List RegisterAccess} {driver : Xdmad}
    (event : Option (BitVec 8 × TransferEvent)) (hown : c ≠ i) (hevent : ∀ e ∈ event, e.1 = i)
    (hwrites : ∀ access ∈ accesses, access.IsFor i)
    (hreads : ∀ access ∈ accesses, access.ReadsFor i)
    (hstate : (driver.xdmaChannels c).state = (s.driver.xdmaChannels c).state) :
    Move Early (s.view c) (last event.toList c)
      ⟨channelRegisters (accesses.foldl (RegisterAccess.effect xdmacWrite) s.registers) c,
        (driver.xdmaChannels c).state, (s.view c).awaited,
        (s.view c).polled⟩ := by
  have hnone : last event.toList c = none := by
    cases event with
    | none => rfl
    | some e => rw [Option.toList_some, last_singleton, hevent e rfl, if_neg (Ne.symm hown)]
  rw [hnone]
  exact move_of_idle (registers_other hwrites hreads hown) rfl rfl (Or.inl hstate)

theorem granted_channel {outcome : Outcome} {event : TransferEvent} :
    ∀ e ∈ outcome.granted dwChannel event, e.1 = channelOf dwChannel := by
  intro e he
  unfold Outcome.granted at he
  split at he
  · cases he
    rfl
  · cases he

/-- Where transfers are polled, the interrupts of the channel stay masked. -/
theorem registers_startTransfer (hc : c.toNat < 32) :
    channelRegisters ((xdmacEnableChannel c :: if s.driver.pollingMode = 0 then [xdmacEnableGIt c]
        else []).foldl (RegisterAccess.effect xdmacWrite) s.registers) c =
      { channelRegisters s.registers c with
        running := true
        unmasked := (s.view c).unmasked || !(s.view c).polled } := by
  by_cases hmode : s.driver.pollingMode = 0
  · have hpolled : (s.view c).polled = false := decide_eq_false (not_not.mpr hmode)
    rw [if_pos hmode, hpolled, List.foldl_cons, List.foldl_cons, List.foldl_nil,
      registers_enableGIt hc, registers_enableChannel hc, Bool.not_false, Bool.or_true]
  · have hpolled : (s.view c).polled = true := decide_eq_true hmode
    rw [if_neg hmode, hpolled, List.foldl_cons, List.foldl_nil, registers_enableChannel hc,
      Bool.not_true, Bool.or_false]
    rfl

theorem startTransfer_move (hc : c.toNat < 32)
    (hprotocol : (s.view (channelOf dwChannel)).awaited = none) :
    Move Early (s.view c) (last (transferEvent s (.call (.startTransfer dwChannel))).toList c)
      ⟨channelRegisters ((startTransfer s.driver dwChannel).accesses.foldl
          (RegisterAccess.effect xdmacWrite) s.registers) c,
        ((startTransfer s.driver dwChannel).driver.xdmaChannels c).state, (s.view c).awaited,
        (s.view c).polled⟩ := by
  simp only [transferEvent]
  by_cases hown : c = channelOf dwChannel
  · subst hown
    rcases startTransfer_cases s.driver dwChannel with
      ⟨hresult, hdriver, haccesses⟩ | ⟨hresult, hidle, hdriver, haccesses⟩
    · rw [Outcome.granted, if_neg hresult, hdriver, haccesses]
      exact Move.stay
    · rw [Outcome.granted, if_pos hresult, hdriver, haccesses, Option.toList_some, last_singleton,
        if_pos rfl, Xdmad.setState, setChannel_state, if_pos rfl, registers_startTransfer hc]
      exact Move.start hidle hprotocol
  · refine move_other _ hown granted_channel startTransfer_isFor startTransfer_readsFor ?_
    rcases startTransfer_cases s.driver dwChannel with ⟨-, hdriver, -⟩ | ⟨-, -, hdriver, -⟩
    · rw [hdriver]
    · rw [hdriver, Xdmad.setState, setChannel_state, if_neg hown]

theorem stopTransfer_move :
    Move Early (s.view c) (last (transferEvent s (.call (.stopTransfer dwChannel))).toList c)
      ⟨channelRegisters ((stopTransfer s.driver dwChannel).accesses.foldl
          (RegisterAccess.effect xdmacWrite) s.registers) c,
        ((stopTransfer s.driver dwChannel).driver.xdmaChannels c).state, (s.view c).awaited,
        (s.view c).polled⟩ := by
  simp only [transferEvent]
  by_cases hown : c = channelOf dwChannel
  · subst hown
    rcases stopTransfer_cases s.driver dwChannel with
      ⟨hresult, hdriver, haccesses⟩ | ⟨hresult, hdriver, haccesses⟩
    · rw [Outcome.granted, if_neg hresult, hdriver, haccesses]
      exact Move.stay
    · rw [Outcome.granted, if_pos hresult, hdriver, haccesses, Option.toList_some, last_singleton,
        if_pos rfl, Xdmad.setState, setChannel_state, if_pos rfl, List.foldl_cons, List.foldl_cons,
        List.foldl_cons, List.foldl_cons, List.foldl_nil]
      change Move _ _ _ ⟨channelRegisters ((xdmacGetChannelIsr _).effect xdmacWrite _) _, _, _, _⟩
      rw [registers_getChannelIsr, registers_disableChannelIt]
      exact Move.stop
  · refine move_other _ hown granted_channel stopTransfer_isFor stopTransfer_readsFor ?_
    rcases stopTransfer_cases s.driver dwChannel with ⟨-, hdriver, -⟩ | ⟨-, hdriver, -⟩
    · rw [hdriver]
    · rw [hdriver, Xdmad.setState, setChannel_state, if_neg hown]

theorem prepareChannel_move :
    Move Early (s.view c) none
      ⟨channelRegisters ((prepareChannel s.driver dwChannel).accesses.foldl
          (RegisterAccess.effect xdmacWrite) s.registers) c,
        ((prepareChannel s.driver dwChannel).driver.xdmaChannels c).state, (s.view c).awaited,
        (s.view c).polled⟩ := by
  rw [prepareChannel_driver]
  by_cases hown : c = channelOf dwChannel
  · subst hown
    by_cases hresult : (prepareChannel s.driver dwChannel).result = .ok
    · obtain ⟨hidle, hregisters⟩ := registers_prepareChannel hresult
      rw [hregisters]
      exact Move.prepare hidle
    · rw [prepareChannel_noAccess hresult]
      exact Move.stay
  · exact move_other none hown nofun prepareChannel_isFor prepareChannel_readsFor rfl

theorem configureTransfer_move (pXdmaParam : XdmadCfg)
    (dwXdmaDescCfg dwXdmaDescAddr dwXdmaIntEn : BitVec 32)
    (hprotocol : (s.view (channelOf dwChannel)).state ≠ .start ∧
      (s.view (channelOf dwChannel)).running = false) :
    Move Early (s.view c) none
      ⟨channelRegisters ((configureTransfer s.driver dwChannel pXdmaParam dwXdmaDescCfg
          dwXdmaDescAddr dwXdmaIntEn).accesses.foldl (RegisterAccess.effect xdmacWrite)
          s.registers) c,
        ((configureTransfer s.driver dwChannel pXdmaParam dwXdmaDescCfg dwXdmaDescAddr
          dwXdmaIntEn).driver.xdmaChannels c).state, (s.view c).awaited,
        (s.view c).polled⟩ := by
  rw [configureTransfer_driver]
  by_cases hown : c = channelOf dwChannel
  · subst hown
    rcases registers_configureTransfer pXdmaParam dwXdmaDescCfg dwXdmaDescAddr dwXdmaIntEn with
      haccesses | ⟨interruptMask, hregisters⟩
    · rw [haccesses]
      exact Move.stay
    · rw [hregisters]
      exact Move.configure interruptMask hprotocol.1 hprotocol.2
  · exact move_other none hown nofun
      (configureTransfer_isFor pXdmaParam dwXdmaDescCfg dwXdmaDescAddr dwXdmaIntEn)
      (configureTransfer_readsFor pXdmaParam dwXdmaDescCfg dwXdmaDescAddr dwXdmaIntEn) rfl

/-- A call starts no handler, and leaves the mode as it is. -/
theorem driverStep_settings {s t : DriverState} {a : DriverAction} (hinit : s.initialized = true)
    (hcall : a.IsCall) (h : driverStep board s a = some t) :
    t.driver.pollingMode = s.driver.pollingMode ∧ t.handlers = s.handlers := by
  cases a with
  | initializeAgain bPollingMode =>
      cases h
      rw [hinit, xdmadInitialize, if_pos rfl]
      exact ⟨rfl, rfl⟩
  | allocateChannel bSrcID bDstID =>
      cases h
      refine ⟨?_, rfl⟩
      dsimp only
      rw [allocateChannel, if_pos rfl, allocateXdmacChannel]
      split
      · rfl
      · split
        · rfl
        · split
          · rfl
          · split
            · rfl
            · rfl
  | freeChannel dwChannel =>
      cases h
      refine ⟨?_, rfl⟩
      dsimp only
      unfold freeChannel
      split
      · rfl
      · split <;> rfl
  | setCallback dwChannel fCallback pArg =>
      cases h
      refine ⟨?_, rfl⟩
      dsimp only
      unfold setCallback
      split
      · rfl
      · split <;> rfl
  | prepareChannel dwChannel =>
      cases h
      rw [prepareChannel_driver]
      exact ⟨rfl, rfl⟩
  | configureTransfer dwChannel pXdmaParam dwXdmaDescCfg dwXdmaDescAddr dwXdmaIntEn =>
      cases h
      rw [configureTransfer_driver]
      exact ⟨rfl, rfl⟩
  | startTransfer dwChannel =>
      cases h
      refine ⟨?_, rfl⟩
      rcases startTransfer_cases s.driver dwChannel with ⟨-, hdriver, -⟩ | ⟨-, -, hdriver, -⟩
      · rw [hdriver]
      · rw [hdriver]
        rfl
  | stopTransfer dwChannel =>
      cases h
      refine ⟨?_, rfl⟩
      rcases stopTransfer_cases s.driver dwChannel with ⟨-, hdriver, -⟩ | ⟨-, hdriver, -⟩
      · rw [hdriver]
      · rw [hdriver]
        rfl
  | isTransferDone dwChannel gis gs => exact absurd hcall id
  | handler gis gs => exact absurd hcall id
  | iterate status => exact absurd hcall id

/-- What a call does to a channel, its own or another. -/
theorem call_moves (hinit : s.initialized = true) (hnum : c < s.driver.numChannels)
    (hc : c.toNat < 32) (hprotocol : FollowsProtocol s (.call a))
    (h : dmaStep board s (.call a) = some t) :
    Move Early (s.view c) (last (transferEvent s (.call a)).toList c) (t.view c) := by
  obtain ⟨d, hcall, hd, rfl⟩ := dmaStep_call_cases h
  obtain ⟨hmode, hhandlers⟩ := driverStep_settings hinit hcall hd
  have hview : DmaState.view ⟨d, (callAccesses s.toDriverState a).foldl
      (RegisterAccess.effect xdmacWrite) s.registers, s.entering⟩ c =
      ⟨channelRegisters ((callAccesses s.toDriverState a).foldl
        (RegisterAccess.effect xdmacWrite) s.registers) c, (d.driver.xdmaChannels c).state,
        (s.view c).awaited, (s.view c).polled⟩ := by
    simp only [DmaState.view, hmode, hhandlers]
  rw [hview]
  cases a with
  | initializeAgain bPollingMode =>
      cases hd
      refine move_of_idle rfl rfl rfl (Or.inl ?_)
      dsimp only [DmaState.view]
      rw [hinit, xdmadInitialize, if_pos rfl]
  | allocateChannel bSrcID bDstID =>
      cases hd
      have hshows : Shows s.driver (allocateChannel board .successful s.driver bSrcID bDstID).2
          (lifeEvent board s.toDriverState (.allocateChannel bSrcID bDstID)) :=
        allocateChannel_shows s.toDriverState bSrcID bDstID
      refine move_of_idle rfl rfl rfl (hshows.idle hnum ?_)
      intro e he
      simp only [lifeEvent] at he
      split at he
      · cases he
      · cases he
        exact Or.inl rfl
  | freeChannel dwChannel =>
      cases hd
      rw [callAccesses, freeChannel_accesses]
      refine move_of_idle rfl rfl rfl (freeChannel_shows.idle hnum ?_)
      intro e he
      simp only [Outcome.granted] at he
      split at he
      · cases he
        exact Or.inr rfl
      · cases he
  | setCallback dwChannel fCallback pArg =>
      cases hd
      rw [callAccesses, setCallback_accesses]
      refine move_of_idle rfl rfl rfl ((setCallback_shows fCallback pArg).idle hnum ?_)
      intro e he
      cases he
  | prepareChannel dwChannel =>
      cases hd
      exact prepareChannel_move
  | configureTransfer dwChannel pXdmaParam dwXdmaDescCfg dwXdmaDescAddr dwXdmaIntEn =>
      cases hd
      exact configureTransfer_move pXdmaParam dwXdmaDescCfg dwXdmaDescAddr dwXdmaIntEn hprotocol
  | startTransfer dwChannel =>
      cases hd
      exact startTransfer_move hc hprotocol
  | stopTransfer dwChannel =>
      cases hd
      exact stopTransfer_move
  | isTransferDone dwChannel gis gs => exact absurd hcall id
  | handler gis gs => exact absurd hcall id
  | iterate status => exact absurd hcall id

end Calls

section Controller
variable {Early : ChannelView → BitVec 32 → Prop} {board : Board} {s t : DmaState}
  {c i : BitVec 8} {interrupts : BitVec 32}

theorem registers_raiseInterrupts (registers : XdmacRegisters) (c i : BitVec 8)
    (interrupts : BitVec 32) :
    channelRegisters (raiseInterrupts registers i interrupts) c =
      if c = i then
        let before := channelRegisters registers c
        { before with status := { before.status with
          interruptStatus := before.status.interruptStatus ||| interrupts } }
      else channelRegisters registers c := by
  by_cases hc : c = i
  · subst hc
    simp [channelRegisters, channelStatus, raiseInterrupts]
  · simp [channelRegisters, channelStatus, raiseInterrupts, hc]

theorem registers_endTransfer (registers : XdmacRegisters) (c i : BitVec 8) :
    channelRegisters (endTransfer registers i) c =
      if c = i then { channelRegisters registers c with running := false }
      else channelRegisters registers c := by
  by_cases hc : c = i
  · subst hc
    simp [channelRegisters, channelStatus, endTransfer, getLsbD_channelBit]
  · have hbit : c.toNat ≠ i.toNat := fun h => hc (BitVec.eq_of_toNat_eq h)
    simp [channelRegisters, channelStatus, endTransfer, getLsbD_channelBit, hc, hbit]
    exact BitVec.lt_of_getLsbD

theorem raise_move (hearly : Early (s.view i) interrupts)
    (h : dmaStep board s (.raise i interrupts) = some t) :
    Move Early (s.view c) (last (transferEvent s (.raise i interrupts)).toList c) (t.view c) := by
  simp only [dmaStep] at h
  split at h
  · rename_i hrunning
    cases h
    change Move _ _ none ⟨channelRegisters (raiseInterrupts _ _ _) c, _, _, _⟩
    rw [registers_raiseInterrupts]
    by_cases hc : c = i
    · subst hc
      rw [if_pos rfl]
      exact Move.raise interrupts hrunning hearly
    · rw [if_neg hc]
      exact Move.stay
  · cases h

theorem finish_move (hprotocol : FollowsProtocol s (.finish i interrupts))
    (h : dmaStep board s (.finish i interrupts) = some t) :
    Move Early (s.view c) (last (transferEvent s (.finish i interrupts)).toList c) (t.view c) := by
  simp only [dmaStep] at h
  split at h
  · rename_i hrunning
    cases h
    change Move _ _ (last [(i, TransferEvent.ended)] c)
      ⟨channelRegisters (endTransfer (raiseInterrupts _ _ _) _) c, _, _, _⟩
    rw [registers_endTransfer, registers_raiseInterrupts, last_singleton]
    by_cases hc : c = i
    · subst hc
      rw [if_pos rfl, if_pos rfl, if_pos rfl]
      exact Move.finish interrupts hrunning hprotocol
    · rw [if_neg (Ne.symm hc), if_neg hc, if_neg hc]
      exact Move.stay
  · cases h

end Controller

section Handler
variable {Early : ChannelView → BitVec 32 → Prop} {board : Board} {s t : DmaState}
  {c : BitVec 8}

theorem callHandler_cases (h : s.callHandler = some t) :
    ∃ entering, t = { s with entering } ∧
      ∀ gis ∈ entering, gis = globalInterruptStatus s.registers := by
  unfold DmaState.callHandler at h
  split at h
  · refine ⟨_, (Option.some.inj h).symm, fun gis hgis => ?_⟩
    split at hgis
    · exact (Option.some.inj hgis).symm
    · cases hgis
  · cases h

/-- A poll does what an interrupt does, or nothing. -/
theorem poll_cases {dwChannel : BitVec 32} (h : dmaStep board s (.poll dwChannel) = some t) :
    s.callHandler = some t ∨ t = s := by
  simp only [dmaStep] at h
  split at h
  · exact Or.inl h
  · cases h
    exact Or.inr rfl

theorem enter_cases (h : dmaStep board s .enter = some t) :
    s.handlers = [] ∧ ∃ gis, s.entering = some gis ∧
      t = { s with
        toDriverState := s.toDriverState.enterHandler gis (s.registers .gs)
        entering := none } := by
  simp only [dmaStep] at h
  split at h
  · rename_i gis hhandlers hentering
    cases h
    exact ⟨hhandlers, gis, hentering, rfl⟩
  · cases h

theorem enter_move (h : dmaStep board s .enter = some t) :
    Move Early (s.view c) none (t.view c) := by
  obtain ⟨hhandlers, gis, -, rfl⟩ := enter_cases h
  by_cases hgate : gis &&& 0xFFFFFF#32 ≠ 0
  · by_cases hfound : c ∈ s.driver.channelNumbers ∧ gis.getLsbD c.toNat = true
    · have hview : DmaState.view { s with
          toDriverState := s.toDriverState.enterHandler gis (s.registers .gs)
          entering := none } c = { s.view c with awaited := some (s.view c).running } := by
        simp only [DmaState.view, DriverState.enterHandler, if_pos hgate, List.head?_cons,
          Option.bind_some, if_pos hfound]
        rfl
      rw [hview]
      exact Move.await
    · have hview : DmaState.view { s with
          toDriverState := s.toDriverState.enterHandler gis (s.registers .gs)
          entering := none } c = { s.view c with awaited := none } := by
        simp only [DmaState.view, DriverState.enterHandler, if_pos hgate, List.head?_cons,
          Option.bind_some, if_neg hfound]
      rw [hview]
      exact Move.leave
  · have hsame : s.toDriverState.enterHandler gis (s.registers .gs) = s.toDriverState :=
      if_neg hgate
    rw [hsame]
    exact Move.stay

/-- What a step of the loop does: the handler returns, or it passes a channel, reports its
transfer or looks at it for nothing. -/
inductive Iterates (s : DmaState) : Option (BitVec 8 × TransferEvent) → DmaState → Prop where
  | leave : Iterates s none { s with handlers := [] }
  | pass (frame : HandlerFrame) (i : BitVec 8) (rest : List (BitVec 8)) (bExec : Bool)
      (hhandlers : s.handlers = [frame]) (hremaining : frame.remaining = i :: rest)
      (hpending : frame.xdmaGlobaIntStatus &&& channelBit i = 0) :
      Iterates s none { s with handlers := [{ frame with remaining := rest, bExec }] }
  | report (frame : HandlerFrame) (i : BitVec 8) (rest : List (BitVec 8)) (bExec : Bool)
      (hhandlers : s.handlers = [frame]) (hremaining : frame.remaining = i :: rest)
      (hpending : frame.xdmaGlobaIntStatus &&& channelBit i ≠ 0)
      (hfound : frame.xdmaGlobalChStatus &&& channelBit i = 0)
      (hended : transferEnded (channelStatus s.registers i) = true) :
      Iterates s (some (i, .reported)) { s with
        driver := s.driver.setState i .done
        handlers := [{ frame with remaining := rest, bExec }]
        registers := (xdmacGetChannelIsr i).effect xdmacWrite s.registers }
  | look (frame : HandlerFrame) (i : BitVec 8) (rest : List (BitVec 8)) (bExec : Bool)
      (hhandlers : s.handlers = [frame]) (hremaining : frame.remaining = i :: rest)
      (hpending : frame.xdmaGlobaIntStatus &&& channelBit i ≠ 0)
      (hfound : frame.xdmaGlobalChStatus &&& channelBit i ≠ 0 ∨
        transferEnded (channelStatus s.registers i) = false) :
      Iterates s none { s with
        handlers := [{ frame with remaining := rest, bExec }]
        registers := (xdmacGetChannelIsr i).effect xdmacWrite s.registers }

theorem iterate_cases (hsingle : s.handlers.length ≤ 1) (h : dmaStep board s .iterate = some t) :
    Iterates s (transferEvent s .iterate) t := by
  obtain ⟨d, hd, rfl⟩ := Option.map_eq_some_iff.mp h
  unfold iterateHandler at hd
  cases hhandlers : s.handlers with
  | nil =>
      rw [hhandlers] at hd
      cases hd
  | cons frame outer =>
      rw [hhandlers, List.length_cons] at hsingle
      obtain rfl : outer = [] := List.eq_nil_of_length_eq_zero (by omega)
      cases hremaining : frame.remaining with
      | nil =>
          have hlooked : lookedAt s.toDriverState = none := by
            simp only [lookedAt, hhandlers, hremaining]
          have hevent : transferEvent s .iterate = none := by
            simp only [transferEvent, endedChannel, hhandlers, hremaining, Option.map_none]
          simp only [hhandlers, hremaining] at hd
          cases hd
          rw [hlooked, hevent]
          exact Iterates.leave
      | cons i rest =>
          have hlooked : lookedAt s.toDriverState =
              if frame.xdmaGlobaIntStatus &&& channelBit i ≠ 0 ∧
                (s.driver.xdmaChannels i).state ≠ .free then some i else none := by
            simp only [lookedAt, hhandlers, hremaining]
          have hevent : transferEvent s .iterate =
              (if frame.xdmaGlobaIntStatus &&& channelBit i ≠ 0 ∧
                (s.driver.xdmaChannels i).state ≠ .free ∧
                frame.xdmaGlobalChStatus &&& channelBit i = 0 ∧ transferEnded s.nextStatus then
                  some i else none).map fun c => (c, .reported) := by
            simp only [transferEvent, endedChannel, hhandlers, hremaining]
          simp only [hhandlers, hremaining] at hd
          obtain ⟨iteration, hiteration, rfl⟩ := Option.map_eq_some_iff.mp hd
          cases iteration with
          | returned =>
              have hfree := handleChannel_returned hiteration
              rw [hlooked, if_neg fun hall => hall.2 hfree, hevent,
                if_neg fun hall => hall.2.1 hfree]
              exact Iterates.leave
          | continued driver bExec calls =>
              by_cases hpending : frame.xdmaGlobaIntStatus &&& channelBit i = 0
              · rcases handleChannel_cases hiteration with ⟨hall, -⟩ | ⟨-, rfl⟩
                · exact absurd hpending hall.1
                · rw [hlooked, if_neg fun hall => hall.1 hpending, hevent,
                    if_neg fun hall => hall.1 hpending]
                  exact Iterates.pass frame i rest bExec hhandlers hremaining hpending
              · have hused : (s.driver.xdmaChannels i).state ≠ .free := by
                  intro hfree
                  simp only [handleChannel, if_neg hpending, if_pos hfree] at hiteration
                  cases hiteration
                rw [if_pos ⟨hpending, hused⟩] at hlooked
                have hstatus : s.nextStatus = channelStatus s.registers i := by
                  rw [DmaState.nextStatus, hlooked]
                  rfl
                rw [hlooked, hevent, hstatus]
                rw [hstatus] at hiteration
                rcases handleChannel_cases hiteration with ⟨hall, rfl⟩ | ⟨hnot, rfl⟩
                · rw [if_pos hall]
                  exact Iterates.report frame i rest bExec hhandlers hremaining hpending
                    hall.2.2.1 hall.2.2.2
                · rw [if_neg hnot]
                  refine Iterates.look frame i rest bExec hhandlers hremaining hpending ?_
                  by_contra hother
                  obtain ⟨hfound, hended⟩ := not_or.mp hother
                  exact hnot ⟨hpending, hused, not_not.mp hfound, by simpa using hended⟩

section Iteration
variable {frame : HandlerFrame} {i : BitVec 8} {rest : List (BitVec 8)}

theorem awaited_head (hhandlers : s.handlers = [frame]) (hremaining : frame.remaining = i :: rest) :
    (s.view i).awaited = if frame.xdmaGlobaIntStatus &&& channelBit i = 0 then none
      else some (frame.xdmaGlobalChStatus.getLsbD i.toNat) := by
  simp only [DmaState.view, hhandlers, List.head?_cons, Option.bind_some, hremaining,
    and_channelBit_eq_zero_iff]
  cases frame.xdmaGlobaIntStatus.getLsbD i.toNat with
  | false => simp
  | true => simp

/-- What the handler has left to look at, after an iteration. -/
theorem awaited_of_rest (bExec : Bool) (hhandlers : s.handlers = [frame])
    (hremaining : frame.remaining = i :: rest) (driver : Xdmad) (registers : XdmacRegisters)
    (c : BitVec 8) :
    (DmaState.view { s with
        driver, registers
        handlers := [{ frame with remaining := rest, bExec }] } c).awaited = (s.view c).awaited ∨
      c = i ∧ (DmaState.view { s with
        driver, registers
        handlers := [{ frame with remaining := rest, bExec }] } c).awaited = none := by
  simp only [DmaState.view, hhandlers, List.head?_cons, Option.bind_some, hremaining,
    List.mem_cons]
  by_cases hc : c = i
  · by_cases hrest : c ∈ rest
    · simp [hrest]
    · right
      exact ⟨hc, if_neg fun hall => hrest hall.1⟩
  · left
    simp [hc]

end Iteration

theorem iterate_move (hsingle : s.handlers.length ≤ 1) (h : dmaStep board s .iterate = some t) :
    Move Early (s.view c) (last (transferEvent s .iterate).toList c) (t.view c) := by
  have hiterates := iterate_cases hsingle h
  have hread {i : BitVec 8} (hc : c ≠ i) :
      channelRegisters ((xdmacGetChannelIsr i).effect xdmacWrite s.registers) c =
        channelRegisters s.registers c := channelRegisters_other trivial rfl hc
  generalize transferEvent s .iterate = event at hiterates
  cases hiterates with
  | leave => exact Move.leave
  | pass frame i rest bExec hhandlers hremaining hpending =>
      refine move_of_idle rfl ?_ rfl (Or.inl rfl)
      rcases awaited_of_rest bExec hhandlers hremaining s.driver s.registers c with
        hsame | ⟨rfl, hnone⟩
      · exact hsame
      · rw [awaited_head hhandlers hremaining, if_pos hpending]
        exact hnone
  | report frame i rest bExec hhandlers hremaining hpending hfound hended =>
      have hleft := awaited_of_rest bExec hhandlers hremaining
        (s.driver.setState i .done) ((xdmacGetChannelIsr i).effect xdmacWrite s.registers) c
      rw [Option.toList_some, last_singleton]
      by_cases hc : c = i
      · subst hc
        rw [if_pos rfl]
        have hawaited : (s.view c).awaited = some false := by
          rw [awaited_head hhandlers hremaining, if_neg hpending,
            and_channelBit_eq_zero_iff.mp hfound]
        change Move _ _ _
          ⟨channelRegisters ((xdmacGetChannelIsr c).effect xdmacWrite s.registers) c,
            ((s.driver.setState c .done).xdmaChannels c).state, _, _⟩
        rw [registers_getChannelIsr, Xdmad.setState, setChannel_state, if_pos rfl]
        exact Move.report _ hawaited hended (hleft.symm.imp And.right id)
      · rw [if_neg (Ne.symm hc)]
        refine move_of_idle (hread hc) ?_ rfl (Or.inl ?_)
        · exact hleft.resolve_right fun hall => hc hall.1
        · exact (setChannel_state ..).trans (if_neg hc)
  | look frame i rest bExec hhandlers hremaining hpending hfound =>
      have hleft := awaited_of_rest bExec hhandlers hremaining s.driver
        ((xdmacGetChannelIsr i).effect xdmacWrite s.registers) c
      by_cases hc : c = i
      · subst hc
        have hawaited : (s.view c).awaited = some true ∨
            (s.view c).awaited = some false ∧ transferEnded (s.view c).status = false := by
          rw [awaited_head hhandlers hremaining, if_neg hpending]
          cases hrunning : frame.xdmaGlobalChStatus.getLsbD c.toNat with
          | true => exact Or.inl rfl
          | false =>
              exact Or.inr ⟨rfl, hfound.resolve_left
                (not_not.mpr (and_channelBit_eq_zero_iff.mpr hrunning))⟩
        change Move _ _ _
          ⟨channelRegisters ((xdmacGetChannelIsr c).effect xdmacWrite s.registers) c,
            (s.driver.xdmaChannels c).state, _, _⟩
        rw [registers_getChannelIsr]
        exact Move.look _ hawaited (hleft.symm.imp And.right id)
      · exact move_of_idle (hread hc) (hleft.resolve_right fun hall => hc hall.1) rfl
          (Or.inl rfl)

end Handler

end SamV71Runtime.XdmaDriver
