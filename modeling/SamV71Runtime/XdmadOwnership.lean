import SamV71Runtime.Runs
import SamV71Runtime.Xdmad

/-!
# Who owns the DMA channels

Calls of the driver in any order, with any arguments. `XDMAD_Handler` takes one step for
each iteration of its loop, so that the callbacks it calls, and other handlers, may make
calls in between. A channel is owned from the call that returned it to the one that freed it.
-/
namespace SamV71Runtime.XdmaDriver
open Runs

/-- A handler in progress: what it read, the channels still to be looked at, and its flag. -/
structure HandlerFrame where
  xdmaGlobaIntStatus : BitVec 32
  xdmaGlobalChStatus : BitVec 32
  remaining : List (BitVec 8)
  bExec : Bool

/-- `handlers`: the innermost one first. -/
structure DriverState where
  initialized : Bool
  driver : Xdmad
  handlers : List HandlerFrame

/-- After the first `XDMAD_Initialize`; the memory may have held anything. -/
def DriverState.start (board : Board) (memory : Xdmad) (bPollingMode : BitVec 8) : DriverState where
  initialized := (xdmadInitialize board false memory bPollingMode).1
  driver := (xdmadInitialize board false memory bPollingMode).2
  handlers := []

/-- A handler is entered with the global registers it reads. -/
def DriverState.enterHandler (s : DriverState) (xdmaGlobaIntStatus xdmaGlobalChStatus : BitVec 32) :
    DriverState :=
  if xdmaGlobaIntStatus &&& 0xFFFFFF#32 ≠ 0 then
    { s with handlers :=
      ⟨xdmaGlobaIntStatus, xdmaGlobalChStatus, s.driver.channelNumbers, false⟩ :: s.handlers }
  else s

inductive DriverAction where
  | initializeAgain (bPollingMode : BitVec 8)
  | allocateChannel (bSrcID bDstID : BitVec 8)
  | freeChannel (dwChannel : BitVec 32)
  | setCallback (dwChannel fCallback pArg : BitVec 32)
  | prepareChannel (dwChannel : BitVec 32)
  | configureTransfer (dwChannel : BitVec 32) (pXdmaParam : XdmadCfg)
      (dwXdmaDescCfg dwXdmaDescAddr dwXdmaIntEn : BitVec 32)
  | startTransfer (dwChannel : BitVec 32)
  | stopTransfer (dwChannel : BitVec 32)
  | isTransferDone (dwChannel xdmaGlobaIntStatus xdmaGlobalChStatus : BitVec 32)
  | handler (xdmaGlobaIntStatus xdmaGlobalChStatus : BitVec 32)
  | iterate (status : ChannelStatus)

/-- The next iteration of the innermost handler, or its return. -/
def iterateHandler (s : DriverState) (status : ChannelStatus) : Option DriverState :=
  match s.handlers with
  | [] => none
  | frame :: outer =>
      match frame.remaining with
      | [] => some { s with handlers := outer }
      | iChannel :: rest =>
          (handleChannel s.driver frame.xdmaGlobaIntStatus frame.xdmaGlobalChStatus status iChannel
            frame.bExec).map fun
          | .returned => { s with handlers := outer }
          | .continued driver bExec _ =>
              { s with driver, handlers := { frame with remaining := rest, bExec } :: outer }

def driverStep (board : Board) (s : DriverState) : DriverAction → Option DriverState
  | .initializeAgain bPollingMode =>
      let reply := xdmadInitialize board s.initialized s.driver bPollingMode
      some { s with initialized := reply.1, driver := reply.2 }
  | .allocateChannel bSrcID bDstID =>
      some { s with driver := (allocateChannel board .successful s.driver bSrcID bDstID).2 }
  | .freeChannel dwChannel => some { s with driver := (freeChannel s.driver dwChannel).driver }
  | .setCallback dwChannel fCallback pArg =>
      some { s with driver := (setCallback s.driver dwChannel fCallback pArg).driver }
  | .prepareChannel dwChannel =>
      some { s with driver := (prepareChannel s.driver dwChannel).driver }
  | .configureTransfer dwChannel pXdmaParam dwXdmaDescCfg dwXdmaDescAddr dwXdmaIntEn =>
      some { s with driver := (configureTransfer s.driver dwChannel pXdmaParam dwXdmaDescCfg
        dwXdmaDescAddr dwXdmaIntEn).driver }
  | .startTransfer dwChannel => some { s with driver := (startTransfer s.driver dwChannel).driver }
  | .stopTransfer dwChannel => some { s with driver := (stopTransfer s.driver dwChannel).driver }
  | .isTransferDone dwChannel xdmaGlobaIntStatus xdmaGlobalChStatus =>
      some (if (isTransferDone s.driver dwChannel).2 then
        s.enterHandler xdmaGlobaIntStatus xdmaGlobalChStatus else s)
  | .handler xdmaGlobaIntStatus xdmaGlobalChStatus =>
      some (s.enterHandler xdmaGlobaIntStatus xdmaGlobalChStatus)
  | .iterate status => iterateHandler s status

inductive ChannelEvent where
  | allocated (iChannel : BitVec 8)
  | released (iChannel : BitVec 8)
  deriving DecidableEq

/-- What the reply to a call says about the ownership of a channel. -/
def channelEvent (board : Board) (s : DriverState) : DriverAction → Option ChannelEvent
  | .allocateChannel bSrcID bDstID =>
      let dwChannel := (allocateChannel board .successful s.driver bSrcID bDstID).1
      if dwChannel = xdmadAllocFailed then none else some (.allocated (channelOf dwChannel))
  | .freeChannel dwChannel =>
      if (freeChannel s.driver dwChannel).result = .ok then some (.released (channelOf dwChannel))
      else none
  | _ => none

/-- Some call returned the channel, and no later one freed it. -/
def Owned (events : List ChannelEvent) (iChannel : BitVec 8) : Prop :=
  ∃ before after, events = before ++ .allocated iChannel :: after ∧ .released iChannel ∉ after

/-- The arguments that `XDMAD_AllocateXdmacChannel` accepts. -/
def ValidAllocation (board : Board) (bSrcID bDstID : BitVec 8) : Prop :=
  (bSrcID = xdmadTransferMemory ∨ bDstID = xdmadTransferMemory) ∧
    (bDstID = xdmadTransferMemory → xdmaifIsValidatedPeripherOnDma board bSrcID = true) ∧
    (bSrcID = xdmadTransferMemory → xdmaifIsValidatedPeripherOnDma board bDstID = true)

structure OwnedExactly (board : Board) (s : DriverState) (events : List ChannelEvent) : Prop where
  used : ∀ c < s.driver.numChannels, (s.driver.xdmaChannels c).state ≠ .free ↔ Owned events c
  fresh : ∀ bSrcID bDstID, (allocateChannel board .successful s.driver bSrcID bDstID).1 ≠
    xdmadAllocFailed → ∃ c < s.driver.numChannels, ¬ Owned events c ∧
      (allocateChannel board .successful s.driver bSrcID bDstID).1 = c.setWidth 32
  exhausted : ∀ bSrcID bDstID, ValidAllocation board bSrcID bDstID →
    (allocateChannel board .successful s.driver bSrcID bDstID).1 = xdmadAllocFailed →
      ∀ c < s.driver.numChannels, Owned events c

/-- The channels are owned exactly in every state that the calls lead through. -/
def OwnedThroughout (board : Board) (start : DriverState) (as : List DriverAction) : Prop :=
  ∀ bs, bs <+: as → ∀ s, run (driverStep board) start bs = some s →
    OwnedExactly board s (outputs (driverStep board) (channelEvent board) start bs)

/-- A transfer is stopped only on a channel that is in use. -/
def StopsUsed (s : DriverState) : DriverAction → Prop
  | .stopTransfer dwChannel => channelOf dwChannel < s.driver.numChannels →
      (s.driver.xdmaChannels (channelOf dwChannel)).state ≠ .free
  | _ => True

instance (s : DriverState) : (a : DriverAction) → Decidable (StopsUsed s a)
  | .stopTransfer _ => inferInstanceAs (Decidable (_ → _))
  | .initializeAgain _ | .allocateChannel _ _ | .freeChannel _ | .setCallback _ _ _
  | .prepareChannel _ | .configureTransfer _ _ _ _ _ | .startTransfer _ | .isTransferDone _ _ _
  | .handler _ _ | .iterate _ => inferInstanceAs (Decidable True)

theorem owned_concat {events : List ChannelEvent} {event : ChannelEvent} {c : BitVec 8} :
    Owned (events ++ [event]) c ↔
      event = .allocated c ∨ Owned events c ∧ event ≠ .released c := by
  constructor
  · rintro ⟨before, after, heq, hnot⟩
    rcases List.eq_nil_or_concat after with rfl | ⟨after, last, rfl⟩
    · obtain ⟨_, hlast⟩ := List.append_inj' heq rfl
      exact Or.inl (List.cons.inj hlast).1
    · rw [List.concat_eq_append, ← List.cons_append, ← List.append_assoc] at heq
      obtain ⟨hinit, hlast⟩ := List.append_inj' heq rfl
      obtain rfl := (List.cons.inj hlast).1
      rw [List.concat_eq_append, List.mem_append, List.mem_singleton] at hnot
      obtain ⟨hafter, hevent⟩ := not_or.mp hnot
      exact Or.inr ⟨⟨before, after, hinit, hafter⟩, Ne.symm hevent⟩
  · rintro (rfl | ⟨⟨before, after, rfl, hnot⟩, hevent⟩)
    · exact ⟨events, [], rfl, List.not_mem_nil⟩
    · refine ⟨before, after ++ [event], ?_, ?_⟩
      · rw [List.append_assoc]
        rfl
      · rw [List.mem_append, List.mem_singleton]
        exact not_or.mpr ⟨hnot, Ne.symm hevent⟩

/-- The same channels are free. -/
structure SameFree (d d' : Xdmad) : Prop where
  numChannels : d'.numChannels = d.numChannels
  free : ∀ c, (d'.xdmaChannels c).state = .free ↔ (d.xdmaChannels c).state = .free

section Calls
variable {d : Xdmad} {dwChannel : BitVec 32}

theorem sameFree_refl (d : Xdmad) : SameFree d d := ⟨rfl, fun _ => Iff.rfl⟩

theorem setChannel_state (d : Xdmad) (i c : BitVec 8) (channel : XdmadChannel) :
    ((d.setChannel i channel).xdmaChannels c).state =
      if c = i then channel.state else (d.xdmaChannels c).state := by
  dsimp only [Xdmad.setChannel]
  rw [Function.update_apply]
  split
  · rfl
  · rfl

theorem sameFree_setChannel {i : BitVec 8} {channel : XdmadChannel}
    (h : channel.state = .free ↔ (d.xdmaChannels i).state = .free) :
    SameFree d (d.setChannel i channel) := by
  refine ⟨rfl, fun c => ?_⟩
  rw [setChannel_state]
  by_cases hc : c = i
  · rw [if_pos hc, hc]
    exact h
  · rw [if_neg hc]

theorem sameFree_setState {i : BitVec 8} {state : XdmadState}
    (hold : (d.xdmaChannels i).state ≠ .free) (hnew : state ≠ .free) :
    SameFree d (d.setState i state) :=
  sameFree_setChannel (iff_of_false hnew hold)

theorem setCallback_sameFree (fCallback pArg : BitVec 32) :
    SameFree d (setCallback d dwChannel fCallback pArg).driver := by
  unfold setCallback
  split
  · exact sameFree_refl d
  · split
    · exact sameFree_refl d
    · exact sameFree_refl d
    all_goals exact sameFree_setChannel Iff.rfl

theorem prepareChannel_driver : (prepareChannel d dwChannel).driver = d := by
  unfold prepareChannel
  split
  · rfl
  · split
    all_goals rfl

theorem configureTransfer_driver (pXdmaParam : XdmadCfg)
    (dwXdmaDescCfg dwXdmaDescAddr dwXdmaIntEn : BitVec 32) :
    (configureTransfer d dwChannel pXdmaParam dwXdmaDescCfg dwXdmaDescAddr dwXdmaIntEn).driver =
      d := by
  unfold configureTransfer
  split
  · rfl
  · split
    all_goals rfl

theorem startTransfer_sameFree : SameFree d (startTransfer d dwChannel).driver := by
  unfold startTransfer
  split
  · exact sameFree_refl d
  · split
    · exact sameFree_refl d
    · exact sameFree_refl d
    all_goals
      rename_i hstate
      exact sameFree_setState (by rw [hstate]; nofun) nofun

theorem stopTransfer_sameFree (h : channelOf dwChannel < d.numChannels →
    (d.xdmaChannels (channelOf dwChannel)).state ≠ .free) :
    SameFree d (stopTransfer d dwChannel).driver := by
  unfold stopTransfer
  split
  · exact sameFree_refl d
  · rename_i hin
    exact sameFree_setState (h (BitVec.not_le.mp hin)) nofun

/-- A free channel that is stopped is no longer free. -/
theorem stopTransfer_halted (hin : channelOf dwChannel < d.numChannels) :
    ((stopTransfer d dwChannel).driver.xdmaChannels (channelOf dwChannel)).state = .halted := by
  rw [stopTransfer, if_neg (BitVec.not_le.mpr hin)]
  exact (setChannel_state ..).trans (if_pos rfl)

/-- A call that returns `XDMAD_OK` leaves its channel free, and no other call changes anything. -/
theorem freeChannel_cases (d : Xdmad) (dwChannel : BitVec 32) :
    ((freeChannel d dwChannel).result ≠ .ok ∧ (freeChannel d dwChannel).driver = d) ∨
    ((freeChannel d dwChannel).result = .ok ∧
      (freeChannel d dwChannel).driver.numChannels = d.numChannels ∧
      ∀ c, ((freeChannel d dwChannel).driver.xdmaChannels c).state = .free ↔
        c = channelOf dwChannel ∨ (d.xdmaChannels c).state = .free) := by
  have hset (c : BitVec 8) : ((d.setState (channelOf dwChannel) .free).xdmaChannels c).state = .free ↔
      c = channelOf dwChannel ∨ (d.xdmaChannels c).state = .free := by
    rw [Xdmad.setState, setChannel_state]
    by_cases hc : c = channelOf dwChannel
    · simp [hc]
    · simp [hc]
  unfold freeChannel
  split
  · exact Or.inl ⟨nofun, rfl⟩
  · split
    · exact Or.inl ⟨nofun, rfl⟩
    · exact Or.inl ⟨nofun, rfl⟩
    · exact Or.inl ⟨nofun, rfl⟩
    · exact Or.inr ⟨rfl, rfl, hset⟩
    · exact Or.inr ⟨rfl, rfl, hset⟩
    · rename_i hfree
      refine Or.inr ⟨rfl, rfl, fun c => ?_⟩
      constructor
      · exact Or.inr
      · rintro (rfl | hc)
        · exact hfree
        · exact hc

theorem freeIndex_cases {i : ℕ} (h : d.freeIndex = some i) :
    BitVec.ofNat 8 i < d.numChannels ∧ (d.xdmaChannels (BitVec.ofNat 8 i)).state = .free ∧
      BitVec.ofNat 32 i &&& 0xFF#32 = (BitVec.ofNat 8 i).setWidth 32 := by
  have hstate := List.find?_some h
  have hlt := List.mem_range.mp (List.mem_of_find?_eq_some h)
  have hbound := d.numChannels.isLt
  refine ⟨?_, by simpa using hstate, ?_⟩
  · rw [BitVec.lt_def, BitVec.toNat_ofNat]
    omega
  · apply BitVec.eq_of_toNat_eq
    have hmask : i &&& 255 = i % 256 := Nat.and_two_pow_sub_one_eq_mod i 8
    have hsmall : i % 2 ^ 32 = i := by omega
    rw [BitVec.toNat_and, BitVec.toNat_ofNat, hsmall, BitVec.toNat_setWidth, BitVec.toNat_ofNat]
    change i &&& 255 = i % 256 % 4294967296
    omega

theorem freeIndex_eq_none (h : d.freeIndex = none) (c : BitVec 8) (hc : c < d.numChannels) :
    (d.xdmaChannels c).state ≠ .free := by
  have hall := List.find?_eq_none.mp h c.toNat (List.mem_range.mpr hc)
  simpa using hall

variable {board : Board}

/-- A call that returns a channel found it free, and marks it and no other. -/
theorem allocateChannel_cases (d : Xdmad) (bSrcID bDstID : BitVec 8) :
    ((allocateChannel board .successful d bSrcID bDstID).1 = xdmadAllocFailed ∧
      (allocateChannel board .successful d bSrcID bDstID).2 = d ∧
      (ValidAllocation board bSrcID bDstID →
        ∀ c < d.numChannels, (d.xdmaChannels c).state ≠ .free)) ∨
    ∃ c < d.numChannels, (d.xdmaChannels c).state = .free ∧
      (allocateChannel board .successful d bSrcID bDstID).1 = c.setWidth 32 ∧
      (allocateChannel board .successful d bSrcID bDstID).2.numChannels = d.numChannels ∧
      ∀ c', ((allocateChannel board .successful d bSrcID bDstID).2.xdmaChannels c').state = .free ↔
        c' ≠ c ∧ (d.xdmaChannels c').state = .free := by
  rw [allocateChannel, if_pos rfl, allocateXdmacChannel]
  split
  · rename_i hperipherals
    refine Or.inl ⟨rfl, rfl, fun hvalid => ?_⟩
    exact absurd hvalid.1 (not_or.mpr hperipherals)
  · split
    · rename_i hsource
      exact Or.inl ⟨rfl, rfl, fun hvalid => absurd (hvalid.2.1 hsource.1) hsource.2⟩
    · split
      · rename_i hdestination
        exact Or.inl ⟨rfl, rfl,
          fun hvalid => absurd (hvalid.2.2 hdestination.1) hdestination.2⟩
      · split
        · rename_i i hindex
          obtain ⟨hlt, hfree, hreply⟩ := freeIndex_cases hindex
          refine Or.inr ⟨BitVec.ofNat 8 i, hlt, hfree, hreply, rfl, fun c => ?_⟩
          rw [setChannel_state]
          by_cases hc : c = BitVec.ofNat 8 i
          · simp [hc, XdmadChannel.allocate]
          · simp [hc]
        · rename_i hnone
          exact Or.inl ⟨rfl, rfl, fun _ => freeIndex_eq_none hnone⟩

theorem handleChannel_sameFree {gis gs : BitVec 32} {status : ChannelStatus} {i : BitVec 8}
    {bExec bExec' : Bool} {d' : Xdmad} {calls : List CallbackCall}
    (h : handleChannel d gis gs status i bExec = some (.continued d' bExec' calls)) :
    SameFree d d' := by
  simp only [handleChannel] at h
  split at h
  · cases h
    exact sameFree_refl d
  · split at h
    · cases h
    · rename_i hstate
      split at h
      · split at h
        · cases h
          exact sameFree_setState hstate nofun
        · cases h
          exact sameFree_refl d
      · split at h
        · cases h
          exact sameFree_refl d
        · split at h
          · cases h
          · cases h
            exact sameFree_refl d

end Calls

/-- What a step does to the free channels, by the event it makes. -/
def Effect (d d' : Xdmad) : Option ChannelEvent → Prop
  | none => SameFree d d'
  | some (.allocated c) => d'.numChannels = d.numChannels ∧
      ∀ c', (d'.xdmaChannels c').state = .free ↔ c' ≠ c ∧ (d.xdmaChannels c').state = .free
  | some (.released c) => d'.numChannels = d.numChannels ∧
      ∀ c', (d'.xdmaChannels c').state = .free ↔ c' = c ∨ (d.xdmaChannels c').state = .free

section Steps
variable {board : Board} {s t : DriverState} {a : DriverAction}

theorem channelOf_setWidth (c : BitVec 8) : channelOf (c.setWidth 32) = c := by
  apply BitVec.eq_of_toNat_eq
  rw [channelOf, BitVec.toNat_setWidth, BitVec.toNat_setWidth]
  omega

theorem setWidth_ne_allocFailed (c : BitVec 8) : c.setWidth 32 ≠ xdmadAllocFailed := by
  intro h
  have hnat := congrArg BitVec.toNat h
  have hlt := c.isLt
  rw [BitVec.toNat_setWidth] at hnat
  change c.toNat % 2 ^ 32 = 65535 at hnat
  omega

theorem allocateChannel_effect (s : DriverState) (bSrcID bDstID : BitVec 8) :
    Effect s.driver (allocateChannel board .successful s.driver bSrcID bDstID).2
      (channelEvent board s (.allocateChannel bSrcID bDstID)) := by
  simp only [channelEvent]
  rcases allocateChannel_cases s.driver bSrcID bDstID with
    ⟨hfailed, hsame, _⟩ | ⟨c, _, _, hreply, hnum, hfree⟩
  · rw [if_pos hfailed, hsame]
    exact sameFree_refl s.driver
  · rw [hreply, if_neg (setWidth_ne_allocFailed c), channelOf_setWidth]
    exact ⟨hnum, hfree⟩

theorem freeChannel_effect (s : DriverState) (dwChannel : BitVec 32) :
    Effect s.driver (freeChannel s.driver dwChannel).driver
      (channelEvent board s (.freeChannel dwChannel)) := by
  simp only [channelEvent]
  rcases freeChannel_cases s.driver dwChannel with ⟨hresult, hsame⟩ | ⟨hresult, hnum, hfree⟩
  · rw [if_neg hresult, hsame]
    exact sameFree_refl s.driver
  · rw [if_pos hresult]
    exact ⟨hnum, hfree⟩

theorem enterHandler_driver (s : DriverState) (gis gs : BitVec 32) :
    (s.enterHandler gis gs).driver = s.driver := by
  unfold DriverState.enterHandler
  split
  · rfl
  · rfl

theorem enterHandler_initialized (s : DriverState) (gis gs : BitVec 32) :
    (s.enterHandler gis gs).initialized = s.initialized := by
  unfold DriverState.enterHandler
  split
  · rfl
  · rfl

theorem iterateHandler_sameFree {status : ChannelStatus}
    (h : iterateHandler s status = some t) :
    SameFree s.driver t.driver ∧ t.initialized = s.initialized := by
  unfold iterateHandler at h
  split at h
  · cases h
  · split at h
    · cases h
      exact ⟨sameFree_refl s.driver, rfl⟩
    · obtain ⟨iteration, hiteration, rfl⟩ := Option.map_eq_some_iff.mp h
      cases iteration with
      | returned => exact ⟨sameFree_refl s.driver, rfl⟩
      | continued driver bExec calls => exact ⟨handleChannel_sameFree hiteration, rfl⟩

theorem driverStep_initialized (hinit : s.initialized = true)
    (h : driverStep board s a = some t) : t.initialized = true := by
  cases a with
  | initializeAgain bPollingMode =>
      cases h
      rw [hinit, xdmadInitialize, if_pos rfl]
  | isTransferDone dwChannel gis gs =>
      cases h
      split
      · exact (enterHandler_initialized s gis gs).trans hinit
      · exact hinit
  | handler gis gs =>
      cases h
      exact (enterHandler_initialized s gis gs).trans hinit
  | iterate status => exact (iterateHandler_sameFree h).2.trans hinit
  | allocateChannel | freeChannel | setCallback | prepareChannel | configureTransfer
  | startTransfer | stopTransfer =>
      cases h
      exact hinit

/-- What each call does to the free channels. -/
theorem driverStep_effect (hinit : s.initialized = true) (hstop : StopsUsed s a)
    (h : driverStep board s a = some t) :
    Effect s.driver t.driver (channelEvent board s a) := by
  cases a with
  | initializeAgain bPollingMode =>
      cases h
      rw [hinit, xdmadInitialize, if_pos rfl]
      exact sameFree_refl s.driver
  | allocateChannel bSrcID bDstID =>
      cases h
      exact allocateChannel_effect s bSrcID bDstID
  | freeChannel dwChannel =>
      cases h
      exact freeChannel_effect s dwChannel
  | setCallback dwChannel fCallback pArg =>
      cases h
      exact setCallback_sameFree fCallback pArg
  | prepareChannel dwChannel =>
      cases h
      rw [prepareChannel_driver]
      exact sameFree_refl s.driver
  | configureTransfer dwChannel pXdmaParam dwXdmaDescCfg dwXdmaDescAddr dwXdmaIntEn =>
      cases h
      rw [configureTransfer_driver]
      exact sameFree_refl s.driver
  | startTransfer dwChannel =>
      cases h
      exact startTransfer_sameFree
  | stopTransfer dwChannel =>
      cases h
      exact stopTransfer_sameFree hstop
  | isTransferDone dwChannel gis gs =>
      cases h
      split
      · rw [enterHandler_driver]
        exact sameFree_refl s.driver
      · exact sameFree_refl s.driver
  | handler gis gs =>
      cases h
      rw [enterHandler_driver]
      exact sameFree_refl s.driver
  | iterate status => exact (iterateHandler_sameFree h).1

end Steps

/-- A channel is free exactly when it is not owned. -/
def FreeUnlessOwned (d : Xdmad) (events : List ChannelEvent) : Prop :=
  ∀ c < d.numChannels, (d.xdmaChannels c).state = .free ↔ ¬ Owned events c

section Ownership
variable {board : Board} {s : DriverState} {d d' : Xdmad} {events : List ChannelEvent}

theorem Effect.freeUnlessOwned {event : Option ChannelEvent} (h : Effect d d' event)
    (hfree : FreeUnlessOwned d events) : FreeUnlessOwned d' (events ++ event.toList) := by
  intro c hc
  match event, h with
  | none, h =>
      rw [h.numChannels] at hc
      rw [Option.toList_none, List.append_nil, h.free]
      exact hfree c hc
  | some (.allocated i), ⟨hnum, h⟩ =>
      rw [hnum] at hc
      rw [Option.toList_some, owned_concat, h, hfree c hc]
      simp [eq_comm]
  | some (.released i), ⟨hnum, h⟩ =>
      rw [hnum] at hc
      rw [Option.toList_some, owned_concat, h, hfree c hc]
      simp [eq_comm, imp_iff_or_not]

theorem FreeUnlessOwned.ownedExactly (h : FreeUnlessOwned s.driver events) :
    OwnedExactly board s events := by
  have hused : ∀ c < s.driver.numChannels,
      (s.driver.xdmaChannels c).state ≠ .free ↔ Owned events c :=
    fun c hc => (not_congr (h c hc)).trans not_not
  refine ⟨hused, ?_, ?_⟩
  · intro bSrcID bDstID hgranted
    rcases @allocateChannel_cases board s.driver bSrcID bDstID with
      ⟨hfailed, _⟩ | ⟨c, hc, hfree, hreply, _⟩
    · exact absurd hfailed hgranted
    · exact ⟨c, hc, (h c hc).mp hfree, hreply⟩
  · intro bSrcID bDstID hvalid hrefused c hc
    rcases @allocateChannel_cases board s.driver bSrcID bDstID with
      ⟨_, _, hnone⟩ | ⟨c, _, _, hreply, _⟩
    · exact (hused c hc).mp (hnone hvalid c hc)
    · exact absurd (hreply.symm.trans hrefused) (setWidth_ne_allocFailed c)

end Ownership

section Uninterrupted
variable {board : Board} {gis gs : BitVec 32} {statuses : BitVec 8 → ChannelStatus}
  {calls : List CallbackCall} {driver : Xdmad}

theorem run_iterations {channels : List (BitVec 8)} {bExec : Bool} {s : DriverState}
    {outer : List HandlerFrame} (hframe : s.handlers = ⟨gis, gs, channels, bExec⟩ :: outer)
    (h : handleChannels gis gs statuses channels s.driver bExec = some (driver, calls)) :
    ∃ read : List ChannelStatus, run (driverStep board) s (read.map .iterate) =
      some { s with driver, handlers := outer } := by
  induction channels generalizing s bExec calls with
  | nil =>
      cases h
      refine ⟨[⟨0, 0⟩], ?_⟩
      simp only [List.map_cons, List.map_nil, run, driverStep, iterateHandler, hframe,
        Option.bind_some]
  | cons i channels ih =>
      obtain ⟨iteration, hiteration, h⟩ := Option.bind_eq_some_iff.mp h
      cases iteration with
      | returned =>
          cases h
          refine ⟨[statuses i], ?_⟩
          simp only [List.map_cons, List.map_nil, run, driverStep, iterateHandler, hframe,
            hiteration, Option.map_some, Option.bind_some]
      | continued next bExec' called =>
          obtain ⟨handled, hhandled, h⟩ := Option.bind_eq_some_iff.mp h
          cases h
          obtain ⟨read, hread⟩ := ih (s := { s with
            driver := next, handlers := ⟨gis, gs, channels, bExec'⟩ :: outer }) rfl hhandled
          refine ⟨statuses i :: read, ?_⟩
          simp only [List.map_cons, run, driverStep, iterateHandler, hframe, hiteration,
            Option.map_some, Option.bind_some]
          exact hread

/-- A handler whose callbacks leave the driver alone, as a sequence of steps. -/
theorem uninterrupted_xdmadHandler {s : DriverState}
    (h : xdmadHandler s.driver gis gs statuses = some (driver, calls)) :
    ∃ read : List ChannelStatus, run (driverStep board) s (.handler gis gs :: read.map .iterate) =
      some { s with driver } := by
  simp only [run, driverStep, Option.bind_some, DriverState.enterHandler]
  unfold xdmadHandler at h
  split at h
  · rename_i hpending
    rw [if_pos hpending]
    obtain ⟨read, hread⟩ := run_iterations (s := { s with handlers :=
      ⟨gis, gs, s.driver.channelNumbers, false⟩ :: s.handlers }) rfl h
    exact ⟨read, hread⟩
  · rename_i hidle
    rw [if_neg hidle]
    cases h
    exact ⟨[], rfl⟩

end Uninterrupted

section Runs
variable {board : Board} {s t : DriverState} {as : List DriverAction}

theorem start_freeUnlessOwned (board : Board) (memory : Xdmad) (bPollingMode : BitVec 8) :
    FreeUnlessOwned (DriverState.start board memory bPollingMode).driver [] := by
  intro c hc
  refine iff_of_true ?_ ?_
  · exact congrArg XdmadChannel.state (if_pos hc)
  · rintro ⟨before, after, heq, _⟩
    exact List.append_ne_nil_of_right_ne_nil before (List.cons_ne_nil _ after) heq.symm

theorem run_freeUnlessOwned (hinit : s.initialized = true) (hfree : FreeUnlessOwned s.driver [])
    (hstop : Along (driverStep board) StopsUsed s as) (hr : run (driverStep board) s as = some t) :
    t.initialized = true ∧
      FreeUnlessOwned t.driver (outputs (driverStep board) (channelEvent board) s as) := by
  refine run_induction (I := fun as t => t.initialized = true ∧
    FreeUnlessOwned t.driver (outputs (driverStep board) (channelEvent board) s as)) hstop hr
    ⟨hinit, hfree⟩ ?_
  intro as t a u hr h hused hs
  obtain ⟨hinit, hfree⟩ := h
  rw [outputs_concat a hr]
  exact ⟨driverStep_initialized hinit hs, (driverStep_effect hinit hused hs).freeUnlessOwned hfree⟩

theorem ownedThroughout_of_stopsUsed (hinit : s.initialized = true)
    (hfree : FreeUnlessOwned s.driver []) (hstop : Along (driverStep board) StopsUsed s as) :
    OwnedThroughout board s as := by
  rintro bs ⟨rest, rfl⟩ t hr
  obtain ⟨hused, _⟩ := (along_append hr).mp hstop
  exact (run_freeUnlessOwned hinit hfree hused hr).2.ownedExactly

/-- After a free channel has been stopped, the channels are not owned exactly. -/
theorem stopsUsed_of_ownedExactly {a : DriverAction} {events : List ChannelEvent}
    (hbefore : OwnedExactly board s events) (hs : driverStep board s a = some t)
    (hafter : OwnedExactly board t (events ++ (channelEvent board s a).toList)) :
    StopsUsed s a := by
  cases a with
  | stopTransfer dwChannel =>
      intro hin hfree
      cases hs
      have hhalted := stopTransfer_halted hin
      have hnum : (stopTransfer s.driver dwChannel).driver.numChannels = s.driver.numChannels := by
        rw [stopTransfer, if_neg (BitVec.not_le.mpr hin)]
        rfl
      have hused := (hafter.used (channelOf dwChannel) (hnum ▸ hin)).mp (by rw [hhalted]; nofun)
      have hevent : channelEvent board s (.stopTransfer dwChannel) = none := rfl
      rw [hevent, Option.toList_none, List.append_nil] at hused
      exact (hbefore.used _ hin).mpr hused hfree
  | initializeAgain | allocateChannel | freeChannel | setCallback | prepareChannel
  | configureTransfer | startTransfer | isTransferDone | handler | iterate => trivial

theorem stopsUsed_of_ownedThroughout (howned : OwnedThroughout board s as)
    (hr : run (driverStep board) s as = some t) :
    Along (driverStep board) StopsUsed s as := by
  induction as using List.reverseRecOn generalizing t with
  | nil => trivial
  | append_singleton as a ih =>
      obtain ⟨u, hu, hs⟩ := run_concat_some.mp hr
      have hprefix : as <+: as ++ [a] := List.prefix_append as [a]
      have hbefore := howned as hprefix u hu
      have hafter := howned (as ++ [a]) (List.prefix_refl _) t hr
      rw [outputs_concat a hu] at hafter
      refine (along_append hu).mpr ⟨?_, stopsUsed_of_ownedExactly hbefore hs hafter, ?_⟩
      · exact ih (fun bs hbs => howned bs (hbs.trans hprefix)) hu
      · rw [hs]
        trivial

end Runs

/-- Channels are owned exactly between their allocation and their release in every run
that stops no free channel, and in no other. -/
theorem ownedThroughout_iff (board : Board) (memory : Xdmad) (bPollingMode : BitVec 8)
    (as : List DriverAction) (t : DriverState)
    (hr : run (driverStep board) (.start board memory bPollingMode) as = some t) :
    OwnedThroughout board (.start board memory bPollingMode) as ↔
      Along (driverStep board) StopsUsed (.start board memory bPollingMode) as :=
  ⟨fun h => stopsUsed_of_ownedThroughout h hr,
    ownedThroughout_of_stopsUsed rfl (start_freeUnlessOwned board memory bPollingMode)⟩

/-- A board with up to 32 channels, and an interface for each row of the table. -/
def boardWith (channels : BitVec 32) : Board where
  gtype := 0x002C0000#32 ||| (channels - 1#32)
  peripheralId
    | .spi0 => 21#32
    | _ => 99#32

def blankDriver : Xdmad := ⟨fun _ => .cleared, 0, 0, 0⟩

/-- A transfer from memory that ends in an interrupt, and the release of its channel. -/
def wholeTransfer : List DriverAction :=
  [.allocateChannel 0xFF#8 21#8, .prepareChannel 0#32, .startTransfer 0#32,
    .handler 0x1#32 0#32, .iterate ⟨0x1#32, 0x1#32⟩, .freeChannel 0#32]

theorem ownedThroughout_wholeTransfer : ∃ t,
    run (driverStep (boardWith 24)) (.start (boardWith 24) blankDriver 0) wholeTransfer = some t ∧
    outputs (driverStep (boardWith 24)) (channelEvent (boardWith 24))
      (.start (boardWith 24) blankDriver 0) wholeTransfer = [.allocated 0#8, .released 0#8] ∧
    OwnedThroughout (boardWith 24) (.start (boardWith 24) blankDriver 0) wholeTransfer :=
  ⟨_, rfl, by decide, (ownedThroughout_iff (boardWith 24) blankDriver 0 wholeTransfer _ rfl).mpr
    (by decide)⟩

/-- The only channel is stopped before anybody was given it. -/
def stoppedFree : List DriverAction := [.stopTransfer 0#32]

/-- Nobody owns the channel, and an allocation fails. -/
theorem not_ownedThroughout_stoppedFree : ∃ t,
    run (driverStep (boardWith 1)) (.start (boardWith 1) blankDriver 0) stoppedFree = some t ∧
    t.driver.numChannels = 1#8 ∧ (t.driver.xdmaChannels 0#8).state = .halted ∧
    (allocateChannel (boardWith 1) .successful t.driver 0xFF#8 21#8).1 = xdmadAllocFailed ∧
    ¬ OwnedThroughout (boardWith 1) (.start (boardWith 1) blankDriver 0) stoppedFree := by
  refine ⟨_, rfl, rfl, rfl, by decide, fun h => ?_⟩
  have hused := (h stoppedFree (List.prefix_refl _) _ rfl).used 0#8 (by decide)
  obtain ⟨before, after, heq, _⟩ := hused.mp (by decide)
  exact List.append_ne_nil_of_right_ne_nil before (List.cons_ne_nil _ after) heq.symm

end SamV71Runtime.XdmaDriver
