import SamV71Runtime.CriticalSection
import SamV71Runtime.XdmadLifecycle

/-!
# Threads that allocate DMA channels

`XDMAD_Initialize` and `XDMAD_AllocateChannel` are executed under `xdmad_lock`, by any number
of threads and one statement a step. The other calls and the handler take no lock: they are
steps of their own, and come between any two statements.
-/
namespace SamV71Runtime.XdmaDriver
open CriticalSection KeyedLog Runs

/-- A store to a field of the driver, its channels apart. -/
inductive DriverStore where
  | pollingMode (value : BitVec 8)
  | numControllers (value : BitVec 8)
  | numChannels (value : BitVec 8)

def DriverStore.apply (pXdmad : Xdmad) : DriverStore → Xdmad
  | .pollingMode value => { pXdmad with pollingMode := value }
  | .numControllers value => { pXdmad with numControllers := value }
  | .numChannels value => { pXdmad with numChannels := value }

/-- A store to a field of a channel's record. -/
inductive ChannelStore where
  | fCallback (value : BitVec 32)
  | pArg (value : BitVec 32)
  | bIrqOwner (value : BitVec 8)
  | bSrcPeriphID (value : BitVec 8)
  | bDstPeriphID (value : BitVec 8)
  | bSrcTxIfID (value : BitVec 8)
  | bSrcRxIfID (value : BitVec 8)
  | bDstTxIfID (value : BitVec 8)
  | bDstRxIfID (value : BitVec 8)
  | state (value : XdmadState)
  deriving DecidableEq

def ChannelStore.apply (channel : XdmadChannel) : ChannelStore → XdmadChannel
  | .fCallback value => { channel with fCallback := value }
  | .pArg value => { channel with pArg := value }
  | .bIrqOwner value => { channel with bIrqOwner := value }
  | .bSrcPeriphID value => { channel with bSrcPeriphID := value }
  | .bDstPeriphID value => { channel with bDstPeriphID := value }
  | .bSrcTxIfID value => { channel with bSrcTxIfID := value }
  | .bSrcRxIfID value => { channel with bSrcRxIfID := value }
  | .bDstTxIfID value => { channel with bDstTxIfID := value }
  | .bDstRxIfID value => { channel with bDstRxIfID := value }
  | .state value => { channel with state := value }

/-- The stores of `XDMAD_Initialize` ahead of its loop. -/
def configurationStores (board : Board) (bPollingMode : BitVec 8) : List DriverStore :=
  [.pollingMode bPollingMode, .numControllers 1#8,
    .numChannels ((board.gtype &&& 0x1F#32).setWidth 8 + 1#8)]

/-- The body of that loop. -/
def clearingStores : List ChannelStore :=
  [.fCallback 0, .pArg 0, .bIrqOwner 0, .bSrcPeriphID 0, .bDstPeriphID 0, .bSrcTxIfID 0,
    .bSrcRxIfID 0, .bDstTxIfID 0, .bDstRxIfID 0, .state .free]

/-- What is stored for the channel that `XDMAD_AllocateXdmacChannel` found. -/
def allocationStores (board : Board) (bSrcID bDstID : BitVec 8) : List ChannelStore :=
  [.state .allocated, .bSrcPeriphID bSrcID, .bDstPeriphID bDstID,
    .bSrcTxIfID (xdmaifGetChannelNumber board bSrcID 0),
    .bSrcRxIfID (xdmaifGetChannelNumber board bSrcID 1),
    .bDstTxIfID (xdmaifGetChannelNumber board bDstID 0),
    .bDstRxIfID (xdmaifGetChannelNumber board bDstID 1)]

inductive LockedCall where
  | initializeDriver (bPollingMode : BitVec 8)
  | allocateChannel (bSrcID bDstID : BitVec 8)

/-- Where a thread is, with the locals of its call. -/
inductive LockPoint where
  | outside
  | obtaining (call : LockedCall)
  | checking (bPollingMode : BitVec 8)
  | configuring (stores : List DriverStore)
  | clearing (j : ℕ)
  | clearingChannel (j : ℕ) (stores : List ChannelStore)
  | finishing
  | leaving
  | validating (bSrcID bDstID : BitVec 8)
  | scanning (bSrcID bDstID : BitVec 8) (i : ℕ)
  | storing (bSrcID bDstID : BitVec 8) (i : ℕ) (stores : List ChannelStore)
  | returning (bSrcID bDstID : BitVec 8) (dwChannel : BitVec 32)

/-- `owner` is the thread that holds `xdmad_lock`. -/
structure LockState (Tid : Type*) extends DriverState where
  owner : Option Tid
  points : Tid → LockPoint

/-- Nothing has been initialized; the memory may hold anything. -/
def LockState.start {Tid : Type*} (memory : Xdmad) : LockState Tid where
  initialized := false
  driver := memory
  handlers := []
  owner := none
  points _ := .outside

/-- `obtainResult` is what `rtems_semaphore_obtain` returns. -/
inductive LockAction (Tid : Type*) where
  | call (tid : Tid) (call : LockedCall)
  | obtain (tid : Tid) (obtainResult : RtemsStatusCode)
  | statement (tid : Tid)
  | other (a : DriverAction)

/-- The checks of `XDMAD_AllocateXdmacChannel` ahead of its loop. -/
def afterValidation (board : Board) (bSrcID bDstID : BitVec 8) : LockPoint :=
  if bSrcID ≠ xdmadTransferMemory ∧ bDstID ≠ xdmadTransferMemory then
    .returning bSrcID bDstID xdmadAllocFailed
  else if bDstID = xdmadTransferMemory ∧ ¬ xdmaifIsValidatedPeripherOnDma board bSrcID then
    .returning bSrcID bDstID xdmadAllocFailed
  else if bSrcID = xdmadTransferMemory ∧ ¬ xdmaifIsValidatedPeripherOnDma board bDstID then
    .returning bSrcID bDstID xdmadAllocFailed
  else .scanning bSrcID bDstID 0

/-- The condition of the loop, and the test of the channel's state. -/
def afterScan (board : Board) (pXdmad : Xdmad) (bSrcID bDstID : BitVec 8) (i : ℕ) : LockPoint :=
  if i < pXdmad.numChannels.toNat then
    if (pXdmad.xdmaChannels (BitVec.ofNat 8 i)).state = .free then
      .storing bSrcID bDstID i (allocationStores board bSrcID bDstID)
    else .scanning bSrcID bDstID (i + 1)
  else .returning bSrcID bDstID xdmadAllocFailed

section Steps
variable {Tid : Type*} [DecidableEq Tid]

def LockState.goto (s : LockState Tid) (tid : Tid) (point : LockPoint) : LockState Tid :=
  { s with points := Function.update s.points tid point }

def LockState.store (s : LockState Tid) (j : ℕ) (store : ChannelStore) : LockState Tid :=
  let channel := store.apply (s.driver.xdmaChannels (BitVec.ofNat 8 j))
  { s with driver := s.driver.setChannel (BitVec.ofNat 8 j) channel }

/-- The semaphore is given to one thread at a time. -/
def LockState.acquire (s : LockState Tid) (tid : Tid) (point : LockPoint) :
    Option (LockState Tid) :=
  match s.owner with
  | none => some ({ s with owner := some tid }.goto tid point)
  | some _ => none

/-- `XDMAD_Initialize` waits for as long as it takes, `XDMAD_AllocateChannel` gives up. -/
def lockObtain (s : LockState Tid) (tid : Tid) (obtainResult : RtemsStatusCode) :
    Option (LockState Tid) :=
  match s.points tid with
  | .obtaining (.initializeDriver bPollingMode) =>
      if obtainResult = .successful then s.acquire tid (.checking bPollingMode) else none
  | .obtaining (.allocateChannel bSrcID bDstID) =>
      if obtainResult = .successful then s.acquire tid (.validating bSrcID bDstID)
      else some (s.goto tid .outside)
  | _ => none

def lockStatement (board : Board) (s : LockState Tid) (tid : Tid) : Option (LockState Tid) :=
  match s.points tid with
  | .outside | .obtaining _ => none
  | .checking bPollingMode =>
      some (s.goto tid (if s.initialized then .leaving
        else .configuring (configurationStores board bPollingMode)))
  | .configuring [] => some (s.goto tid (.clearing 0))
  | .configuring (store :: stores) =>
      some ({ s with driver := store.apply s.driver }.goto tid (.configuring stores))
  | .clearing j =>
      some (s.goto tid (if j < s.driver.numChannels.toNat then .clearingChannel j clearingStores
        else .finishing))
  | .clearingChannel j [] => some (s.goto tid (.clearing (j + 1)))
  | .clearingChannel j (store :: stores) =>
      some ((s.store j store).goto tid (.clearingChannel j stores))
  | .finishing => some ({ s with initialized := true }.goto tid .leaving)
  | .leaving => some ({ s with owner := none }.goto tid .outside)
  | .validating bSrcID bDstID => some (s.goto tid (afterValidation board bSrcID bDstID))
  | .scanning bSrcID bDstID i => some (s.goto tid (afterScan board s.driver bSrcID bDstID i))
  | .storing bSrcID bDstID i [] =>
      some (s.goto tid (.returning bSrcID bDstID (BitVec.ofNat 32 i &&& 0xFF#32)))
  | .storing bSrcID bDstID i (store :: stores) =>
      some ((s.store i store).goto tid (.storing bSrcID bDstID i stores))
  | .returning _ _ _ => some ({ s with owner := none }.goto tid .outside)

/-- The calls that take the lock are not made in one step. -/
def DriverAction.Unlocked : DriverAction → Prop
  | .initializeAgain _ | .allocateChannel _ _ => False
  | _ => True

instance : (a : DriverAction) → Decidable a.Unlocked
  | .initializeAgain _ | .allocateChannel _ _ => inferInstanceAs (Decidable False)
  | .freeChannel _ | .setCallback _ _ _ | .prepareChannel _ | .configureTransfer _ _ _ _ _
  | .startTransfer _ | .stopTransfer _ | .isTransferDone _ _ _ | .handler _ _ | .iterate _ =>
      inferInstanceAs (Decidable True)

def lockStep (board : Board) (s : LockState Tid) : LockAction Tid → Option (LockState Tid)
  | .call tid call =>
      match s.points tid with
      | .outside => some (s.goto tid (.obtaining call))
      | _ => none
  | .obtain tid obtainResult => lockObtain s tid obtainResult
  | .statement tid => lockStatement board s tid
  | .other a =>
      if a.Unlocked then
        (driverStep board s.toDriverState a).map fun d => { s with toDriverState := d }
      else none

/-- A channel that a thread was given, and what for. -/
structure Grant (Tid : Type*) where
  tid : Tid
  bSrcID : BitVec 8
  bDstID : BitVec 8
  deriving DecidableEq

/-- A channel is given to a thread, or freed. -/
def lockEvent (s : LockState Tid) : LockAction Tid → Option (BitVec 8 × Option (Grant Tid))
  | .statement tid =>
      match s.points tid with
      | .returning bSrcID bDstID dwChannel =>
          if dwChannel = xdmadAllocFailed then none
          else some (channelOf dwChannel, some ⟨tid, bSrcID, bDstID⟩)
      | _ => none
  | .other (.freeChannel dwChannel) =>
      if (freeChannel s.driver dwChannel).result = .ok then some (channelOf dwChannel, none)
      else none
  | _ => none

end Steps

/-- The fields that an allocation fills in, in the order of its stores. -/
def XdmadChannel.identifiers (channel : XdmadChannel) : List (BitVec 8) :=
  [channel.bSrcPeriphID, channel.bDstPeriphID, channel.bSrcTxIfID, channel.bSrcRxIfID,
    channel.bDstTxIfID, channel.bDstRxIfID]

def requestedIdentifiers (board : Board) (bSrcID bDstID : BitVec 8) : List (BitVec 8) :=
  (XdmadChannel.allocate board .cleared bSrcID bDstID).identifiers

/-- Who was given the channel last, if it has not been freed since. -/
def holder {Tid : Type*} (events : List (BitVec 8 × Option (Grant Tid))) (iChannel : BitVec 8) :
    Option (Grant Tid) :=
  (last events iChannel).join

namespace LockPoint

/-- Between the two calls of RTEMS that obtain and release the lock. -/
def Inside : LockPoint → Prop
  | .outside | .obtaining _ => False
  | _ => True

/-- In `XDMAD_Initialize`, where it changes the driver. -/
def Initializes : LockPoint → Prop
  | .configuring _ | .clearing _ | .clearingChannel _ _ | .finishing => True
  | _ => False

/-- In `XDMAD_AllocateChannel`. -/
def Allocates : LockPoint → Prop
  | .obtaining (.allocateChannel _ _) | .validating _ _ | .scanning _ _ _ | .storing _ _ _ _
  | .returning _ _ _ => True
  | _ => False

/-- The channel that the thread is about to be given. -/
def claim : LockPoint → Option (BitVec 8)
  | .storing _ _ i _ => some (BitVec.ofNat 8 i)
  | .returning _ _ dwChannel =>
      if dwChannel = xdmadAllocFailed then none else some (channelOf dwChannel)
  | _ => none

end LockPoint

/-- Threads allocate after the driver has been initialized, and a channel is not freed before it
has been returned. -/
def InContract {Tid : Type*} (s : LockState Tid) : LockAction Tid → Prop
  | .call _ (.allocateChannel _ _) => s.initialized = true
  | .other (.freeChannel dwChannel) =>
      (s.owner.bind fun tid => (s.points tid).claim) ≠ some (channelOf dwChannel)
  | _ => True

instance {Tid : Type*} (s : LockState Tid) : (a : LockAction Tid) → Decidable (InContract s a)
  | .call _ (.allocateChannel _ _) => inferInstanceAs (Decidable (s.initialized = true))
  | .other (.freeChannel dwChannel) => inferInstanceAs (Decidable
      ((s.owner.bind fun tid => (s.points tid).claim) ≠ some (channelOf dwChannel)))
  | .call _ (.initializeDriver _) | .obtain _ _ | .statement _ | .other (.initializeAgain _)
  | .other (.allocateChannel _ _) | .other (.setCallback _ _ _) | .other (.prepareChannel _)
  | .other (.configureTransfer _ _ _ _ _) | .other (.startTransfer _) | .other (.stopTransfer _)
  | .other (.isTransferDone _ _ _) | .other (.handler _ _) | .other (.iterate _) =>
      inferInstanceAs (Decidable True)

/-- The record of a channel is taken, with the fields of this request. -/
def XdmadChannel.TakenFor (channel : XdmadChannel) (board : Board) (bSrcID bDstID : BitVec 8) :
    Prop :=
  channel.state ≠ .free ∧ channel.identifiers = requestedIdentifiers board bSrcID bDstID

section Invariant
variable {Tid : Type*}

/-- What a thread knows of the channel it is about to be given: nobody holds it, and once the
remaining stores are made its record is that of the request. -/
def Claims (board : Board) (driver : Xdmad) (events : List (BitVec 8 × Option (Grant Tid))) :
    LockPoint → Prop
  | .storing bSrcID bDstID i stores =>
      holder events (BitVec.ofNat 8 i) = none ∧ (∀ store ∈ stores, store ≠ .state .free) ∧
        (stores = allocationStores board bSrcID bDstID ∨
          (driver.xdmaChannels (BitVec.ofNat 8 i)).state ≠ .free) ∧
        (stores.foldl ChannelStore.apply (driver.xdmaChannels (BitVec.ofNat 8 i))).identifiers =
          requestedIdentifiers board bSrcID bDstID
  | .returning bSrcID bDstID dwChannel => dwChannel ≠ xdmadAllocFailed →
      holder events (channelOf dwChannel) = none ∧
        (driver.xdmaChannels (channelOf dwChannel)).TakenFor board bSrcID bDstID
  | _ => True

/-- What holds between any two statements. -/
structure Guarded (board : Board) (s : LockState Tid)
    (events : List (BitVec 8 × Option (Grant Tid))) : Prop where
  lock : Guards LockPoint.Inside s.owner s.points
  blank : s.initialized = false → ∀ c, holder events c = none
  allocating : ∀ tid, (s.points tid).Allocates → s.initialized = true
  initializing : ∀ tid, (s.points tid).Initializes → s.initialized = false
  claims : ∀ tid, Claims board s.driver events (s.points tid)
  taken : ∀ c grant, holder events c = some grant →
    (s.driver.xdmaChannels c).TakenFor board grant.bSrcID grant.bDstID
  fresh : ∀ before c grant, before ++ [(c, some grant)] <+: events → holder before c = none

end Invariant

section Stores
variable {board : Board} {channel : XdmadChannel} {bSrcID bDstID : BitVec 8}

theorem clearingStores_apply : clearingStores.foldl ChannelStore.apply channel = .cleared := rfl

theorem allocationStores_not_free :
    ∀ store ∈ allocationStores board bSrcID bDstID, store ≠ .state .free := by
  intro store hstore
  simp only [allocationStores, List.mem_cons, List.not_mem_nil, or_false] at hstore
  rcases hstore with rfl | rfl | rfl | rfl | rfl | rfl | rfl
  all_goals nofun

theorem apply_state {store : ChannelStore} (hstore : store ≠ .state .free)
    (hstate : channel.state ≠ .free) : (store.apply channel).state ≠ .free := by
  cases store with
  | state value => exact fun h => hstore (congrArg ChannelStore.state h)
  | fCallback | pArg | bIrqOwner | bSrcPeriphID | bDstPeriphID | bSrcTxIfID | bSrcRxIfID
  | bDstTxIfID | bDstRxIfID => exact hstate

/-- What a store leaves in these fields depends on nothing else. -/
theorem apply_identifiers (store : ChannelStore) {other : XdmadChannel}
    (h : other.identifiers = channel.identifiers) :
    (store.apply other).identifiers = (store.apply channel).identifiers := by
  simp only [XdmadChannel.identifiers, List.cons.injEq, and_true] at h
  obtain ⟨hsrc, hdst, hsrcTx, hsrcRx, hdstTx, hdstRx⟩ := h
  cases store with
  | fCallback | pArg | bIrqOwner | bSrcPeriphID | bDstPeriphID | bSrcTxIfID | bSrcRxIfID
  | bDstTxIfID | bDstRxIfID | state =>
      simp only [ChannelStore.apply, XdmadChannel.identifiers, hsrc, hdst, hsrcTx, hsrcRx, hdstTx,
        hdstRx]

theorem foldl_apply_identifiers (stores : List ChannelStore) {other : XdmadChannel}
    (h : other.identifiers = channel.identifiers) :
    (stores.foldl ChannelStore.apply other).identifiers =
      (stores.foldl ChannelStore.apply channel).identifiers := by
  induction stores generalizing other channel with
  | nil => exact h
  | cons store stores ih => exact ih (apply_identifiers store h)

end Stores

section Others
variable {board : Board} {d d' : Xdmad} {dwChannel : BitVec 32}

/-- What the calls without the lock leave as it is: no channel becomes free but the one that is
freed, and the fields of the allocations stay. -/
structure Undisturbed (d d' : Xdmad) (freed : Option (BitVec 8)) : Prop where
  used : ∀ c, freed ≠ some c → (d.xdmaChannels c).state ≠ .free → (d'.xdmaChannels c).state ≠ .free
  identifiers : ∀ c, (d'.xdmaChannels c).identifiers = (d.xdmaChannels c).identifiers

theorem undisturbed_refl (d : Xdmad) (freed : Option (BitVec 8)) : Undisturbed d d freed :=
  ⟨fun _ _ h => h, fun _ => rfl⟩

theorem undisturbed_setChannel {i : BitVec 8} {channel : XdmadChannel} {freed : Option (BitVec 8)}
    (hused : freed ≠ some i → (d.xdmaChannels i).state ≠ .free → channel.state ≠ .free)
    (hids : channel.identifiers = (d.xdmaChannels i).identifiers) :
    Undisturbed d (d.setChannel i channel) freed := by
  constructor
  · intro c hfreed hstate
    dsimp only [Xdmad.setChannel]
    by_cases hc : c = i
    · subst hc
      rw [Function.update_self]
      exact hused hfreed hstate
    · rw [Function.update_of_ne hc]
      exact hstate
  · intro c
    dsimp only [Xdmad.setChannel]
    by_cases hc : c = i
    · subst hc
      rw [Function.update_self]
      exact hids
    · rw [Function.update_of_ne hc]

theorem undisturbed_setState {i : BitVec 8} {state : XdmadState} (hstate : state ≠ .free) :
    Undisturbed d (d.setState i state) none :=
  undisturbed_setChannel (fun _ _ => hstate) rfl

theorem freeChannel_undisturbed : Undisturbed d (freeChannel d dwChannel).driver
    (if (freeChannel d dwChannel).result = .ok then some (channelOf dwChannel) else none) := by
  unfold freeChannel
  split
  · exact undisturbed_refl d _
  · split
    · exact undisturbed_refl d _
    · exact undisturbed_refl d _
    · exact undisturbed_refl d _
    · exact undisturbed_setChannel (fun hfreed => absurd rfl hfreed) rfl
    · exact undisturbed_setChannel (fun hfreed => absurd rfl hfreed) rfl
    · exact undisturbed_refl d _

theorem setCallback_undisturbed (fCallback pArg : BitVec 32) :
    Undisturbed d (setCallback d dwChannel fCallback pArg).driver none := by
  unfold setCallback
  split
  · exact undisturbed_refl d none
  · split
    · exact undisturbed_refl d none
    · exact undisturbed_refl d none
    all_goals exact undisturbed_setChannel (fun _ h => h) rfl

theorem startTransfer_undisturbed : Undisturbed d (startTransfer d dwChannel).driver none := by
  unfold startTransfer
  split
  · exact undisturbed_refl d none
  · split
    · exact undisturbed_refl d none
    · exact undisturbed_refl d none
    all_goals exact undisturbed_setState nofun

theorem stopTransfer_undisturbed : Undisturbed d (stopTransfer d dwChannel).driver none := by
  unfold stopTransfer
  split
  · exact undisturbed_refl d none
  · exact undisturbed_setState nofun

theorem iterateHandler_undisturbed {s t : DriverState} {status : ChannelStatus}
    (h : iterateHandler s status = some t) : Undisturbed s.driver t.driver none := by
  unfold iterateHandler at h
  split at h
  · cases h
  · split at h
    · cases h
      exact undisturbed_refl s.driver none
    · obtain ⟨iteration, hiteration, rfl⟩ := Option.map_eq_some_iff.mp h
      cases iteration with
      | returned => exact undisturbed_refl s.driver none
      | continued driver bExec calls =>
          rcases handleChannel_cases hiteration with ⟨_, rfl⟩ | ⟨_, rfl⟩
          · exact undisturbed_setState nofun
          · exact undisturbed_refl s.driver none

/-- The channel that a step frees. -/
def freedChannel (s : DriverState) : DriverAction → Option (BitVec 8)
  | .freeChannel dwChannel =>
      if (freeChannel s.driver dwChannel).result = .ok then some (channelOf dwChannel) else none
  | _ => none

theorem driverStep_undisturbed {s t : DriverState} {a : DriverAction} (ha : a.Unlocked)
    (h : driverStep board s a = some t) :
    t.initialized = s.initialized ∧ Undisturbed s.driver t.driver (freedChannel s a) := by
  cases a with
  | initializeAgain | allocateChannel => cases ha
  | freeChannel dwChannel =>
      cases h
      exact ⟨rfl, freeChannel_undisturbed⟩
  | setCallback dwChannel fCallback pArg =>
      cases h
      exact ⟨rfl, setCallback_undisturbed fCallback pArg⟩
  | prepareChannel dwChannel =>
      cases h
      rw [prepareChannel_driver]
      exact ⟨rfl, undisturbed_refl s.driver none⟩
  | configureTransfer dwChannel pXdmaParam dwXdmaDescCfg dwXdmaDescAddr dwXdmaIntEn =>
      cases h
      rw [configureTransfer_driver]
      exact ⟨rfl, undisturbed_refl s.driver none⟩
  | startTransfer dwChannel =>
      cases h
      exact ⟨rfl, startTransfer_undisturbed⟩
  | stopTransfer dwChannel =>
      cases h
      exact ⟨rfl, stopTransfer_undisturbed⟩
  | isTransferDone dwChannel gis gs =>
      cases h
      split
      · rw [enterHandler_driver]
        exact ⟨enterHandler_initialized s gis gs, undisturbed_refl s.driver none⟩
      · exact ⟨rfl, undisturbed_refl s.driver none⟩
  | handler gis gs =>
      cases h
      rw [enterHandler_driver]
      exact ⟨enterHandler_initialized s gis gs, undisturbed_refl s.driver none⟩
  | iterate status => exact ⟨(iterateHandler_sameFree h).2, iterateHandler_undisturbed h⟩

end Others

section Points
variable {Tid : Type*} {point : LockPoint}

theorem LockPoint.Initializes.inside (h : point.Initializes) : point.Inside := by
  cases point with
  | configuring | clearing | clearingChannel | finishing => trivial
  | outside | obtaining | checking | leaving | validating | scanning | storing | returning => cases h

theorem LockPoint.Initializes.not_allocates (h : point.Initializes) : ¬ point.Allocates := by
  cases point with
  | configuring | clearing | clearingChannel | finishing => exact id
  | outside | obtaining | checking | leaving | validating | scanning | storing | returning => cases h

theorem LockPoint.Initializes.claims {board : Board} {driver : Xdmad}
    {events : List (BitVec 8 × Option (Grant Tid))} (h : point.Initializes) :
    Claims board driver events point := by
  cases point with
  | configuring | clearing | clearingChannel | finishing => trivial
  | outside | obtaining | checking | leaving | validating | scanning | storing | returning => cases h

end Points

section Guards
variable {Tid : Type*} {board : Board} {s : LockState Tid}
  {events : List (BitVec 8 × Option (Grant Tid))} {tid : Tid} {point : LockPoint}

theorem holder_concat (events : List (BitVec 8 × Option (Grant Tid)))
    (e : BitVec 8 × Option (Grant Tid)) (c : BitVec 8) :
    holder (events ++ [e]) c = if e.1 = c then e.2 else holder events c := by
  rw [holder, last_append, last_singleton]
  by_cases hc : e.1 = c
  · rw [if_pos hc, if_pos hc]
    rfl
  · rw [if_neg hc, if_neg hc, Option.none_or]
    rfl

theorem claims_of_not_inside {driver : Xdmad} (h : ¬ point.Inside) :
    Claims board driver events point := by
  cases point with
  | storing | returning => exact absurd trivial h
  | outside | obtaining | checking | configuring | clearing | clearingChannel | finishing | leaving
  | validating | scanning => trivial

theorem Guarded.others_outside (h : Guarded board s events) (hinside : (s.points tid).Inside)
    {j : Tid} (hj : j ≠ tid) : ¬ (s.points j).Inside :=
  fun hboth => hj (h.lock.alone hboth hinside)

theorem Guarded.store_untaken (h : Guarded board s events) {i : ℕ} {store : ChannelStore}
    (huntaken : holder events (BitVec.ofNat 8 i) = none) :
    ∀ c grant, holder events c = some grant →
      ((s.store i store).driver.xdmaChannels c).TakenFor board grant.bSrcID grant.bDstID := by
  intro c grant hgrant
  have hc : c ≠ BitVec.ofNat 8 i := by
    rintro rfl
    rw [huntaken] at hgrant
    cases hgrant
  rw [show (s.store i store).driver.xdmaChannels c = s.driver.xdmaChannels c from
    Function.update_of_ne hc ..]
  exact h.taken c grant hgrant

/-- Nothing is written down. -/
theorem Guarded.silent (h : Guarded board s events) : Guarded board s
    (events ++ (none : Option (BitVec 8 × Option (Grant Tid))).toList) := by
  rw [Option.toList_none, List.append_nil]
  exact h

theorem start_guarded (board : Board) (memory : Xdmad) :
    Guarded board (LockState.start memory : LockState Tid) [] where
  lock _ := iff_of_false id (Option.some_ne_none _).symm
  blank _ _ := rfl
  allocating _ := False.elim
  initializing _ := False.elim
  claims _ := trivial
  taken _ _ h := by cases h
  fresh before c grant h := by
    have hnil := List.prefix_nil.mp h
    exact absurd hnil (List.append_ne_nil_of_right_ne_nil before (List.cons_ne_nil _ _))

theorem holder_freed (events : List (BitVec 8 × Option (Grant Tid))) (freed : Option (BitVec 8))
    (c : BitVec 8) :
    holder (events ++ (freed.map fun i => (i, none)).toList) c =
      if freed = some c then none else holder events c := by
  cases freed with
  | none => exact (congrArg (fun l => holder l c) (List.append_nil events))
  | some i =>
      rw [Option.map_some, Option.toList_some, holder_concat]
      by_cases hi : i = c
      · rw [if_pos hi, if_pos (congrArg some hi)]
      · rw [if_neg hi, if_neg fun h => hi (Option.some.inj h)]

/-- The claim of a thread survives a step that frees another channel. -/
theorem Claims.undisturbed {d d' : Xdmad} {freed : Option (BitVec 8)} {point : LockPoint}
    (h : Claims board d events point) (hd : Undisturbed d d' freed)
    (hfreed : ∀ c, point.claim = some c → freed ≠ some c) :
    Claims board d' (events ++ (freed.map fun i => (i, none)).toList) point := by
  cases point with
  | storing bSrcID bDstID i stores =>
      obtain ⟨huntaken, hstores, hstate, hids⟩ := h
      have hother := hfreed _ rfl
      refine ⟨?_, hstores, hstate.imp id (hd.used _ hother), ?_⟩
      · rw [holder_freed, huntaken, ite_self]
      · rw [foldl_apply_identifiers stores (hd.identifiers _)]
        exact hids
  | returning bSrcID bDstID dwChannel =>
      intro hgiven
      obtain ⟨huntaken, hused, hids⟩ := h hgiven
      have hother := hfreed _ (if_neg hgiven)
      refine ⟨?_, hd.used _ hother hused, (hd.identifiers _).trans hids⟩
      rw [holder_freed, huntaken, ite_self]
  | outside | obtaining | checking | configuring | clearing | clearingChannel | finishing | leaving
  | validating | scanning => trivial

theorem Guarded.undisturbed (h : Guarded board s events) {d : DriverState}
    {freed : Option (BitVec 8)} (hinit : d.initialized = s.initialized)
    (hd : Undisturbed s.driver d.driver freed)
    (hfreed : ∀ c, (s.owner.bind fun tid => (s.points tid).claim) = some c → freed ≠ some c) :
    Guarded board { s with toDriverState := d }
      (events ++ (freed.map fun i => (i, none)).toList) := by
  refine ⟨h.lock, ?_, ?_, ?_, ?_, ?_, ?_⟩
  · intro hnot c
    rw [holder_freed, h.blank (hinit.symm.trans hnot), ite_self]
  · exact fun tid halloc => hinit.trans (h.allocating tid halloc)
  · exact fun tid hinits => hinit.trans (h.initializing tid hinits)
  · intro tid
    refine (h.claims tid).undisturbed hd fun c hclaim => hfreed c ?_
    -- only the owner of the lock has a claim
    have hinside : (s.points tid).Inside := by
      by_contra hnot
      cases hpoint : s.points tid with
      | storing | returning => exact hnot (by rw [hpoint]; trivial)
      | outside | obtaining | checking | configuring | clearing | clearingChannel | finishing
      | leaving | validating | scanning =>
          rw [hpoint] at hclaim
          cases hclaim
    rw [(h.lock tid).mp hinside]
    exact hclaim
  · intro c grant hgrant
    rw [holder_freed] at hgrant
    split at hgrant
    · cases hgrant
    · rename_i hother
      obtain ⟨hused, hids⟩ := h.taken c grant hgrant
      exact ⟨hd.used c hother hused, (hd.identifiers c).trans hids⟩
  · intro before c grant hprefix
    cases freed with
    | none =>
        rw [Option.map_none, Option.toList_none, List.append_nil] at hprefix
        exact h.fresh before c grant hprefix
    | some i =>
        rcases List.prefix_concat_iff.mp hprefix with heq | hearlier
        · obtain ⟨_, hlast⟩ := List.append_inj' heq rfl
          cases hlast
        · exact h.fresh before c grant hearlier

theorem lockEvent_other (s : LockState Tid) (a : DriverAction) :
    lockEvent s (.other a) = (freedChannel s.toDriverState a).map fun i => (i, none) := by
  cases a with
  | freeChannel dwChannel =>
      simp only [lockEvent, freedChannel]
      split
      · rfl
      · rfl
  | initializeAgain | allocateChannel | setCallback | prepareChannel | configureTransfer
  | startTransfer | stopTransfer | isTransferDone | handler | iterate => rfl

variable [DecidableEq Tid]

/-- A thread moves on and leaves the driver as it is. -/
theorem Guarded.goto (h : Guarded board s events) (hinside : point.Inside ↔ (s.points tid).Inside)
    (hallocates : point.Allocates → s.initialized = true)
    (hinitializes : point.Initializes → s.initialized = false)
    (hclaims : Claims board s.driver events point) : Guarded board (s.goto tid point) events where
  lock := h.lock.move hinside
  blank := h.blank
  allocating := (Function.forall_update_iff s.points
    fun _ point => point.Allocates → s.initialized = true).mpr
    ⟨hallocates, fun j _ => h.allocating j⟩
  initializing := (Function.forall_update_iff s.points
    fun _ point => point.Initializes → s.initialized = false).mpr
    ⟨hinitializes, fun j _ => h.initializing j⟩
  claims := (Function.forall_update_iff s.points
    fun _ point => Claims board s.driver events point).mpr ⟨hclaims, fun j _ => h.claims j⟩
  taken := h.taken
  fresh := h.fresh

/-- A thread that holds the lock changes the driver and moves on. -/
theorem Guarded.act (h : Guarded board s events) {driver : Xdmad} (hinside : (s.points tid).Inside)
    (hpoint : point.Inside) (hallocates : point.Allocates → s.initialized = true)
    (hinitializes : point.Initializes → s.initialized = false)
    (hclaims : Claims board driver events point)
    (htaken : ∀ c grant, holder events c = some grant →
      (driver.xdmaChannels c).TakenFor board grant.bSrcID grant.bDstID) :
    Guarded board ({ s with driver }.goto tid point) events where
  lock := h.lock.move (iff_of_true hpoint hinside)
  blank := h.blank
  allocating := (Function.forall_update_iff s.points
    fun _ point => point.Allocates → s.initialized = true).mpr
    ⟨hallocates, fun j _ => h.allocating j⟩
  initializing := (Function.forall_update_iff s.points
    fun _ point => point.Initializes → s.initialized = false).mpr
    ⟨hinitializes, fun j _ => h.initializing j⟩
  claims := (Function.forall_update_iff s.points
    fun _ point => Claims board driver events point).mpr
    ⟨hclaims, fun _ hj => claims_of_not_inside (h.others_outside hinside hj)⟩
  taken := htaken
  fresh := h.fresh

theorem Guarded.enter (h : Guarded board s events) (howner : s.owner = none)
    (hpoint : point.Inside) (hallocates : point.Allocates → s.initialized = true)
    (hinitializes : ¬ point.Initializes) (hclaims : Claims board s.driver events point) :
    Guarded board ({ s with owner := some tid }.goto tid point) events where
  lock := (howner ▸ h.lock).enter hpoint
  blank := h.blank
  allocating := (Function.forall_update_iff s.points
    fun _ point => point.Allocates → s.initialized = true).mpr
    ⟨hallocates, fun j _ => h.allocating j⟩
  initializing := (Function.forall_update_iff s.points
    fun _ point => point.Initializes → s.initialized = false).mpr
    ⟨fun h => absurd h hinitializes, fun j _ => h.initializing j⟩
  claims := (Function.forall_update_iff s.points
    fun _ point => Claims board s.driver events point).mpr ⟨hclaims, fun j _ => h.claims j⟩
  taken := h.taken
  fresh := h.fresh

/-- After a release nobody is inside. -/
theorem Guarded.leave (h : Guarded board s events) (hinside : (s.points tid).Inside) :
    Guarded board ({ s with owner := none }.goto tid .outside) events ∧
      ∀ j, ¬ ((Function.update s.points tid .outside) j).Inside := by
  have hlock : Guards LockPoint.Inside none (Function.update s.points tid .outside) :=
    h.lock.leave hinside id
  have hnobody (j : Tid) : ¬ ((Function.update s.points tid .outside) j).Inside := by
    intro hj
    cases (hlock j).mp hj
  have hclaims : ∀ j, Claims board s.driver events ((Function.update s.points tid .outside) j) :=
    fun j => claims_of_not_inside (hnobody j)
  refine ⟨⟨hlock, h.blank, ?_, ?_, hclaims, h.taken, h.fresh⟩, hnobody⟩
  · exact (Function.forall_update_iff s.points
      fun _ point => point.Allocates → s.initialized = true).mpr
      ⟨False.elim, fun j _ => h.allocating j⟩
  · exact (Function.forall_update_iff s.points
      fun _ point => point.Initializes → s.initialized = false).mpr
      ⟨False.elim, fun j _ => h.initializing j⟩

theorem Guarded.obtain (h : Guarded board s events) {obtainResult : RtemsStatusCode}
    {t : LockState Tid} (hs : lockObtain s tid obtainResult = some t) : Guarded board t events := by
  unfold lockObtain at hs
  split at hs
  · rename_i bPollingMode hpoint
    split at hs
    · unfold LockState.acquire at hs
      split at hs
      · rename_i howner
        cases hs
        exact h.enter howner trivial False.elim id trivial
      · cases hs
    · cases hs
  · rename_i bSrcID bDstID hpoint
    have hinit : s.initialized = true := h.allocating tid (by rw [hpoint]; trivial)
    split at hs
    · unfold LockState.acquire at hs
      split at hs
      · rename_i howner
        cases hs
        exact h.enter howner trivial (fun _ => hinit) id trivial
      · cases hs
    · cases hs
      exact h.goto (by rw [hpoint]; exact Iff.rfl) False.elim False.elim trivial
  · cases hs

/-- A store of `XDMAD_Initialize`: nobody holds a channel yet. -/
theorem Guarded.configure (h : Guarded board s events) (hpoint : (s.points tid).Initializes)
    {driver : Xdmad} (hnext : point.Initializes) :
    Guarded board ({ s with driver }.goto tid point) events := by
  have hinit : s.initialized = false := h.initializing tid hpoint
  refine h.act hpoint.inside hnext.inside (fun h => absurd h hnext.not_allocates) (fun _ => hinit)
    hnext.claims fun c grant hgrant => ?_
  rw [h.blank hinit c] at hgrant
  cases hgrant

/-- `xDmad_Initialized` is set. -/
theorem Guarded.finish (h : Guarded board s events) (hpoint : s.points tid = .finishing) :
    Guarded board ({ s with initialized := true }.goto tid .leaving) events := by
  have hinside : (s.points tid).Inside := by
    rw [hpoint]
    trivial
  refine ⟨h.lock.move (iff_of_true trivial hinside), nofun, fun _ _ => rfl, ?_, ?_, h.taken, h.fresh⟩
  · refine (Function.forall_update_iff s.points
      fun _ point => point.Initializes → true = false).mpr ⟨False.elim, fun j hj hothers => ?_⟩
    exact absurd hothers.inside (h.others_outside hinside hj)
  · exact (Function.forall_update_iff s.points
      fun _ point => Claims board s.driver events point).mpr ⟨trivial, fun j _ => h.claims j⟩

theorem afterValidation_cases (board : Board) (bSrcID bDstID : BitVec 8) :
    afterValidation board bSrcID bDstID = .returning bSrcID bDstID xdmadAllocFailed ∨
      afterValidation board bSrcID bDstID = .scanning bSrcID bDstID 0 := by
  unfold afterValidation
  split
  · exact Or.inl rfl
  · split
    · exact Or.inl rfl
    · split
      · exact Or.inl rfl
      · exact Or.inr rfl

theorem Guarded.validate (h : Guarded board s events) {bSrcID bDstID : BitVec 8}
    (hpoint : s.points tid = .validating bSrcID bDstID) :
    Guarded board (s.goto tid (afterValidation board bSrcID bDstID)) events := by
  have hinside : (s.points tid).Inside := by rw [hpoint]; trivial
  have hinit : s.initialized = true := h.allocating tid (by rw [hpoint]; trivial)
  rcases afterValidation_cases board bSrcID bDstID with hnext | hnext
  · rw [hnext]
    exact h.goto (iff_of_true trivial hinside) (fun _ => hinit) False.elim fun hne => absurd rfl hne
  · rw [hnext]
    exact h.goto (iff_of_true trivial hinside) (fun _ => hinit) False.elim trivial

/-- A channel that is found free is held by nobody. -/
theorem Guarded.scan (h : Guarded board s events) {bSrcID bDstID : BitVec 8} {i : ℕ}
    (hpoint : s.points tid = .scanning bSrcID bDstID i) :
    Guarded board (s.goto tid (afterScan board s.driver bSrcID bDstID i)) events := by
  have hinside : (s.points tid).Inside := by rw [hpoint]; trivial
  have hinit : s.initialized = true := h.allocating tid (by rw [hpoint]; trivial)
  unfold afterScan
  split
  · split
    · rename_i hfree
      refine h.goto (iff_of_true trivial hinside) (fun _ => hinit) False.elim ⟨?_, ?_, ?_, ?_⟩
      · cases hholder : holder events (BitVec.ofNat 8 i) with
        | none => rfl
        | some grant => exact absurd hfree (h.taken _ grant hholder).1
      · exact allocationStores_not_free
      · exact Or.inl rfl
      · rfl
    · exact h.goto (iff_of_true trivial hinside) (fun _ => hinit) False.elim trivial
  · exact h.goto (iff_of_true trivial hinside) (fun _ => hinit) False.elim fun hne => absurd rfl hne

theorem Guarded.storeNext (h : Guarded board s events) {bSrcID bDstID : BitVec 8} {i : ℕ}
    {store : ChannelStore} {stores : List ChannelStore}
    (hpoint : s.points tid = .storing bSrcID bDstID i (store :: stores)) :
    Guarded board ((s.store i store).goto tid (.storing bSrcID bDstID i stores)) events := by
  have hinside : (s.points tid).Inside := by rw [hpoint]; trivial
  have hinit : s.initialized = true := h.allocating tid (by rw [hpoint]; trivial)
  have hclaims := h.claims tid
  rw [hpoint] at hclaims
  obtain ⟨huntaken, hstores, hstate, hids⟩ := hclaims
  obtain ⟨hstore, hrest⟩ := List.forall_mem_cons.mp hstores
  refine h.act hinside trivial (fun _ => hinit) False.elim ⟨huntaken, hrest, Or.inr ?_, ?_⟩
    (h.store_untaken huntaken)
  · dsimp only [Xdmad.setChannel]
    rw [Function.update_self]
    rcases hstate with hall | hused
    · -- the first store is that of the state
      obtain ⟨rfl, _⟩ := List.cons.inj hall
      exact nofun
    · exact apply_state hstore hused
  · dsimp only [Xdmad.setChannel]
    rw [Function.update_self]
    exact hids

theorem channelOf_reply (i : ℕ) : channelOf (BitVec.ofNat 32 i &&& 0xFF#32) = BitVec.ofNat 8 i := by
  apply BitVec.eq_of_toNat_eq
  have hmask : i % 4294967296 &&& 255 = i % 4294967296 % 256 :=
    Nat.and_two_pow_sub_one_eq_mod _ 8
  rw [channelOf, BitVec.toNat_setWidth, BitVec.toNat_and, BitVec.toNat_ofNat, BitVec.toNat_ofNat]
  change (i % 4294967296 &&& 255) % 256 = i % 256
  omega

theorem Guarded.reply (h : Guarded board s events) {bSrcID bDstID : BitVec 8} {i : ℕ}
    (hpoint : s.points tid = .storing bSrcID bDstID i []) :
    Guarded board
      (s.goto tid (.returning bSrcID bDstID (BitVec.ofNat 32 i &&& 0xFF#32))) events := by
  have hinside : (s.points tid).Inside := by rw [hpoint]; trivial
  have hinit : s.initialized = true := h.allocating tid (by rw [hpoint]; trivial)
  have hclaims := h.claims tid
  rw [hpoint] at hclaims
  obtain ⟨huntaken, -, hstate, hids⟩ := hclaims
  refine h.goto (iff_of_true trivial hinside) (fun _ => hinit) False.elim fun _ => ?_
  rw [channelOf_reply]
  rcases hstate with hnone | hused
  · cases hnone
  · exact ⟨huntaken, hused, hids⟩

/-- The return of a channel. -/
theorem Guarded.give (h : Guarded board s events) {bSrcID bDstID : BitVec 8}
    {dwChannel : BitVec 32} (hpoint : s.points tid = .returning bSrcID bDstID dwChannel)
    (hgiven : dwChannel ≠ xdmadAllocFailed) :
    Guarded board ({ s with owner := none }.goto tid .outside)
      (events ++ [(channelOf dwChannel, some ⟨tid, bSrcID, bDstID⟩)]) := by
  have hinside : (s.points tid).Inside := by rw [hpoint]; trivial
  have hinit : s.initialized = true := h.allocating tid (by rw [hpoint]; trivial)
  have hclaims := h.claims tid
  rw [hpoint] at hclaims
  obtain ⟨huntaken, htaken⟩ := hclaims hgiven
  obtain ⟨hleft, hnobody⟩ := h.leave hinside
  refine ⟨hleft.lock, ?_, hleft.allocating, hleft.initializing,
    fun j => claims_of_not_inside (hnobody j), ?_, ?_⟩
  · intro hnot
    rw [show s.initialized = false from hnot] at hinit
    cases hinit
  · intro c grant hgrant
    rw [holder_concat] at hgrant
    split at hgrant
    · rename_i hc
      cases hgrant
      exact hc ▸ htaken
    · exact h.taken c grant hgrant
  · intro before c grant hprefix
    rcases List.prefix_concat_iff.mp hprefix with heq | hearlier
    · obtain ⟨rfl, hlast⟩ := List.append_inj' heq rfl
      cases hlast
      exact huntaken
    · exact h.fresh before c grant hearlier

theorem lockStatement_guarded {t : LockState Tid} (h : Guarded board s events)
    (hs : lockStatement board s tid = some t) :
    Guarded board t (events ++ (lockEvent s (.statement tid)).toList) := by
  unfold lockStatement at hs
  simp only [lockEvent]
  cases hpoint : s.points tid with
  | outside | obtaining =>
      rw [hpoint] at hs
      cases hs
  | checking bPollingMode =>
      rw [hpoint] at hs
      cases hs
      have hinside : (s.points tid).Inside := by rw [hpoint]; trivial
      split
      · exact Guarded.silent (h.goto (iff_of_true trivial hinside) False.elim False.elim trivial)
      · rename_i hnot
        have hinit : s.initialized = false := Bool.eq_false_iff.mpr hnot
        exact Guarded.silent
          (h.goto (iff_of_true trivial hinside) False.elim (fun _ => hinit) trivial)
  | configuring stores =>
      have hthread : (s.points tid).Initializes := by rw [hpoint]; trivial
      rw [hpoint] at hs
      cases stores with
      | nil =>
          cases hs
          exact Guarded.silent (h.configure hthread trivial)
      | cons store stores =>
          cases hs
          exact Guarded.silent (h.configure hthread trivial)
  | clearing j =>
      have hthread : (s.points tid).Initializes := by rw [hpoint]; trivial
      rw [hpoint] at hs
      cases hs
      split
      · exact Guarded.silent (h.configure hthread trivial)
      · exact Guarded.silent (h.configure hthread trivial)
  | clearingChannel j stores =>
      have hthread : (s.points tid).Initializes := by rw [hpoint]; trivial
      rw [hpoint] at hs
      cases stores with
      | nil =>
          cases hs
          exact Guarded.silent (h.configure hthread trivial)
      | cons store stores =>
          cases hs
          exact Guarded.silent (h.configure hthread trivial)
  | finishing =>
      rw [hpoint] at hs
      cases hs
      exact Guarded.silent (h.finish hpoint)
  | leaving =>
      rw [hpoint] at hs
      cases hs
      exact (h.leave (by rw [hpoint]; trivial)).1.silent
  | validating bSrcID bDstID =>
      rw [hpoint] at hs
      cases hs
      exact Guarded.silent (h.validate hpoint)
  | scanning bSrcID bDstID i =>
      rw [hpoint] at hs
      cases hs
      exact Guarded.silent (h.scan hpoint)
  | storing bSrcID bDstID i stores =>
      rw [hpoint] at hs
      cases stores with
      | nil =>
          cases hs
          exact Guarded.silent (h.reply hpoint)
      | cons store stores =>
          cases hs
          exact Guarded.silent (h.storeNext hpoint)
  | returning bSrcID bDstID dwChannel =>
      rw [hpoint] at hs
      cases hs
      dsimp only
      split
      · exact (h.leave (by rw [hpoint]; trivial)).1.silent
      · rename_i hgiven
        exact h.give hpoint hgiven

/-- What holds between any two statements is kept by every step within the contract. -/
theorem lockStep_guarded {t : LockState Tid} {a : LockAction Tid} (h : Guarded board s events)
    (hcontract : InContract s a) (hs : lockStep board s a = some t) :
    Guarded board t (events ++ (lockEvent s a).toList) := by
  cases a with
  | call tid call =>
      simp only [lockStep] at hs
      split at hs
      · rename_i hpoint
        cases hs
        refine Guarded.silent (h.goto (by rw [hpoint]; exact Iff.rfl) ?_ False.elim trivial)
        intro hallocates
        cases call with
        | initializeDriver bPollingMode => cases hallocates
        | allocateChannel bSrcID bDstID => exact hcontract
      · cases hs
  | obtain tid obtainResult => exact Guarded.silent (h.obtain hs)
  | statement tid => exact lockStatement_guarded h hs
  | other a =>
      simp only [lockStep] at hs
      split at hs
      · rename_i hunlocked
        obtain ⟨d, hd, rfl⟩ := Option.map_eq_some_iff.mp hs
        obtain ⟨hinit, hundisturbed⟩ := driverStep_undisturbed hunlocked hd
        rw [lockEvent_other]
        refine h.undisturbed hinit hundisturbed fun c hclaim hfreed => ?_
        cases a with
        | freeChannel dwChannel =>
            simp only [freedChannel] at hfreed
            split at hfreed
            · exact hcontract (hclaim.trans hfreed.symm)
            · cases hfreed
        | initializeAgain | allocateChannel | setCallback | prepareChannel | configureTransfer
        | startTransfer | stopTransfer | isTransferDone | handler | iterate => cases hfreed
      · cases hs

theorem run_guarded {memory : Xdmad} {as : List (LockAction Tid)} {t : LockState Tid}
    (hr : run (lockStep board) (.start memory) as = some t)
    (hcontract : Along (lockStep board) InContract (.start memory) as) :
    Guarded board t (outputs (lockStep board) lockEvent (.start memory) as) := by
  refine run_induction (I := fun as t =>
    Guarded board t (outputs (lockStep board) lockEvent (.start memory) as)) hcontract hr
    (start_guarded board memory) ?_
  intro as t a u hr h hcontract hs
  rw [outputs_concat a hr]
  exact lockStep_guarded h hcontract hs

end Guards

/-- However the threads are interleaved, with one another, with the other calls and with the
handler: one thread at a time is between obtaining the lock and releasing it, a channel is given
to a thread only if nobody holds it, and the record of a channel that is held is that of the
request it was given for. -/
theorem allocated_exclusively {Tid : Type*} [DecidableEq Tid] (board : Board) (memory : Xdmad)
    (as : List (LockAction Tid)) (t : LockState Tid)
    (hr : run (lockStep board) (.start memory) as = some t)
    (hcontract : Along (lockStep board) InContract (.start memory) as) :
    (∀ i j, (t.points i).Inside → (t.points j).Inside → i = j) ∧
    (∀ before c grant, before ++ [(c, some grant)] <+:
      outputs (lockStep board) lockEvent (.start memory) as → holder before c = none) ∧
    ∀ c grant, holder (outputs (lockStep board) lockEvent (.start memory) as) c = some grant →
      (t.driver.xdmaChannels c).TakenFor board grant.bSrcID grant.bDstID := by
  have h := run_guarded hr hcontract
  exact ⟨fun _ _ => h.lock.alone, h.fresh, h.taken⟩

/-- The driver with two channels is initialized by one thread; then two threads allocate. The
second waits for the lock while the first stores, and a transfer is asked for in between. -/
def twoAllocations : List (LockAction Bool) :=
  [.call true (.initializeDriver 0), .obtain true .successful] ++
    List.replicate 32 (.statement true) ++
    [.call true (.allocateChannel 0xFF#8 21#8), .call false (.allocateChannel 0xFF#8 21#8),
      .obtain true .successful] ++ List.replicate 4 (.statement true) ++
    [.other (.startTransfer 0#32)] ++ List.replicate 7 (.statement true) ++
    [.obtain false .successful] ++ List.replicate 12 (.statement false)

theorem allocated_exclusively_twoAllocations : ∃ t,
    run (lockStep (boardWith 2)) (.start blankDriver) twoAllocations = some t ∧
    outputs (lockStep (boardWith 2)) lockEvent (.start blankDriver) twoAllocations =
      [(0#8, some ⟨true, 0xFF#8, 21#8⟩), (1#8, some ⟨false, 0xFF#8, 21#8⟩)] ∧
    (t.driver.xdmaChannels 1#8).TakenFor (boardWith 2) 0xFF#8 21#8 := by
  have hevents : outputs (lockStep (boardWith 2)) lockEvent (.start blankDriver) twoAllocations =
      [(0#8, some ⟨true, 0xFF#8, 21#8⟩), (1#8, some ⟨false, 0xFF#8, 21#8⟩)] := by decide
  obtain ⟨t, hr⟩ : ∃ t, run (lockStep (boardWith 2)) (.start blankDriver) twoAllocations = some t :=
    ⟨_, rfl⟩
  refine ⟨t, hr, hevents, ?_⟩
  have htaken := (allocated_exclusively (boardWith 2) blankDriver twoAllocations t hr
    (by decide)).2.2 1#8 ⟨false, 0xFF#8, 21#8⟩
  rw [hevents] at htaken
  exact htaken rfl

end SamV71Runtime.XdmaDriver
