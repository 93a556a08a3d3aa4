import SamV71Runtime.KeyedLog
import SamV71Runtime.XdmadOwnership

/-!
# The life of a DMA channel

What the calls grant and what the handler finds is written down under the channel that it
is about. The last entry is all that the driver knows of a channel: it tells the state that
is stored, and the replies to the calls that come next.
-/
namespace SamV71Runtime.XdmaDriver
open KeyedLog Runs

inductive LifeEvent where
  | allocated
  | started
  | completed
  | stopped
  | released
  deriving DecidableEq

def LifeEvent.state : LifeEvent → XdmadState
  | .allocated => .allocated
  | .started => .start
  | .completed => .done
  | .stopped => .halted
  | .released => .free

/-- The state after a last event; a channel without one is free. -/
def lifeState (life : Option LifeEvent) : XdmadState := life.elim .free LifeEvent.state

/-- What can happen to a channel after its last event. A transfer is stopped at any time, and
one that ends need not have been started. -/
def LifeEvent.Follows : LifeEvent → Option LifeEvent → Prop
  | .allocated, life => life = none ∨ life = some .released
  | .started, life => life = some .allocated ∨ life = some .completed ∨ life = some .stopped
  | .completed, life => life ≠ none ∧ life ≠ some .released
  | .stopped, _ => True
  | .released, life => life ≠ some .allocated ∧ life ≠ some .started

/-- The channel whose transfer the next iteration of the handler finds ended. -/
def endedChannel (s : DriverState) (status : ChannelStatus) : Option (BitVec 8) :=
  match s.handlers with
  | [] => none
  | frame :: _ =>
      match frame.remaining with
      | [] => none
      | iChannel :: _ =>
          if frame.xdmaGlobaIntStatus &&& channelBit iChannel ≠ 0 ∧
              (s.driver.xdmaChannels iChannel).state ≠ .free ∧
              frame.xdmaGlobalChStatus &&& channelBit iChannel = 0 ∧ transferEnded status then
            some iChannel
          else none

/-- The event that a call makes if it is granted. -/
def Outcome.granted {E : Type} (outcome : Outcome) (dwChannel : BitVec 32) (event : E) :
    Option (BitVec 8 × E) :=
  if outcome.result = .ok then some (channelOf dwChannel, event) else none

def lifeEvent (board : Board) (s : DriverState) : DriverAction → Option (BitVec 8 × LifeEvent)
  | .allocateChannel bSrcID bDstID =>
      let dwChannel := (allocateChannel board .successful s.driver bSrcID bDstID).1
      if dwChannel = xdmadAllocFailed then none else some (channelOf dwChannel, .allocated)
  | .freeChannel dwChannel => (freeChannel s.driver dwChannel).granted dwChannel .released
  | .startTransfer dwChannel => (startTransfer s.driver dwChannel).granted dwChannel .started
  | .stopTransfer dwChannel => (stopTransfer s.driver dwChannel).granted dwChannel .stopped
  | .iterate status => (endedChannel s status).map fun iChannel => (iChannel, .completed)
  | _ => none

/-- What a step does to the states of the channels, by the event it makes. -/
structure Shows (d d' : Xdmad) (event : Option (BitVec 8 × LifeEvent)) : Prop where
  numChannels : d'.numChannels = d.numChannels
  state : ∀ c, (d'.xdmaChannels c).state =
    (last event.toList c).elim (d.xdmaChannels c).state LifeEvent.state
  follows : ∀ c e, event = some (c, e) → c < d.numChannels →
    ∀ life, (d.xdmaChannels c).state = lifeState life → e.Follows life

section Follows
variable {life : Option LifeEvent}

theorem allocated_follows (h : lifeState life = .free) : LifeEvent.allocated.Follows life := by
  match life with
  | none => exact Or.inl rfl
  | some .released => exact Or.inr rfl

theorem started_follows (hfree : lifeState life ≠ .free) (hstart : lifeState life ≠ .start) :
    LifeEvent.started.Follows life := by
  match life with
  | none | some .released => exact absurd rfl hfree
  | some .allocated => exact Or.inl rfl
  | some .completed => exact Or.inr (Or.inl rfl)
  | some .stopped => exact Or.inr (Or.inr rfl)
  | some .started => exact absurd rfl hstart

theorem completed_follows (h : lifeState life ≠ .free) : LifeEvent.completed.Follows life := by
  constructor
  · rintro rfl
    exact h rfl
  · rintro rfl
    exact h rfl

theorem released_follows (hallocated : lifeState life ≠ .allocated)
    (hstart : lifeState life ≠ .start) : LifeEvent.released.Follows life := by
  constructor
  · rintro rfl
    exact hallocated rfl
  · rintro rfl
    exact hstart rfl

end Follows

section Steps
variable {board : Board} {s t : DriverState} {a : DriverAction} {d d' : Xdmad}
  {dwChannel : BitVec 32}

theorem shows_none (hnum : d'.numChannels = d.numChannels)
    (hstate : ∀ c, (d'.xdmaChannels c).state = (d.xdmaChannels c).state) : Shows d d' none where
  numChannels := hnum
  state := hstate
  follows _ _ h := by cases h

theorem shows_same (d : Xdmad) : Shows d d none := shows_none rfl fun _ => rfl

/-- The event of a channel whose record is stored anew. -/
theorem shows_setChannel {c : BitVec 8} {channel : XdmadChannel} {e : LifeEvent}
    (hstate : channel.state = e.state)
    (hfollows : ∀ life, (d.xdmaChannels c).state = lifeState life → e.Follows life) :
    Shows d (d.setChannel c channel) (some (c, e)) where
  numChannels := rfl
  state c' := by
    rw [setChannel_state]
    by_cases hc : c' = c
    · simp [hc, last, hstate]
    · simp [hc, last, Ne.symm hc]
  follows c' e' h _ := by
    cases h
    exact hfollows

theorem setState_same {c : BitVec 8} {state : XdmadState} (h : (d.xdmaChannels c).state = state) :
    d.setState c state = d := by
  rw [Xdmad.setState, Xdmad.setChannel, ← h]
  congr 1
  exact Function.update_eq_self ..

theorem allocateChannel_shows (s : DriverState) (bSrcID bDstID : BitVec 8) :
    Shows s.driver (allocateChannel board .successful s.driver bSrcID bDstID).2
      (lifeEvent board s (.allocateChannel bSrcID bDstID)) := by
  simp only [lifeEvent]
  rw [allocateChannel, if_pos rfl, allocateXdmacChannel]
  split
  · exact shows_same s.driver
  · split
    · exact shows_same s.driver
    · split
      · exact shows_same s.driver
      · split
        · rename_i i hindex
          obtain ⟨-, hfree, hreply⟩ := freeIndex_cases hindex
          rw [hreply, if_neg (setWidth_ne_allocFailed _), channelOf_setWidth]
          refine shows_setChannel rfl fun life hlife => allocated_follows ?_
          rw [← hlife, hfree]
        · exact shows_same s.driver

theorem freeChannel_shows : Shows d (freeChannel d dwChannel).driver
    ((freeChannel d dwChannel).granted dwChannel .released) := by
  have hreleased (ha : (d.xdmaChannels (channelOf dwChannel)).state ≠ .allocated)
      (hs : (d.xdmaChannels (channelOf dwChannel)).state ≠ .start) :
      Shows d (d.setState (channelOf dwChannel) .free) (some (channelOf dwChannel, .released)) :=
    shows_setChannel rfl fun life hlife => released_follows (hlife ▸ ha) (hlife ▸ hs)
  unfold freeChannel
  split
  · exact shows_same d
  · cases hstate : (d.xdmaChannels (channelOf dwChannel)).state with
    | allocated | start | inXfr => exact shows_same d
    | done | halted => exact hreleased (by rw [hstate]; nofun) (by rw [hstate]; nofun)
    | free =>
        -- the release of a free channel is granted as well, and changes nothing
        have hshows := hreleased (by rw [hstate]; nofun) (by rw [hstate]; nofun)
        rw [setState_same hstate] at hshows
        exact hshows

theorem setCallback_shows (fCallback pArg : BitVec 32) :
    Shows d (setCallback d dwChannel fCallback pArg).driver none := by
  have hstored : Shows d (d.setChannel (channelOf dwChannel)
      { d.xdmaChannels (channelOf dwChannel) with fCallback, pArg }) none := by
    refine shows_none rfl fun c => ?_
    rw [setChannel_state]
    split
    · rename_i hc
      rw [hc]
    · rfl
  unfold setCallback
  split
  · exact shows_same d
  · split
    · exact shows_same d
    · exact shows_same d
    all_goals exact hstored

theorem startTransfer_shows : Shows d (startTransfer d dwChannel).driver
    ((startTransfer d dwChannel).granted dwChannel .started) := by
  have hstarted (hf : (d.xdmaChannels (channelOf dwChannel)).state ≠ .free)
      (hs : (d.xdmaChannels (channelOf dwChannel)).state ≠ .start) :
      Shows d (d.setState (channelOf dwChannel) .start) (some (channelOf dwChannel, .started)) :=
    shows_setChannel rfl fun life hlife => started_follows (hlife ▸ hf) (hlife ▸ hs)
  unfold startTransfer
  split
  · exact shows_same d
  · cases hstate : (d.xdmaChannels (channelOf dwChannel)).state with
    | free | start => exact shows_same d
    | allocated | inXfr | done | halted =>
        exact hstarted (by rw [hstate]; nofun) (by rw [hstate]; nofun)

theorem stopTransfer_shows : Shows d (stopTransfer d dwChannel).driver
    ((stopTransfer d dwChannel).granted dwChannel .stopped) := by
  unfold stopTransfer
  split
  · exact shows_same d
  · exact shows_setChannel rfl fun _ _ => trivial

/-- An iteration changes the record of a channel that it finds ended, and nothing else. -/
theorem handleChannel_cases {gis gs : BitVec 32} {status : ChannelStatus} {i : BitVec 8}
    {bExec bExec' : Bool} {calls : List CallbackCall}
    (h : handleChannel d gis gs status i bExec = some (.continued d' bExec' calls)) :
    ((gis &&& channelBit i ≠ 0 ∧ (d.xdmaChannels i).state ≠ .free ∧
      gs &&& channelBit i = 0 ∧ transferEnded status) ∧ d' = d.setState i .done) ∨
    (¬ (gis &&& channelBit i ≠ 0 ∧ (d.xdmaChannels i).state ≠ .free ∧
      gs &&& channelBit i = 0 ∧ transferEnded status) ∧ d' = d) := by
  simp only [handleChannel] at h
  split at h
  · rename_i hpending
    cases h
    exact Or.inr ⟨fun hall => hall.1 hpending, rfl⟩
  · rename_i hpending
    split at h
    · cases h
    · rename_i hused
      split at h
      · rename_i hdisabled
        split at h
        · rename_i hended
          cases h
          exact Or.inl ⟨⟨hpending, hused, hdisabled, hended⟩, rfl⟩
        · rename_i hended
          cases h
          exact Or.inr ⟨fun hall => hended hall.2.2.2, rfl⟩
      · rename_i henabled
        refine Or.inr ⟨fun hall => henabled hall.2.2.1, ?_⟩
        split at h
        · cases h
          rfl
        · split at h
          · cases h
          · cases h
            rfl

theorem handleChannel_shows {gis gs : BitVec 32} {status : ChannelStatus} {i : BitVec 8}
    {bExec bExec' : Bool} {calls : List CallbackCall}
    (h : handleChannel d gis gs status i bExec = some (.continued d' bExec' calls)) :
    Shows d d' (if gis &&& channelBit i ≠ 0 ∧ (d.xdmaChannels i).state ≠ .free ∧
      gs &&& channelBit i = 0 ∧ transferEnded status then some (i, .completed) else none) := by
  rcases handleChannel_cases h with ⟨hended, rfl⟩ | ⟨hnot, rfl⟩
  · rw [if_pos hended]
    exact shows_setChannel rfl fun life hlife => completed_follows (hlife ▸ hended.2.1)
  · rw [if_neg hnot]
    exact shows_same d'

theorem handleChannel_returned {gis gs : BitVec 32} {status : ChannelStatus} {i : BitVec 8}
    {bExec : Bool} (h : handleChannel d gis gs status i bExec = some .returned) :
    (d.xdmaChannels i).state = .free := by
  simp only [handleChannel] at h
  split at h
  · cases h
  · split at h
    · assumption
    · split at h
      · split at h
        · cases h
        · cases h
      · split at h
        · cases h
        · split at h
          · cases h
          · cases h

theorem iterateHandler_shows {status : ChannelStatus} (h : iterateHandler s status = some t) :
    Shows s.driver t.driver (lifeEvent board s (.iterate status)) := by
  simp only [lifeEvent, endedChannel]
  unfold iterateHandler at h
  cases hhandlers : s.handlers with
  | nil =>
      rw [hhandlers] at h
      cases h
  | cons frame outer =>
      rw [hhandlers] at h
      cases hremaining : frame.remaining with
      | nil =>
          simp only [hremaining] at h ⊢
          cases h
          exact shows_same s.driver
      | cons i rest =>
          simp only [hremaining] at h ⊢
          obtain ⟨iteration, hiteration, rfl⟩ := Option.map_eq_some_iff.mp h
          cases iteration with
          | returned =>
              rw [if_neg fun hall => hall.2.1 (handleChannel_returned hiteration)]
              exact shows_same s.driver
          | continued driver bExec calls =>
              have hshows := handleChannel_shows hiteration
              split at hshows
              · rename_i hended
                rw [if_pos hended]
                exact hshows
              · rename_i hended
                rw [if_neg hended]
                exact hshows

/-- What a step does to the states of the channels is the event it makes. -/
theorem driverStep_shows (hinit : s.initialized = true) (h : driverStep board s a = some t) :
    Shows s.driver t.driver (lifeEvent board s a) := by
  cases a with
  | initializeAgain bPollingMode =>
      cases h
      rw [hinit, xdmadInitialize, if_pos rfl]
      exact shows_same s.driver
  | allocateChannel bSrcID bDstID =>
      cases h
      exact allocateChannel_shows s bSrcID bDstID
  | freeChannel dwChannel =>
      cases h
      exact freeChannel_shows
  | setCallback dwChannel fCallback pArg =>
      cases h
      exact setCallback_shows fCallback pArg
  | prepareChannel dwChannel =>
      cases h
      rw [prepareChannel_driver]
      exact shows_same s.driver
  | configureTransfer dwChannel pXdmaParam dwXdmaDescCfg dwXdmaDescAddr dwXdmaIntEn =>
      cases h
      rw [configureTransfer_driver]
      exact shows_same s.driver
  | startTransfer dwChannel =>
      cases h
      exact startTransfer_shows
  | stopTransfer dwChannel =>
      cases h
      exact stopTransfer_shows
  | isTransferDone dwChannel gis gs =>
      cases h
      split
      · rw [enterHandler_driver]
        exact shows_same s.driver
      · exact shows_same s.driver
  | handler gis gs =>
      cases h
      rw [enterHandler_driver]
      exact shows_same s.driver
  | iterate status => exact iterateHandler_shows h

end Steps

/-- The log tells the states of the channels, and its events come in an order that a channel
can live through. -/
structure TellsLife (d : Xdmad) (events : List (BitVec 8 × LifeEvent)) : Prop where
  state : ∀ c < d.numChannels, (d.xdmaChannels c).state = lifeState (last events c)
  path : ∀ c < d.numChannels, ∀ before e, before ++ [(c, e)] <+: events → e.Follows (last before c)

/-- The replies to the calls for a channel in use, one after the other. -/
def useReply : Option LifeEvent → XdmadRc
  | none | some .released => .error
  | some .started => .busy
  | some .allocated | some .completed | some .stopped => .ok

def freeReply : Option LifeEvent → XdmadRc
  | some .allocated | some .started => .busy
  | none | some .completed | some .stopped | some .released => .ok

def doneReply : Option LifeEvent → XdmadRc
  | none | some .released => .error
  | some .allocated | some .completed => .ok
  | some .started | some .stopped => .busy

structure RepliesBy (d : Xdmad) (dwChannel : BitVec 32) (life : Option LifeEvent) : Prop where
  freeChannel : (freeChannel d dwChannel).result = freeReply life
  setCallback : ∀ fCallback pArg, (setCallback d dwChannel fCallback pArg).result = useReply life
  prepareChannel : (prepareChannel d dwChannel).result = useReply life
  configureTransfer : ∀ pXdmaParam dwXdmaDescCfg dwXdmaDescAddr dwXdmaIntEn,
    (configureTransfer d dwChannel pXdmaParam dwXdmaDescCfg dwXdmaDescAddr dwXdmaIntEn).result =
      useReply life
  startTransfer : (startTransfer d dwChannel).result = useReply life
  isTransferDone : (isTransferDone d dwChannel).1 = doneReply life

section Log
variable {d d' : Xdmad} {events : List (BitVec 8 × LifeEvent)} {dwChannel : BitVec 32}

theorem Shows.tellsLife {event : Option (BitVec 8 × LifeEvent)} (h : Shows d d' event)
    (htells : TellsLife d events) : TellsLife d' (events ++ event.toList) := by
  constructor
  case state =>
    intro c hc
    rw [h.numChannels] at hc
    rw [h.state, last_append, htells.state c hc]
    cases last event.toList c with
    | none => rfl
    | some e => rfl
  case path =>
    intro c hc
    rw [h.numChannels] at hc
    exact Ordered.append (R := LifeEvent.Follows) (htells.path c hc) fun e he =>
      h.follows c e he hc _ (htells.state c hc)

/-- The driver replies by the last event, as no channel is ever in transfer. -/
theorem TellsLife.repliesBy (h : TellsLife d events) (hc : channelOf dwChannel < d.numChannels) :
    RepliesBy d dwChannel (last events (channelOf dwChannel)) := by
  have hin : ¬ d.numChannels ≤ channelOf dwChannel := BitVec.not_le.mpr hc
  have hstate := h.state _ hc
  generalize last events (channelOf dwChannel) = life at hstate
  constructor
  case freeChannel =>
    rw [XdmaDriver.freeChannel, if_neg hin, hstate]
    match life with
    | none | some .allocated | some .started | some .completed | some .stopped
    | some .released => rfl
  case setCallback =>
    intro fCallback pArg
    rw [XdmaDriver.setCallback, if_neg hin, hstate]
    match life with
    | none | some .allocated | some .started | some .completed | some .stopped
    | some .released => rfl
  case prepareChannel =>
    rw [XdmaDriver.prepareChannel, if_neg hin, hstate]
    match life with
    | none | some .allocated | some .started | some .completed | some .stopped
    | some .released => rfl
  case configureTransfer =>
    intro pXdmaParam dwXdmaDescCfg dwXdmaDescAddr dwXdmaIntEn
    rw [XdmaDriver.configureTransfer, if_neg hin, hstate]
    match life with
    | none | some .allocated | some .started | some .completed | some .stopped
    | some .released => rfl
  case startTransfer =>
    rw [XdmaDriver.startTransfer, if_neg hin, hstate]
    match life with
    | none | some .allocated | some .started | some .completed | some .stopped
    | some .released => rfl
  case isTransferDone =>
    rw [XdmaDriver.isTransferDone, if_neg hin, hstate]
    match life with
    | none | some .allocated | some .started | some .completed | some .stopped
    | some .released => rfl

end Log

section Runs
variable {board : Board} {s t : DriverState} {as : List DriverAction}

theorem run_tellsLife {memory : Xdmad} {bPollingMode : BitVec 8}
    (hr : run (driverStep board) (.start board memory bPollingMode) as = some t) :
    t.initialized = true ∧ TellsLife t.driver
      (outputs (driverStep board) (lifeEvent board) (.start board memory bPollingMode) as) := by
  refine run_induction (I := fun as t => t.initialized = true ∧ TellsLife t.driver
    (outputs (driverStep board) (lifeEvent board) (.start board memory bPollingMode) as))
    (along_true _ as) hr ⟨rfl, ?_, ?_⟩ ?_
  · intro c hc
    exact congrArg XdmadChannel.state (if_pos hc)
  · intro c _ before e hprefix
    exact absurd (List.prefix_nil.mp hprefix) (by simp)
  · rintro as t a u hr ⟨hinit, htells⟩ _ hs
    rw [outputs_concat a hr]
    exact ⟨driverStep_initialized hinit hs, (driverStep_shows hinit hs).tellsLife htells⟩

end Runs

/-- In every run of calls and handlers, a channel's state is the one after its last event, no
channel is ever `XDMAD_STATE_IN_XFR`, and the events of a channel come in the order of its life. -/
theorem channel_life (board : Board) (memory : Xdmad) (bPollingMode : BitVec 8)
    (as : List DriverAction) (t : DriverState)
    (hr : run (driverStep board) (.start board memory bPollingMode) as = some t) :
    TellsLife t.driver (outputs (driverStep board) (lifeEvent board)
      (.start board memory bPollingMode) as) ∧
    ∀ c < t.driver.numChannels, (t.driver.xdmaChannels c).state ≠ .inXfr := by
  obtain ⟨-, htells⟩ := run_tellsLife hr
  refine ⟨htells, fun c hc => ?_⟩
  rw [htells.state c hc]
  match last _ c with
  | none | some .allocated | some .started | some .completed | some .stopped
  | some .released => nofun

/-- A transfer that is stopped and started again, and its end. -/
def restartedTransfer : List DriverAction :=
  [.allocateChannel 0xFF#8 21#8, .startTransfer 0#32, .stopTransfer 0#32, .startTransfer 0#32,
    .handler 0x1#32 0#32, .iterate ⟨0x1#32, 0x1#32⟩, .freeChannel 0#32]

theorem channel_life_restartedTransfer : ∃ t,
    run (driverStep (boardWith 24)) (.start (boardWith 24) blankDriver 0) restartedTransfer =
      some t ∧
    TellsLife t.driver [(0#8, .allocated), (0#8, .started), (0#8, .stopped), (0#8, .started),
      (0#8, .completed), (0#8, .released)] ∧
    ∀ c < t.driver.numChannels, (t.driver.xdmaChannels c).state ≠ .inXfr := by
  have hevents : outputs (driverStep (boardWith 24)) (lifeEvent (boardWith 24))
      (.start (boardWith 24) blankDriver 0) restartedTransfer =
        [(0#8, .allocated), (0#8, .started), (0#8, .stopped), (0#8, .started), (0#8, .completed),
          (0#8, .released)] := by
    decide
  rw [← hevents]
  exact ⟨_, rfl, channel_life (boardWith 24) blankDriver 0 restartedTransfer _ rfl⟩

/-- The replies to all calls for a channel are told by its last event. -/
theorem replies_by_life (board : Board) (memory : Xdmad) (bPollingMode : BitVec 8)
    (as : List DriverAction) (t : DriverState)
    (hr : run (driverStep board) (.start board memory bPollingMode) as = some t)
    (dwChannel : BitVec 32) (hc : channelOf dwChannel < t.driver.numChannels) :
    RepliesBy t.driver dwChannel (last (outputs (driverStep board) (lifeEvent board)
      (.start board memory bPollingMode) as) (channelOf dwChannel)) :=
  (run_tellsLife hr).2.repliesBy hc

/-- A transfer has been started on the channel, and has not ended. -/
theorem replies_by_life_started : ∃ t,
    run (driverStep (boardWith 24)) (.start (boardWith 24) blankDriver 0)
      [.allocateChannel 0xFF#8 21#8, .startTransfer 0#32] = some t ∧
    RepliesBy t.driver 0#32 (some .started) :=
  ⟨_, rfl, replies_by_life (boardWith 24) blankDriver 0
    [.allocateChannel 0xFF#8 21#8, .startTransfer 0#32] _ rfl 0#32 (by decide)⟩

end SamV71Runtime.XdmaDriver
