import SamV71Runtime.Xdmad

/-!
# The transfers of one DMA channel

What driver, handler and controller do to one channel, with the calls that follow the protocol:
a channel is configured when it is idle, it is not started again before a handler has looked at
it, and the end of a transfer shows in an interrupt that is enabled.
-/
namespace SamV71Runtime.XdmaDriver

inductive TransferEvent where
  | started
  | ended
  | reported
  | stopped
  deriving DecidableEq

/-- What can happen to a channel after its last event: what is reported is an end, and one that
has not been reported before. -/
def TransferEvent.Follows : TransferEvent → Option TransferEvent → Prop
  | .started, life => life ≠ some .started
  | .ended, life => life = some .started ∨ life = some .stopped
  | .reported, life => life = some .ended
  | .stopped, _ => True

/-- What the controller keeps for a channel. -/
structure ChannelRegisters where
  running : Bool
  status : ChannelStatus
  unmasked : Bool

/-- A channel as the driver has it, too. When a handler will still look at it, `awaited` is
whether this handler found it running. Where transfers are not polled, interrupts are used. -/
structure ChannelView extends ChannelRegisters where
  state : XdmadState
  awaited : Option Bool
  polled : Bool

namespace ChannelView

/-- An interrupt of the channel is enabled and has occurred. -/
def Pending (v : ChannelView) : Prop :=
  v.status.interruptStatus &&& v.status.interruptMask ≠ 0

def raise (v : ChannelView) (interrupts : BitVec 32) : ChannelView :=
  { v with status := { v.status with interruptStatus := v.status.interruptStatus ||| interrupts } }

/-- Reading the interrupt status clears it. -/
def readStatus (v : ChannelView) : ChannelView :=
  { v with status := { v.status with interruptStatus := 0 } }

end ChannelView

/-- What one step does to a channel; `Early` are the interrupts that may show before a transfer
ends. -/
inductive Move (Early : ChannelView → BitVec 32 → Prop) (v : ChannelView) :
    Option TransferEvent → ChannelView → Prop where
  | stay : Move Early v none v
  | setIdle (state : XdmadState) (hold : v.state ≠ .start) (hnew : state ≠ .start) :
      Move Early v none { v with state }
  | prepare (hidle : v.state ≠ .start) :
      Move Early v none { v with status := ⟨0, 0⟩, unmasked := false }
  | configure (interruptMask : BitVec 32) (hidle : v.state ≠ .start)
      (hstopped : v.running = false) :
      Move Early v none { v with status := ⟨0, interruptMask⟩ }
  | start (hidle : v.state ≠ .start) (hleft : v.awaited = none) :
      Move Early v (some .started)
        { v with state := .start, running := true, unmasked := v.unmasked || !v.polled }
  | stop : Move Early v (some .stopped) { v with state := .halted, status := ⟨0, 0⟩ }
  | raise (interrupts : BitVec 32) (hrunning : v.running = true) (hearly : Early v interrupts) :
      Move Early v none (v.raise interrupts)
  | finish (interrupts : BitVec 32) (hrunning : v.running = true)
      (hshown : v.state = .start →
        transferEnded (v.raise interrupts).status = true ∧ v.awaited ≠ some true) :
      Move Early v (some .ended) { v.raise interrupts with running := false }
  | await : Move Early v none { v with awaited := some v.running }
  | leave : Move Early v none { v with awaited := none }
  | report (awaited : Option Bool) (hfound : v.awaited = some false)
      (hended : transferEnded v.status = true) (hleft : awaited = none ∨ awaited = v.awaited) :
      Move Early v (some .reported) { v.readStatus with state := .done, awaited }
  | look (awaited : Option Bool)
      (hfound : v.awaited = some true ∨ v.awaited = some false ∧ transferEnded v.status = false)
      (hleft : awaited = none ∨ awaited = v.awaited) :
      Move Early v none { v.readStatus with awaited }

/-- A channel that has been started is running, or its end is waiting to be reported; any other
has no interrupt to be looked at. -/
structure Sound (v : ChannelView) (life : Option TransferEvent) : Prop where
  unmasked : v.state = .start → v.polled = false → v.unmasked = true
  started : v.state = .start → life = some .started ∧ v.running = true ∨
    life = some .ended ∧ v.running = false ∧ transferEnded v.status = true
  idle : v.state ≠ .start → life ≠ some .started ∧ ¬ v.Pending
  drained : v.state ≠ .start → v.running = true →
    v.status.interruptMask = 0 ∧ life = some .stopped
  found : v.awaited = some false → v.running = false
  seen : v.awaited = some true → v.state = .start → v.running = true

section Protocol
variable {Early : ChannelView → BitVec 32 → Prop} {v v' : ChannelView}
  {life event : Option TransferEvent}

/-- An interrupt that ends a transfer is pending. -/
theorem pending_of_transferEnded (h : transferEnded v.status = true) : v.Pending := by
  intro hnone
  simp [transferEnded, hnone] at h

theorem not_pending_of_status (h : v.status.interruptStatus = 0) : ¬ v.Pending := by
  rw [ChannelView.Pending, h]
  exact not_not.mpr BitVec.zero_and

theorem not_pending_of_mask (h : v.status.interruptMask = 0) : ¬ v.Pending := by
  rw [ChannelView.Pending, h]
  exact not_not.mpr BitVec.and_zero

/-- Only the channel of a started transfer can be found ended. -/
theorem Sound.start_of_ended (h : Sound v life) (hended : transferEnded v.status = true) :
    v.state = .start := by
  by_contra hidle
  exact (h.idle hidle).2 (pending_of_transferEnded hended)

theorem Sound.ended_of_found (h : Sound v life) (hfound : v.awaited = some false)
    (hstart : v.state = .start) :
    life = some .ended ∧ v.running = false ∧ transferEnded v.status = true := by
  rcases h.started hstart with ⟨-, hrunning⟩ | hended
  · rw [h.found hfound] at hrunning
    cases hrunning
  · exact hended

/-- The events of a channel come in their order. -/
theorem Move.follows {e : TransferEvent} (hm : Move Early v (some e) v') (h : Sound v life) :
    e.Follows life := by
  cases hm with
  | start hidle hleft => exact (h.idle hidle).1
  | stop => trivial
  | finish interrupts hrunning hshown =>
      by_cases hstart : v.state = .start
      · rcases h.started hstart with ⟨hlife, -⟩ | ⟨-, hstopped, -⟩
        · exact Or.inl hlife
        · rw [hrunning] at hstopped
          cases hstopped
      · exact Or.inr (h.drained hstart hrunning).2
  | report awaited hfound hended hleft =>
      exact (h.ended_of_found hfound (h.start_of_ended hended)).1

/-- Every step keeps a channel sound. -/
theorem Move.sound (hm : Move Early v event v') (h : Sound v life) : Sound v' (event.or life) := by
  cases hm with
  | stay => exact h
  | setIdle state hold hnew =>
      exact ⟨fun hs => absurd hs hnew, fun hs => absurd hs hnew, fun _ => h.idle hold,
        fun _ => h.drained hold, h.found, fun _ hs => absurd hs hnew⟩
  | prepare hidle =>
      refine ⟨fun hs => absurd hs hidle, fun hs => absurd hs hidle, fun _ => ?_, fun _ hr => ?_,
        h.found, h.seen⟩
      · exact ⟨(h.idle hidle).1, not_pending_of_status rfl⟩
      · exact ⟨rfl, (h.drained hidle hr).2⟩
  | configure interruptMask hidle hstopped =>
      refine ⟨fun hs => absurd hs hidle, fun hs => absurd hs hidle, fun _ => ?_, fun _ hr => ?_,
        h.found, h.seen⟩
      · exact ⟨(h.idle hidle).1, not_pending_of_status rfl⟩
      · exact absurd (hstopped.symm.trans hr) Bool.false_ne_true
  | start hidle hleft =>
      refine ⟨fun _ hpolled => ?_, fun _ => Or.inl ⟨rfl, rfl⟩, fun hs => absurd rfl hs,
        fun hs => absurd rfl hs, fun hf => ?_, fun _ _ => rfl⟩
      · have hmode : v.polled = false := hpolled
        dsimp only
        rw [hmode, Bool.not_false, Bool.or_true]
      · rw [hleft] at hf
        cases hf
  | stop =>
      exact ⟨nofun, nofun, fun _ => ⟨nofun, not_pending_of_status rfl⟩,
        fun _ _ => ⟨rfl, rfl⟩, h.found, nofun⟩
  | raise interrupts hrunning hearly =>
      refine ⟨h.unmasked, fun hs => ?_, fun hs => ?_, h.drained, h.found, h.seen⟩
      · rcases h.started hs with hstarted | ⟨-, hstopped, -⟩
        · exact Or.inl hstarted
        · exact absurd (hstopped.symm.trans hrunning) Bool.false_ne_true
      · have hmask := (h.drained hs hrunning).1
        exact ⟨(h.idle hs).1, not_pending_of_mask hmask⟩
  | finish interrupts hrunning hshown =>
      refine ⟨h.unmasked, fun hs => Or.inr ⟨rfl, rfl, (hshown hs).1⟩, fun hs => ?_, nofun,
        fun _ => rfl, fun ha hs => absurd ha (hshown hs).2⟩
      exact ⟨nofun, not_pending_of_mask (h.drained hs hrunning).1⟩
  | await =>
      refine ⟨h.unmasked, h.started, h.idle, h.drained, fun ha => ?_, fun ha _ => ?_⟩
      · exact Option.some.inj ha
      · exact Option.some.inj ha
  | leave => exact ⟨h.unmasked, h.started, h.idle, h.drained, nofun, nofun⟩
  | report awaited hfound hended hleft =>
      refine ⟨nofun, nofun, fun _ => ⟨nofun, not_pending_of_status rfl⟩,
        fun _ hr => ?_, fun _ => h.found hfound, nofun⟩
      exact absurd ((h.found hfound).symm.trans hr) Bool.false_ne_true
  | look awaited hfound hleft =>
      -- a status is read away only while the channel runs, or where nothing has ended
      have hnone (hs : v.state = .start) : life = some .started ∧ v.running = true := by
        rcases hfound with hseen | ⟨hfound, hrunning⟩
        · rcases h.started hs with hstarted | ⟨-, hstopped, -⟩
          · exact hstarted
          · exact absurd (hstopped.symm.trans (h.seen hseen hs)) Bool.false_ne_true
        · have hended := (h.ended_of_found hfound hs).2.2
          exact absurd (hrunning.symm.trans hended) Bool.false_ne_true
      refine ⟨h.unmasked, fun hs => Or.inl (hnone hs), fun hs => ?_, h.drained, fun ha => ?_,
        fun _ hs => (hnone hs).2⟩
      · exact ⟨(h.idle hs).1, not_pending_of_status rfl⟩
      · rcases hleft with rfl | rfl
        · cases ha
        · exact h.found ha

/-- A running channel has no interrupt to be looked at. -/
def ChannelView.Quiet (v : ChannelView) : Prop := v.running = true → ¬ v.Pending

/-- Where only the ends of transfers show, every step keeps a running channel quiet. -/
theorem Move.quiet (hm : Move (fun v interrupts => interrupts &&& v.status.interruptMask = 0) v
    event v') (h : Sound v life) (hquiet : v.Quiet) : v'.Quiet := by
  cases hm with
  | stay | setIdle | await | leave => exact hquiet
  | prepare hidle => exact fun _ => not_pending_of_status rfl
  | configure interruptMask hidle hstopped => exact fun _ => not_pending_of_status rfl
  | start hidle hleft => exact fun _ => (h.idle hidle).2
  | stop => exact fun _ => not_pending_of_status rfl
  | raise interrupts hrunning hearly =>
      intro _
      have hnone := hquiet hrunning
      rw [ChannelView.Pending, not_not] at hnone ⊢
      change (v.status.interruptStatus ||| interrupts) &&& v.status.interruptMask = 0
      rw [BitVec.and_or_distrib_right, hnone, hearly]
      exact BitVec.or_zero
  | finish interrupts hrunning hshown => exact nofun
  | report awaited hfound hended hleft => exact fun _ => not_pending_of_status rfl
  | look awaited hfound hleft => exact fun _ => not_pending_of_status rfl

end Protocol

end SamV71Runtime.XdmaDriver
