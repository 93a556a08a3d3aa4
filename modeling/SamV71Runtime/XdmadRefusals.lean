import SamV71Runtime.Xdmad

/-!
# Refused calls of the DMA driver

The registers of the controller with what an access does to them: a channel's interrupt
status is cleared when it is read, and what a write does is left to the hardware.
-/
namespace SamV71Runtime.XdmaDriver

abbrev XdmacRegisters := Register → BitVec 32

/-- What a write of a value to a register does to all of them. -/
abbrev XdmacWrite := XdmacRegisters → Register → BitVec 32 → XdmacRegisters

def RegisterAccess.effect (onWrite : XdmacWrite) (registers : XdmacRegisters) :
    RegisterAccess → XdmacRegisters
  | .read (.channel iChannel .cis) => Function.update registers (.channel iChannel .cis) 0
  | .read _ => registers
  | .write register value => onWrite registers register value

def Outcome.registersAfter (outcome : Outcome) (onWrite : XdmacWrite) (registers : XdmacRegisters) :
    XdmacRegisters :=
  outcome.accesses.foldl (RegisterAccess.effect onWrite) registers

def Outcome.Refused (outcome : Outcome) : Prop := outcome.result = .error ∨ outcome.result = .busy

instance (outcome : Outcome) : Decidable outcome.Refused := inferInstanceAs (Decidable (_ ∨ _))

/-- What the handler reads of a channel. -/
def channelStatus (registers : XdmacRegisters) (iChannel : BitVec 8) : ChannelStatus :=
  ⟨registers (.channel iChannel .cis), registers (.channel iChannel .cim)⟩

/-- The calls that can be refused. -/
inductive ChannelCall where
  | freeChannel (dwChannel : BitVec 32)
  | setCallback (dwChannel fCallback pArg : BitVec 32)
  | prepareChannel (dwChannel : BitVec 32)
  | configureTransfer (dwChannel : BitVec 32) (pXdmaParam : XdmadCfg)
      (dwXdmaDescCfg dwXdmaDescAddr dwXdmaIntEn : BitVec 32)
  | startTransfer (dwChannel : BitVec 32)

def ChannelCall.outcome (pXdmad : Xdmad) : ChannelCall → Outcome
  | .freeChannel dwChannel => XdmaDriver.freeChannel pXdmad dwChannel
  | .setCallback dwChannel fCallback pArg => XdmaDriver.setCallback pXdmad dwChannel fCallback pArg
  | .prepareChannel dwChannel => XdmaDriver.prepareChannel pXdmad dwChannel
  | .configureTransfer dwChannel pXdmaParam dwXdmaDescCfg dwXdmaDescAddr dwXdmaIntEn =>
      XdmaDriver.configureTransfer pXdmad dwChannel pXdmaParam dwXdmaDescCfg dwXdmaDescAddr
        dwXdmaIntEn
  | .startTransfer dwChannel => XdmaDriver.startTransfer pXdmad dwChannel

/-- A call that changes neither the channel records nor the registers, so that the handler
finds the end of every transfer as it would have found it without the call. -/
structure NoEffect (pXdmad : Xdmad) (onWrite : XdmacWrite) (registers : XdmacRegisters)
    (outcome : Outcome) : Prop where
  records : outcome.driver = pXdmad
  unchanged : outcome.registersAfter onWrite registers = registers
  completion : ∀ iChannel, transferEnded
    (channelStatus (outcome.registersAfter onWrite registers) iChannel) =
      transferEnded (channelStatus registers iChannel)

/-- A transfer is configured on a channel that is free or has been started, while its
interrupt status shows something. -/
def ChannelCall.LosesStatus (pXdmad : Xdmad) (registers : XdmacRegisters) : ChannelCall → Prop
  | .configureTransfer dwChannel _ _ _ _ =>
      channelOf dwChannel < pXdmad.numChannels ∧
      ((pXdmad.xdmaChannels (channelOf dwChannel)).state = .free ∨
        (pXdmad.xdmaChannels (channelOf dwChannel)).state = .start) ∧
      registers (.channel (channelOf dwChannel) .cis) ≠ 0
  | _ => False

instance (pXdmad : Xdmad) (registers : XdmacRegisters) :
    (call : ChannelCall) → Decidable (call.LosesStatus pXdmad registers)
  | .configureTransfer _ _ _ _ _ => inferInstanceAs (Decidable (_ ∧ _ ∧ _))
  | .freeChannel _ | .setCallback _ _ _ | .prepareChannel _ | .startTransfer _ =>
      inferInstanceAs (Decidable False)

section Refusals
variable {pXdmad : Xdmad} {onWrite : XdmacWrite} {registers : XdmacRegisters} {outcome : Outcome}

theorem noEffect_of_unchanged (hrecords : outcome.driver = pXdmad)
    (hunchanged : outcome.registersAfter onWrite registers = registers) :
    NoEffect pXdmad onWrite registers outcome where
  records := hrecords
  unchanged := hunchanged
  completion _ := by rw [hunchanged]

/-- An outcome without any access to a register. -/
theorem noEffect_of_result (result : XdmadRc) :
    NoEffect pXdmad onWrite registers ⟨result, pXdmad, []⟩ := noEffect_of_unchanged rfl rfl

theorem not_refused_ok {driver : Xdmad} {accesses : List RegisterAccess} :
    ¬ (Outcome.mk .ok driver accesses).Refused := by
  rintro (h | h)
  · cases h
  · cases h

variable {dwChannel : BitVec 32}

theorem freeChannel_refused : (freeChannel pXdmad dwChannel).Refused →
    NoEffect pXdmad onWrite registers (freeChannel pXdmad dwChannel) := by
  unfold freeChannel
  split
  · exact fun _ => noEffect_of_result _
  · cases (pXdmad.xdmaChannels (channelOf dwChannel)).state with
    | allocated | start | inXfr => exact fun _ => noEffect_of_result _
    | done | halted | free => exact fun h => absurd h not_refused_ok

theorem setCallback_refused {fCallback pArg : BitVec 32} :
    (setCallback pXdmad dwChannel fCallback pArg).Refused →
    NoEffect pXdmad onWrite registers (setCallback pXdmad dwChannel fCallback pArg) := by
  unfold setCallback
  split
  · exact fun _ => noEffect_of_result _
  · cases (pXdmad.xdmaChannels (channelOf dwChannel)).state with
    | free | start => exact fun _ => noEffect_of_result _
    | allocated | inXfr | done | halted => exact fun h => absurd h not_refused_ok

theorem prepareChannel_refused : (prepareChannel pXdmad dwChannel).Refused →
    NoEffect pXdmad onWrite registers (prepareChannel pXdmad dwChannel) := by
  unfold prepareChannel
  split
  · exact fun _ => noEffect_of_result _
  · cases (pXdmad.xdmaChannels (channelOf dwChannel)).state with
    | free | start | inXfr => exact fun _ => noEffect_of_result _
    | allocated | done | halted => exact fun h => absurd h not_refused_ok

theorem startTransfer_refused : (startTransfer pXdmad dwChannel).Refused →
    NoEffect pXdmad onWrite registers (startTransfer pXdmad dwChannel) := by
  unfold startTransfer
  split
  · exact fun _ => noEffect_of_result _
  · cases (pXdmad.xdmaChannels (channelOf dwChannel)).state with
    | free | start => exact fun _ => noEffect_of_result _
    | allocated | inXfr | done | halted => exact fun h => absurd h not_refused_ok

/-- A refusal that comes after the read of the status has no effect if it showed nothing. -/
theorem noEffect_of_read_iff {iChannel : BitVec 8} {result : XdmadRc} :
    NoEffect pXdmad onWrite registers ⟨result, pXdmad, [xdmacGetChannelIsr iChannel]⟩ ↔
      registers (.channel iChannel .cis) = 0 := by
  have hafter : (Outcome.mk result pXdmad [xdmacGetChannelIsr iChannel]).registersAfter onWrite
      registers = Function.update registers (.channel iChannel .cis) 0 := rfl
  constructor
  · intro h
    have hcleared := congrFun h.unchanged (.channel iChannel .cis)
    rw [hafter, Function.update_self] at hcleared
    exact hcleared.symm
  · intro hzero
    refine noEffect_of_unchanged rfl ?_
    rw [hafter, ← hzero, Function.update_eq_self]

theorem configureTransfer_refused_iff {pXdmaParam : XdmadCfg}
    {dwXdmaDescCfg dwXdmaDescAddr dwXdmaIntEn : BitVec 32} :
    ((configureTransfer pXdmad dwChannel pXdmaParam dwXdmaDescCfg dwXdmaDescAddr
        dwXdmaIntEn).Refused →
      NoEffect pXdmad onWrite registers (configureTransfer pXdmad dwChannel pXdmaParam
        dwXdmaDescCfg dwXdmaDescAddr dwXdmaIntEn)) ↔
    ¬ (channelOf dwChannel < pXdmad.numChannels ∧
      ((pXdmad.xdmaChannels (channelOf dwChannel)).state = .free ∨
        (pXdmad.xdmaChannels (channelOf dwChannel)).state = .start) ∧
      registers (.channel (channelOf dwChannel) .cis) ≠ 0) := by
  unfold configureTransfer
  split
  · rename_i hout
    refine ⟨fun _ h => BitVec.not_lt.mpr hout h.1, fun _ _ => noEffect_of_result _⟩
  · rename_i hin
    have hrange := BitVec.not_le.mp hin
    cases (pXdmad.xdmaChannels (channelOf dwChannel)).state with
    | free =>
        refine ⟨fun h hloses => ?_, fun h _ => ?_⟩
        · exact hloses.2.2 (noEffect_of_read_iff.mp (h (Or.inl rfl)))
        · exact noEffect_of_read_iff.mpr (not_not.mp fun hne => h ⟨hrange, Or.inl rfl, hne⟩)
    | start =>
        refine ⟨fun h hloses => ?_, fun h _ => ?_⟩
        · exact hloses.2.2 (noEffect_of_read_iff.mp (h (Or.inr rfl)))
        · exact noEffect_of_read_iff.mpr (not_not.mp fun hne => h ⟨hrange, Or.inr rfl, hne⟩)
    | allocated | inXfr | done | halted =>
        refine ⟨fun _ h => ?_, fun _ h => absurd h not_refused_ok⟩
        rcases h.2.1 with hstate | hstate
        · cases hstate
        · cases hstate

end Refusals

/-- A refused call has no effect, unless a transfer is configured on a channel that is
free or has been started and whose interrupt status shows something: that is lost. -/
theorem refused_noEffect_iff (pXdmad : Xdmad) (onWrite : XdmacWrite) (registers : XdmacRegisters)
    (call : ChannelCall) :
    ((call.outcome pXdmad).Refused → NoEffect pXdmad onWrite registers (call.outcome pXdmad)) ↔
      ¬ call.LosesStatus pXdmad registers := by
  cases call with
  | freeChannel dwChannel => exact iff_of_true freeChannel_refused not_false
  | setCallback dwChannel fCallback pArg => exact iff_of_true setCallback_refused not_false
  | prepareChannel dwChannel => exact iff_of_true prepareChannel_refused not_false
  | startTransfer dwChannel => exact iff_of_true startTransfer_refused not_false
  | configureTransfer dwChannel pXdmaParam dwXdmaDescCfg dwXdmaDescAddr dwXdmaIntEn =>
      exact configureTransfer_refused_iff

/-- One channel in the given state, with a callback. -/
def oneChannel (state : XdmadState) : Xdmad where
  xdmaChannels _ := { XdmadChannel.cleared with fCallback := 1, state }
  numControllers := 1
  numChannels := 1
  pollingMode := 0

/-- A block has ended on channel 0, and its interrupt is enabled. -/
def endOfBlock : XdmacRegisters
  | .channel 0 .cis => xdmacCisBis
  | .channel 0 .cim => xdmacCisBis
  | _ => 0

def configureChannel0 : ChannelCall := .configureTransfer 0 ⟨0, 0, 0, 0, 0, 0, 0, 0⟩ 0 0 0

/-- The transfer of channel 0 has ended when another one is configured and refused; the
handler then finds nothing. -/
theorem refused_configureTransfer_loses_completion :
    (configureChannel0.outcome (oneChannel .start)).result = .busy ∧
    transferEnded (channelStatus endOfBlock 0) = true ∧
    transferEnded (channelStatus ((configureChannel0.outcome (oneChannel .start)).registersAfter
      Function.update endOfBlock) 0) = false ∧
    ¬ ((configureChannel0.outcome (oneChannel .start)).Refused →
      NoEffect (oneChannel .start) Function.update endOfBlock
        (configureChannel0.outcome (oneChannel .start))) := by
  have hended : transferEnded (channelStatus endOfBlock 0) = true := by decide
  have hlost : transferEnded (channelStatus ((configureChannel0.outcome (oneChannel
      .start)).registersAfter Function.update endOfBlock) 0) = false := by decide
  refine ⟨rfl, hended, hlost, fun h => ?_⟩
  have hsame := (h (Or.inr rfl)).completion 0
  rw [hended, hlost] at hsame
  cases hsame

end SamV71Runtime.XdmaDriver
