import SamV71Runtime.TransferProtocol
import SamV71Runtime.XdmadRefusals
import SamV71Runtime.XdmadTransfers

/-!
# The interrupt registers of the DMA controller

What the driver's calls do to the registers that decide over a channel's interrupts.
-/
namespace SamV71Runtime.XdmaDriver

/-- The interrupts that a channel has. -/
def xdmacInterrupts : BitVec 32 := 0x7F#32

/-- What the controller does with a value that is written. A transfer that is to be disabled
ends when the controller is done with it. The mask of the channels' interrupts is kept under
its enable register. -/
def xdmacWrite : XdmacWrite := fun registers register value =>
  match register with
  | .gie => Function.update registers .gie (registers .gie ||| value)
  | .gid => Function.update registers .gie (registers .gie &&& ~~~value)
  | .ge => Function.update registers .gs (registers .gs ||| value)
  | .gd | .gs | .channel _ .cim | .channel _ .cis => registers
  | .channel c .cie => Function.update registers (.channel c .cim)
      ((registers (.channel c .cim) ||| value) &&& xdmacInterrupts)
  | .channel c .cid => Function.update registers (.channel c .cim)
      (registers (.channel c .cim) &&& ~~~value &&& xdmacInterrupts)
  | register => Function.update registers register value

def channelRegisters (registers : XdmacRegisters) (c : BitVec 8) : ChannelRegisters where
  running := (registers .gs).getLsbD c.toNat
  status := channelStatus registers c
  unmasked := (registers .gie).getLsbD c.toNat

section Registers
variable {registers : XdmacRegisters} {c i : BitVec 8}

theorem getLsbD_channelBit (i : BitVec 8) (k : ℕ) :
    (channelBit i).getLsbD k = decide (k < 32 ∧ k = i.toNat) := by
  simp only [channelBit, BitVec.shiftLeft_eq', BitVec.getLsbD_shiftLeft, BitVec.getLsbD_one]
  grind

theorem and_channelBit_eq_zero_iff {x : BitVec 32} :
    x &&& channelBit c = 0 ↔ x.getLsbD c.toNat = false := by
  constructor
  · intro h
    have hbit := congrArg (fun y => y.getLsbD c.toNat) h
    simp only [BitVec.getLsbD_and, getLsbD_channelBit] at hbit
    by_cases hc : c.toNat < 32
    · simpa [hc] using hbit
    · exact BitVec.getLsbD_of_ge x _ (Nat.le_of_not_lt hc)
  · intro h
    ext k hk
    rw [← BitVec.getLsbD_eq_getElem, BitVec.getLsbD_and, getLsbD_channelBit]
    by_cases hkc : k = c.toNat
    · simp [hkc, h]
    · simp [hkc]

theorem and_channelBit_ne_zero_iff {x : BitVec 32} :
    x &&& channelBit c ≠ 0 ↔ x.getLsbD c.toNat = true := by
  rw [ne_eq, and_channelBit_eq_zero_iff, Bool.not_eq_false]

/-- An access of a call for a channel reads the interrupt status of no other. -/
def RegisterAccess.ReadsFor (iChannel : BitVec 8) : RegisterAccess → Prop
  | .read (.channel c .cis) => c = iChannel
  | _ => True

theorem channelRegisters_other {access : RegisterAccess} (hwrites : access.IsFor i)
    (hreads : access.ReadsFor i) (hne : c ≠ i) :
    channelRegisters (access.effect xdmacWrite registers) c = channelRegisters registers c := by
  have hbit : c.toNat ≠ i.toNat := fun h => hne (BitVec.eq_of_toNat_eq h)
  cases access with
  | read register =>
      cases register with
      | channel c' r =>
          cases r with
          | cis =>
              obtain rfl : c' = i := hreads
              simp [channelRegisters, channelStatus, RegisterAccess.effect, hne]
          | _ => rfl
      | _ => rfl
  | write register value =>
      cases register with
      | channel c' r =>
          obtain rfl : c' = i := hwrites
          cases r <;> simp [channelRegisters, channelStatus, RegisterAccess.effect, xdmacWrite, hne]
      | gie | ge | gd | gs =>
          obtain rfl : value = channelBit i := hwrites
          simp [channelRegisters, channelStatus, RegisterAccess.effect, xdmacWrite, hbit,
            getLsbD_channelBit]
      | gid =>
          obtain rfl : value = channelBit i := hwrites
          simp [channelRegisters, channelStatus, RegisterAccess.effect, xdmacWrite, hbit,
            getLsbD_channelBit]
          exact BitVec.lt_of_getLsbD

theorem registers_other {accesses : List RegisterAccess}
    (hwrites : ∀ access ∈ accesses, access.IsFor i)
    (hreads : ∀ access ∈ accesses, access.ReadsFor i)
    (hne : c ≠ i) :
    channelRegisters (accesses.foldl (RegisterAccess.effect xdmacWrite) registers) c =
      channelRegisters registers c := by
  induction accesses generalizing registers with
  | nil => rfl
  | cons access accesses ih =>
      obtain ⟨hwrite, hwrites⟩ := List.forall_mem_cons.mp hwrites
      obtain ⟨hread, hreads⟩ := List.forall_mem_cons.mp hreads
      rw [List.foldl_cons, ih hwrites hreads, channelRegisters_other hwrite hread hne]

theorem registers_getChannelIsr :
    channelRegisters ((xdmacGetChannelIsr c).effect xdmacWrite registers) c =
      { channelRegisters registers c with
        status := { (channelRegisters registers c).status with interruptStatus := 0 } } := by
  simp [channelRegisters, channelStatus, xdmacGetChannelIsr, RegisterAccess.effect]

theorem registers_disableChannelIt :
    channelRegisters ((xdmacDisableChannelIt c 0xFF#8).effect xdmacWrite registers) c =
      { channelRegisters registers c with
        status := { (channelRegisters registers c).status with interruptMask := 0 } } := by
  have hmask : 0xFFFFFF00#32 &&& xdmacInterrupts = 0#32 := by decide
  simp [channelRegisters, channelStatus, xdmacDisableChannelIt, RegisterAccess.effect, xdmacWrite,
    BitVec.and_assoc, hmask]

theorem registers_disableGIt :
    channelRegisters ((xdmacDisableGIt c).effect xdmacWrite registers) c =
      { channelRegisters registers c with unmasked := false } := by
  simp [channelRegisters, channelStatus, xdmacDisableGIt, RegisterAccess.effect, xdmacWrite,
    getLsbD_channelBit]

theorem registers_enableGIt (hc : c.toNat < 32) :
    channelRegisters ((xdmacEnableGIt c).effect xdmacWrite registers) c =
      { channelRegisters registers c with unmasked := true } := by
  simp [channelRegisters, channelStatus, xdmacEnableGIt, RegisterAccess.effect, xdmacWrite,
    getLsbD_channelBit, hc]

theorem registers_enableChannel (hc : c.toNat < 32) :
    channelRegisters ((xdmacEnableChannel c).effect xdmacWrite registers) c =
      { channelRegisters registers c with running := true } := by
  simp [channelRegisters, channelStatus, xdmacEnableChannel, RegisterAccess.effect, xdmacWrite,
    getLsbD_channelBit, hc]

/-- A write to a register that neither masks nor shows an interrupt. -/
theorem registers_program {register : ChannelRegister} {value : BitVec 32}
    (h : register.programs = true) :
    channelRegisters ((RegisterAccess.write (.channel i register) value).effect xdmacWrite
      registers) c = channelRegisters registers c := by
  cases register <;>
    simp [ChannelRegister.programs, channelRegisters, channelStatus, RegisterAccess.effect,
      xdmacWrite] at h ⊢

theorem registers_enableChannelIt (registers : XdmacRegisters) (c dwInteruptMask : BitVec 8) :
    ∃ interruptMask,
    channelRegisters ((xdmacEnableChannelIt c dwInteruptMask).effect xdmacWrite registers) c =
      { channelRegisters registers c with
        status := { (channelRegisters registers c).status with interruptMask } } := by
  refine ⟨(registers (.channel c .cim) ||| dwInteruptMask.setWidth 32) &&& xdmacInterrupts, ?_⟩
  simp [channelRegisters, channelStatus, xdmacEnableChannelIt, RegisterAccess.effect, xdmacWrite]

end Registers

section Calls
variable {registers : XdmacRegisters} {d : Xdmad} {dwChannel : BitVec 32}

theorem prepareChannel_readsFor :
    ∀ access ∈ (prepareChannel d dwChannel).accesses, access.ReadsFor (channelOf dwChannel) := by
  unfold prepareChannel
  split
  · exact List.forall_mem_nil _
  · split
    · exact List.forall_mem_nil _
    · exact List.forall_mem_nil _
    · exact List.forall_mem_nil _
    all_goals
      simp only [List.forall_mem_cons]
      exact ⟨rfl, trivial, trivial, trivial, trivial, trivial, trivial, trivial, trivial, trivial,
        List.forall_mem_nil _⟩

theorem startTransfer_readsFor :
    ∀ access ∈ (startTransfer d dwChannel).accesses, access.ReadsFor (channelOf dwChannel) := by
  unfold startTransfer
  split
  · exact List.forall_mem_nil _
  · split
    · exact List.forall_mem_nil _
    · exact List.forall_mem_nil _
    all_goals
      refine List.forall_mem_cons.mpr ⟨trivial, ?_⟩
      split
      · exact List.forall_mem_cons.mpr ⟨trivial, List.forall_mem_nil _⟩
      · exact List.forall_mem_nil _

theorem stopTransfer_readsFor :
    ∀ access ∈ (stopTransfer d dwChannel).accesses, access.ReadsFor (channelOf dwChannel) := by
  unfold stopTransfer
  split
  · exact List.forall_mem_nil _
  · simp only [List.forall_mem_cons]
    exact ⟨trivial, trivial, rfl, trivial, List.forall_mem_nil _⟩

/-- The writes of a configuration: those that program the channel, and those to its mask. -/
theorem configureAccesses_cases (dwChannel : BitVec 32) (pXdmaParam : XdmadCfg)
    (dwXdmaDescCfg dwXdmaDescAddr dwXdmaIntEn : BitVec 32) :
    ∀ access ∈ configureAccesses dwChannel pXdmaParam dwXdmaDescCfg dwXdmaDescAddr dwXdmaIntEn,
      (∃ register value, access = .write (.channel (channelOf dwChannel) register) value ∧
        register.programs = true) ∨
      access = xdmacDisableChannelIt (channelOf dwChannel) 0xFF#8 ∨
      ∃ mask, access = xdmacEnableChannelIt (channelOf dwChannel) mask := by
  intro access haccess
  simp only [configureAccesses] at haccess
  split at haccess
  · simp only [List.mem_append, List.mem_cons, List.not_mem_nil, or_false] at haccess
    rcases haccess with (hview | hview) | rfl | rfl | rfl | rfl
    · split at hview
      · simp only [List.mem_cons, List.not_mem_nil, or_false] at hview
        rcases hview with rfl | rfl | rfl
        all_goals exact Or.inl ⟨_, _, rfl, rfl⟩
      · cases hview
    · split at hview
      · simp only [List.mem_cons, List.not_mem_nil, or_false] at hview
        subst hview
        exact Or.inl ⟨_, _, rfl, rfl⟩
      · cases hview
    · exact Or.inl ⟨_, _, rfl, rfl⟩
    · exact Or.inl ⟨_, _, rfl, rfl⟩
    · exact Or.inr (Or.inl rfl)
    · exact Or.inr (Or.inr ⟨_, rfl⟩)
  · simp only [List.mem_cons, List.not_mem_nil, or_false] at haccess
    rcases haccess with rfl | rfl | rfl | rfl | rfl | rfl | rfl | rfl | rfl | rfl | rfl
    all_goals first
      | exact Or.inl ⟨_, _, rfl, rfl⟩
      | exact Or.inr (Or.inr ⟨_, rfl⟩)

theorem configureTransfer_readsFor (pXdmaParam : XdmadCfg)
    (dwXdmaDescCfg dwXdmaDescAddr dwXdmaIntEn : BitVec 32) :
    ∀ access ∈ (configureTransfer d dwChannel pXdmaParam dwXdmaDescCfg dwXdmaDescAddr
      dwXdmaIntEn).accesses, access.ReadsFor (channelOf dwChannel) := by
  have hwrites : ∀ access ∈ configureAccesses dwChannel pXdmaParam dwXdmaDescCfg dwXdmaDescAddr
      dwXdmaIntEn, access.ReadsFor (channelOf dwChannel) := by
    intro access haccess
    rcases configureAccesses_cases dwChannel pXdmaParam dwXdmaDescCfg dwXdmaDescAddr dwXdmaIntEn
      access haccess with ⟨register, value, rfl, -⟩ | rfl | ⟨mask, rfl⟩
    · trivial
    · trivial
    · trivial
  have hread : (xdmacGetChannelIsr (channelOf dwChannel)).ReadsFor (channelOf dwChannel) := rfl
  unfold configureTransfer
  split
  · exact List.forall_mem_nil _
  · split
    · exact List.forall_mem_singleton.mpr hread
    · exact List.forall_mem_singleton.mpr hread
    all_goals exact List.forall_mem_cons.mpr ⟨hread, hwrites⟩

/-- A configuration leaves the mask that it makes, and touches nothing else of the interrupts. -/
theorem registers_configured (pXdmaParam : XdmadCfg)
    (dwXdmaDescCfg dwXdmaDescAddr dwXdmaIntEn : BitVec 32) : ∃ interruptMask,
    channelRegisters ((configureAccesses dwChannel pXdmaParam dwXdmaDescCfg dwXdmaDescAddr
        dwXdmaIntEn).foldl (RegisterAccess.effect xdmacWrite) registers) (channelOf dwChannel) =
      { channelRegisters registers (channelOf dwChannel) with
        status := { (channelRegisters registers (channelOf dwChannel)).status with
          interruptMask } } := by
  have hcases := configureAccesses_cases dwChannel pXdmaParam dwXdmaDescCfg dwXdmaDescAddr
    dwXdmaIntEn
  generalize configureAccesses dwChannel pXdmaParam dwXdmaDescCfg dwXdmaDescAddr dwXdmaIntEn =
    accesses at hcases
  induction accesses generalizing registers with
  | nil => exact ⟨_, rfl⟩
  | cons access accesses ih =>
      obtain ⟨hfirst, hrest⟩ := List.forall_mem_cons.mp hcases
      obtain ⟨interruptMask, hlater⟩ :=
        @ih (access.effect xdmacWrite registers) hrest
      refine ⟨interruptMask, ?_⟩
      rw [List.foldl_cons, hlater]
      rcases hfirst with ⟨register, value, rfl, hprograms⟩ | rfl | ⟨mask, rfl⟩
      · rw [registers_program hprograms]
      · rw [registers_disableChannelIt]
      · obtain ⟨enabled, henabled⟩ := registers_enableChannelIt registers (channelOf dwChannel) mask
        rw [henabled]

theorem registers_prepareChannel (h : (prepareChannel d dwChannel).result = .ok) :
    (d.xdmaChannels (channelOf dwChannel)).state ≠ .start ∧
    channelRegisters ((prepareChannel d dwChannel).accesses.foldl (RegisterAccess.effect xdmacWrite)
        registers) (channelOf dwChannel) =
      { channelRegisters registers (channelOf dwChannel) with
        status := ⟨0, 0⟩
        unmasked := false } := by
  unfold prepareChannel at h ⊢
  split at h
  · cases h
  · rename_i hin
    rw [if_neg hin]
    have hprograms (register : ChannelRegister) (value : BitVec 32)
        (hprograms : register.programs = true) (before : XdmacRegisters) :
        channelRegisters ((RegisterAccess.write (.channel (channelOf dwChannel) register)
          value).effect xdmacWrite before) (channelOf dwChannel) =
            channelRegisters before (channelOf dwChannel) := registers_program hprograms
    split at h
    · cases h
    · cases h
    · cases h
    all_goals
      rename_i hstate
      refine ⟨by rw [hstate]; nofun, ?_⟩
      simp only [List.foldl_cons, List.foldl_nil]
      rw [xdmacSetDescriptorControl, hprograms _ _ rfl, xdmacSetDescriptorAddr, hprograms _ _ rfl,
        xdmacSetChannelConfig, hprograms _ _ rfl, xdmacSetBlockControl, hprograms _ _ rfl,
        xdmacSetDestinationAddr, hprograms _ _ rfl, xdmacSetSourceAddr, hprograms _ _ rfl]
      change channelRegisters ((xdmacDisableChannelIt _ _).effect xdmacWrite _) _ = _
      rw [registers_disableChannelIt, registers_disableGIt, registers_getChannelIsr]

theorem registers_configureTransfer (pXdmaParam : XdmadCfg)
    (dwXdmaDescCfg dwXdmaDescAddr dwXdmaIntEn : BitVec 32) :
    (configureTransfer d dwChannel pXdmaParam dwXdmaDescCfg dwXdmaDescAddr dwXdmaIntEn).accesses =
      [] ∨ ∃ interruptMask,
    channelRegisters ((configureTransfer d dwChannel pXdmaParam dwXdmaDescCfg dwXdmaDescAddr
        dwXdmaIntEn).accesses.foldl (RegisterAccess.effect xdmacWrite) registers)
        (channelOf dwChannel) =
      { channelRegisters registers (channelOf dwChannel) with status := ⟨0, interruptMask⟩ } := by
  have hgranted : ∃ interruptMask,
      channelRegisters ((xdmacGetChannelIsr (channelOf dwChannel) :: configureAccesses dwChannel
          pXdmaParam dwXdmaDescCfg dwXdmaDescAddr dwXdmaIntEn).foldl
          (RegisterAccess.effect xdmacWrite) registers) (channelOf dwChannel) =
        { channelRegisters registers (channelOf dwChannel) with status := ⟨0, interruptMask⟩ } := by
    obtain ⟨interruptMask, hconfigured⟩ :=
      registers_configured pXdmaParam dwXdmaDescCfg dwXdmaDescAddr dwXdmaIntEn
    refine ⟨interruptMask, ?_⟩
    rw [List.foldl_cons, hconfigured, registers_getChannelIsr]
  unfold configureTransfer
  split
  · exact Or.inl rfl
  · split
    · exact Or.inr ⟨_, registers_getChannelIsr⟩
    · exact Or.inr ⟨_, registers_getChannelIsr⟩
    all_goals exact Or.inr hgranted

end Calls

end SamV71Runtime.XdmaDriver
