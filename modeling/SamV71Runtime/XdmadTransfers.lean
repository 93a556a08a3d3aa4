import Mathlib.Algebra.Group.Nat.Defs
import SamV71Runtime.XdmadLifecycle

/-!
# What a DMA transfer runs with

The registers as the driver's calls write them, in any order of calls for all channels. The
handler and the initialization read registers only.
-/
namespace SamV71Runtime.XdmaDriver
open KeyedLog Runs

/-- The values written to the registers, in their order. -/
abbrev RegisterWrites := List (Register × BitVec 32)

def registerWrites (accesses : List RegisterAccess) : RegisterWrites :=
  accesses.filterMap fun
    | .read _ => none
    | .write register value => some (register, value)

def callWrites (s : DriverState) : DriverAction → RegisterWrites
  | .freeChannel dwChannel => registerWrites (freeChannel s.driver dwChannel).accesses
  | .setCallback dwChannel fCallback pArg =>
      registerWrites (setCallback s.driver dwChannel fCallback pArg).accesses
  | .prepareChannel dwChannel => registerWrites (prepareChannel s.driver dwChannel).accesses
  | .configureTransfer dwChannel pXdmaParam dwXdmaDescCfg dwXdmaDescAddr dwXdmaIntEn =>
      registerWrites (configureTransfer s.driver dwChannel pXdmaParam dwXdmaDescCfg dwXdmaDescAddr
        dwXdmaIntEn).accesses
  | .startTransfer dwChannel => registerWrites (startTransfer s.driver dwChannel).accesses
  | .stopTransfer dwChannel => registerWrites (stopTransfer s.driver dwChannel).accesses
  | .initializeAgain _ | .allocateChannel _ _ | .isTransferDone _ _ _ | .handler _ _
  | .iterate _ => []

/-- All the writes of a run. -/
def runWrites (board : Board) (s : DriverState) (as : List DriverAction) : RegisterWrites :=
  (outputs (driverStep board) (fun s a => some (callWrites s a)) s as).flatten

/-- The registers that say what is transferred. -/
def ChannelRegister.programs : ChannelRegister → Bool
  | .cie | .cid | .cim | .cis => false
  | .csa | .cda | .cnda | .cndc | .cubc | .cbc | .cc | .cdsMsp | .csus | .cdus => true

/-- The descriptors are fetched from a list in memory. -/
def LinkedList (dwXdmaDescCfg : BitVec 32) : Prop :=
  dwXdmaDescCfg &&& xdmacCndcNde = xdmacCndcNdeDscrFetchEn

def viewOf (dwXdmaDescCfg : BitVec 32) : BitVec 32 := dwXdmaDescCfg &&& xdmacCndcNdviewMsk

instance (dwXdmaDescCfg : BitVec 32) : Decidable (LinkedList dwXdmaDescCfg) :=
  inferInstanceAs (Decidable (_ = _))

/-- Of a list in memory, what the view of its first descriptor leaves out; descriptors are
aligned to words. -/
def listProgram (pXdmaParam : XdmadCfg) (dwXdmaDescCfg dwXdmaDescAddr : BitVec 32) :
    ChannelRegister → Option (BitVec 32)
  | .cc =>
      if viewOf dwXdmaDescCfg = xdmacCndcNdviewNdv0 ∨ viewOf dwXdmaDescCfg = xdmacCndcNdviewNdv1
      then some pXdmaParam.mbrCfg else none
  | .csa => if viewOf dwXdmaDescCfg = xdmacCndcNdviewNdv0 then some pXdmaParam.mbrSa else none
  | .cda => if viewOf dwXdmaDescCfg = xdmacCndcNdviewNdv0 then some pXdmaParam.mbrDa else none
  | .cnda => some (dwXdmaDescAddr &&& 0xFFFFFFFC#32)
  | .cndc => some (dwXdmaDescCfg &&& 0xFF#32)
  | .cie | .cid | .cim | .cis | .cubc | .cbc | .cdsMsp | .csus | .cdus => none

/-- Of a single transfer everything: lengths and strides have 24 bits, a block has 12. -/
def blockProgram (pXdmaParam : XdmadCfg) : ChannelRegister → Option (BitVec 32)
  | .csa => some pXdmaParam.mbrSa
  | .cda => some pXdmaParam.mbrDa
  | .cubc => some (pXdmaParam.mbrUbc &&& 0xFFFFFF#32)
  | .cbc => some (pXdmaParam.mbrBc &&& 0xFFF#32)
  | .cdsMsp => some pXdmaParam.mbrDs
  | .csus => some (pXdmaParam.mbrSus &&& 0xFFFFFF#32)
  | .cdus => some (pXdmaParam.mbrDus &&& 0xFFFFFF#32)
  | .cc => some pXdmaParam.mbrCfg
  | .cnda | .cndc => some 0
  | .cie | .cid | .cim | .cis => none

def programmed (pXdmaParam : XdmadCfg) (dwXdmaDescCfg dwXdmaDescAddr : BitVec 32)
    (register : ChannelRegister) : Option (BitVec 32) :=
  if LinkedList dwXdmaDescCfg then listProgram pXdmaParam dwXdmaDescCfg dwXdmaDescAddr register
  else blockProgram pXdmaParam register

/-- A write to the interrupt enable or disable register of a channel, whose interrupts are
the lowest bits. -/
def maskWrite (iChannel : BitVec 8) (mask : BitVec 8) : Register × BitVec 32 → BitVec 8
  | (.channel c .cie, value) => if c = iChannel then mask ||| value.setWidth 8 else mask
  | (.channel c .cid, value) => if c = iChannel then mask &&& ~~~value.setWidth 8 else mask
  | _ => mask

/-- The interrupts of a channel that are enabled. -/
def interruptMask (writes : RegisterWrites) (iChannel : BitVec 8) : BitVec 8 :=
  writes.foldl (maskWrite iChannel) 0

/-- A list is configured with exactly the interrupts given, a single transfer with those on top
of what is enabled already. -/
def configuredMask (dwXdmaDescCfg dwXdmaIntEn : BitVec 32) (mask : BitVec 8) : BitVec 8 :=
  if LinkedList dwXdmaDescCfg then dwXdmaIntEn.setWidth 8 else mask ||| dwXdmaIntEn.setWidth 8

/-- A write to a register of the channel, or one of its bit to a register of all channels. -/
def Concerns (iChannel : BitVec 8) : Register × BitVec 32 → Prop
  | (.channel c _, _) => c = iChannel
  | (_, value) => value &&& channelBit iChannel ≠ 0

/-- The call neither prepares nor configures the channel, nor does it stop its transfer. -/
def KeepsProgram (iChannel : BitVec 8) (s : DriverState) : DriverAction → Prop
  | .prepareChannel dwChannel =>
      channelOf dwChannel = iChannel → (prepareChannel s.driver dwChannel).result ≠ .ok
  | .configureTransfer dwChannel pXdmaParam dwXdmaDescCfg dwXdmaDescAddr dwXdmaIntEn =>
      channelOf dwChannel = iChannel → (configureTransfer s.driver dwChannel pXdmaParam
        dwXdmaDescCfg dwXdmaDescAddr dwXdmaIntEn).result ≠ .ok
  | .stopTransfer dwChannel =>
      channelOf dwChannel = iChannel → (stopTransfer s.driver dwChannel).result ≠ .ok
  | _ => True

instance (iChannel : BitVec 8) (s : DriverState) :
    (a : DriverAction) → Decidable (KeepsProgram iChannel s a)
  | .prepareChannel _ | .configureTransfer _ _ _ _ _ | .stopTransfer _ =>
      inferInstanceAs (Decidable (_ → _))
  | .initializeAgain _ | .allocateChannel _ _ | .freeChannel _ | .setCallback _ _ _
  | .startTransfer _ | .isTransferDone _ _ _ | .handler _ _ | .iterate _ =>
      inferInstanceAs (Decidable True)

section Configured
variable {dwChannel : BitVec 32} (pXdmaParam : XdmadCfg)
  (dwXdmaDescCfg dwXdmaDescAddr dwXdmaIntEn : BitVec 32)

theorem setWidth_setWidth_eq_and (x : BitVec 32) {n : ℕ} (hn : n < 32) :
    (x.setWidth n).setWidth 32 = x &&& BitVec.ofNat 32 (2 ^ n - 1) := by
  have hpow : 2 ^ n < 2 ^ 32 := Nat.pow_lt_pow_right (by decide) hn
  have hlow : x.toNat % 2 ^ n < 2 ^ n := Nat.mod_lt _ (Nat.two_pow_pos n)
  apply BitVec.eq_of_toNat_eq
  rw [BitVec.toNat_setWidth, BitVec.toNat_setWidth, BitVec.toNat_and, BitVec.toNat_ofNat,
    Nat.mod_eq_of_lt (a := x.toNat % 2 ^ n) (by omega),
    Nat.mod_eq_of_lt (a := 2 ^ n - 1) (by omega), Nat.and_two_pow_sub_one_eq_mod]

/-- Twelve bits of a block length are left by a parameter of 16. -/
theorem blockControl_value (x : BitVec 32) :
    0xFFF#32 &&& (x.setWidth 16).setWidth 32 = x &&& 0xFFF#32 := by
  rw [setWidth_setWidth_eq_and x (by decide), BitVec.and_comm, BitVec.and_assoc]
  rfl

theorem registerWrites_append (before after : List RegisterAccess) :
    registerWrites (before ++ after) = registerWrites before ++ registerWrites after :=
  List.filterMap_append ..

/-- The writes of a transfer that is described by a list in memory. -/
theorem registerWrites_linkedList (hlist : LinkedList dwXdmaDescCfg) :
    registerWrites (configureAccesses dwChannel pXdmaParam dwXdmaDescCfg dwXdmaDescAddr
      dwXdmaIntEn) =
      (if viewOf dwXdmaDescCfg = xdmacCndcNdviewNdv0 then
        [(.channel (channelOf dwChannel) .cc, pXdmaParam.mbrCfg),
          (.channel (channelOf dwChannel) .csa, pXdmaParam.mbrSa),
          (.channel (channelOf dwChannel) .cda, pXdmaParam.mbrDa)] else []) ++
      (if viewOf dwXdmaDescCfg = xdmacCndcNdviewNdv1 then
        [(.channel (channelOf dwChannel) .cc, pXdmaParam.mbrCfg)] else []) ++
      [(.channel (channelOf dwChannel) .cnda, dwXdmaDescAddr &&& 0xFFFFFFFC#32),
        (.channel (channelOf dwChannel) .cndc, dwXdmaDescCfg &&& 0xFF#32),
        (.channel (channelOf dwChannel) .cid, 0xFF#32),
        (.channel (channelOf dwChannel) .cie, dwXdmaIntEn &&& 0xFF#32)] := by
  have hconfig : (dwXdmaDescCfg.setWidth 8).setWidth 32 = dwXdmaDescCfg &&& 0xFF#32 :=
    setWidth_setWidth_eq_and dwXdmaDescCfg (by decide)
  have hmask : (dwXdmaIntEn.setWidth 8).setWidth 32 = dwXdmaIntEn &&& 0xFF#32 :=
    setWidth_setWidth_eq_and dwXdmaIntEn (by decide)
  have haddr : dwXdmaDescAddr &&& 0xFFFFFFFC#32 ||| (0#8).setWidth 32 =
      dwXdmaDescAddr &&& 0xFFFFFFFC#32 := BitVec.or_zero
  rw [← hconfig, ← hmask, ← haddr]
  have hbranch : dwXdmaDescCfg &&& xdmacCndcNde = xdmacCndcNdeDscrFetchEn := hlist
  simp only [configureAccesses]
  rw [if_pos hbranch, registerWrites_append, registerWrites_append, viewOf]
  congr 2
  · split
    · rfl
    · rfl
  · split
    · rfl
    · rfl

theorem registerWrites_single (hsingle : ¬ LinkedList dwXdmaDescCfg) :
    registerWrites (configureAccesses dwChannel pXdmaParam dwXdmaDescCfg dwXdmaDescAddr
      dwXdmaIntEn) =
      [(.channel (channelOf dwChannel) .csa, pXdmaParam.mbrSa),
        (.channel (channelOf dwChannel) .cda, pXdmaParam.mbrDa),
        (.channel (channelOf dwChannel) .cubc, pXdmaParam.mbrUbc &&& 0xFFFFFF#32),
        (.channel (channelOf dwChannel) .cbc, pXdmaParam.mbrBc &&& 0xFFF#32),
        (.channel (channelOf dwChannel) .cdsMsp, pXdmaParam.mbrDs),
        (.channel (channelOf dwChannel) .csus, pXdmaParam.mbrSus &&& 0xFFFFFF#32),
        (.channel (channelOf dwChannel) .cdus, pXdmaParam.mbrDus &&& 0xFFFFFF#32),
        (.channel (channelOf dwChannel) .cc, pXdmaParam.mbrCfg),
        (.channel (channelOf dwChannel) .cnda, 0), (.channel (channelOf dwChannel) .cndc, 0),
        (.channel (channelOf dwChannel) .cie, dwXdmaIntEn &&& 0xFF#32)] := by
  have hmask : (dwXdmaIntEn.setWidth 8).setWidth 32 = dwXdmaIntEn &&& 0xFF#32 :=
    setWidth_setWidth_eq_and dwXdmaIntEn (by decide)
  rw [← hmask, BitVec.and_comm pXdmaParam.mbrUbc, ← blockControl_value,
    BitVec.and_comm pXdmaParam.mbrSus, BitVec.and_comm pXdmaParam.mbrDus]
  have hbranch : ¬ dwXdmaDescCfg &&& xdmacCndcNde = xdmacCndcNdeDscrFetchEn := hsingle
  simp only [configureAccesses]
  rw [if_neg hbranch]
  rfl

theorem last_configureAccesses {register : ChannelRegister} (hprograms : register.programs) :
    last (registerWrites (configureAccesses dwChannel pXdmaParam dwXdmaDescCfg dwXdmaDescAddr
      dwXdmaIntEn)) (.channel (channelOf dwChannel) register) =
        programmed pXdmaParam dwXdmaDescCfg dwXdmaDescAddr register := by
  by_cases hlist : LinkedList dwXdmaDescCfg
  · rw [registerWrites_linkedList _ _ _ _ hlist, programmed, if_pos hlist]
    by_cases h0 : viewOf dwXdmaDescCfg = xdmacCndcNdviewNdv0
    · have h1 : xdmacCndcNdviewNdv0 ≠ xdmacCndcNdviewNdv1 := by decide
      cases register <;>
        simp [ChannelRegister.programs, listProgram, last, h0, h1] at hprograms ⊢
    · by_cases h1 : viewOf dwXdmaDescCfg = xdmacCndcNdviewNdv1
      · have h10 : xdmacCndcNdviewNdv1 ≠ xdmacCndcNdviewNdv0 := by decide
        cases register <;>
          simp [ChannelRegister.programs, listProgram, last, h1, h10] at hprograms ⊢
      · cases register <;>
          simp [ChannelRegister.programs, listProgram, last, h0, h1] at hprograms ⊢
  · rw [registerWrites_single _ _ _ _ hlist, programmed, if_neg hlist]
    cases register <;> simp [ChannelRegister.programs, blockProgram, last] at hprograms ⊢

theorem mask_configureAccesses (mask : BitVec 8) :
    (registerWrites (configureAccesses dwChannel pXdmaParam dwXdmaDescCfg dwXdmaDescAddr
      dwXdmaIntEn)).foldl (maskWrite (channelOf dwChannel)) mask =
        configuredMask dwXdmaDescCfg dwXdmaIntEn mask := by
  have hlow : (dwXdmaIntEn &&& 0xFF#32).setWidth 8 = dwXdmaIntEn.setWidth 8 := by
    rw [BitVec.setWidth_and]
    exact BitVec.and_allOnes
  by_cases hlist : LinkedList dwXdmaDescCfg
  · rw [registerWrites_linkedList _ _ _ _ hlist, configuredMask, if_pos hlist]
    split <;> split <;> simp [maskWrite, hlow]
  · rw [registerWrites_single _ _ _ _ hlist, configuredMask, if_neg hlist]
    simp [maskWrite, hlow]

end Configured

section Frame
variable {board : Board} {s t : DriverState} {a : DriverAction} {d : Xdmad}
  {dwChannel : BitVec 32} {c : BitVec 8}

theorem channelBit_and_of_ne {c c' : BitVec 8} (h : c ≠ c') :
    channelBit c &&& channelBit c' = 0 := by
  have hnat : c.toNat ≠ c'.toNat := fun heq => h (BitVec.eq_of_toNat_eq heq)
  ext k hk
  simp [channelBit]
  omega

/-- An access of a call for a channel. -/
def RegisterAccess.IsFor (iChannel : BitVec 8) : RegisterAccess → Prop
  | .read _ => True
  | .write (.channel c _) _ => c = iChannel
  | .write _ value => value = channelBit iChannel

theorem concerns_of_isFor {accesses : List RegisterAccess} {iChannel : BitVec 8}
    (h : ∀ access ∈ accesses, access.IsFor iChannel) :
    ∀ e ∈ registerWrites accesses, Concerns c e → c = iChannel := by
  rintro ⟨register, value⟩ hmem hconcerns
  obtain ⟨access, haccess, hwrite⟩ := List.mem_filterMap.mp hmem
  have hfor := h access haccess
  cases access with
  | read => cases hwrite
  | write =>
      cases hwrite
      cases register with
      | channel c' r => exact hconcerns.symm.trans hfor
      | gie | gid | ge | gd | gs =>
          by_contra hne
          have hvalue : value = channelBit iChannel := hfor
          have hbit : channelBit iChannel &&& channelBit c ≠ 0 := hvalue ▸ hconcerns
          exact hbit (channelBit_and_of_ne (Ne.symm hne))

theorem prepareChannel_isFor :
    ∀ access ∈ (prepareChannel d dwChannel).accesses, access.IsFor (channelOf dwChannel) := by
  unfold prepareChannel
  split
  · exact List.forall_mem_nil _
  · split
    · exact List.forall_mem_nil _
    · exact List.forall_mem_nil _
    · exact List.forall_mem_nil _
    all_goals
      simp only [List.forall_mem_cons]
      exact ⟨trivial, rfl, rfl, rfl, rfl, rfl, rfl, rfl, rfl, rfl, List.forall_mem_nil _⟩

theorem configureAccesses_isFor (pXdmaParam : XdmadCfg)
    (dwXdmaDescCfg dwXdmaDescAddr dwXdmaIntEn : BitVec 32) :
    ∀ access ∈ configureAccesses dwChannel pXdmaParam dwXdmaDescCfg dwXdmaDescAddr dwXdmaIntEn,
      access.IsFor (channelOf dwChannel) := by
  have hview (p : Prop) [Decidable p] (accesses : List RegisterAccess)
      (h : ∀ access ∈ accesses, access.IsFor (channelOf dwChannel)) :
      ∀ access ∈ if p then accesses else [], access.IsFor (channelOf dwChannel) := by
    split
    · exact h
    · exact List.forall_mem_nil _
  simp only [configureAccesses]
  split
  · simp only [List.forall_mem_append, List.forall_mem_cons]
    refine ⟨⟨hview _ _ ?_, hview _ _ ?_⟩, rfl, rfl, rfl, rfl, List.forall_mem_nil _⟩
    · simp only [List.forall_mem_cons]
      exact ⟨rfl, rfl, rfl, List.forall_mem_nil _⟩
    · simp only [List.forall_mem_cons]
      exact ⟨rfl, List.forall_mem_nil _⟩
  · simp only [List.forall_mem_cons]
    exact ⟨rfl, rfl, rfl, rfl, rfl, rfl, rfl, rfl, rfl, rfl, rfl, List.forall_mem_nil _⟩

theorem configureTransfer_isFor (pXdmaParam : XdmadCfg)
    (dwXdmaDescCfg dwXdmaDescAddr dwXdmaIntEn : BitVec 32) :
    ∀ access ∈ (configureTransfer d dwChannel pXdmaParam dwXdmaDescCfg dwXdmaDescAddr
      dwXdmaIntEn).accesses, access.IsFor (channelOf dwChannel) := by
  have hread : (xdmacGetChannelIsr (channelOf dwChannel)).IsFor (channelOf dwChannel) := trivial
  unfold configureTransfer
  split
  · exact List.forall_mem_nil _
  · split
    · exact List.forall_mem_singleton.mpr hread
    · exact List.forall_mem_singleton.mpr hread
    all_goals
      exact List.forall_mem_cons.mpr ⟨hread,
        configureAccesses_isFor pXdmaParam dwXdmaDescCfg dwXdmaDescAddr dwXdmaIntEn⟩

theorem startTransfer_isFor :
    ∀ access ∈ (startTransfer d dwChannel).accesses, access.IsFor (channelOf dwChannel) := by
  unfold startTransfer
  split
  · exact List.forall_mem_nil _
  · split
    · exact List.forall_mem_nil _
    · exact List.forall_mem_nil _
    all_goals
      refine List.forall_mem_cons.mpr ⟨rfl, ?_⟩
      split
      · exact List.forall_mem_cons.mpr ⟨rfl, List.forall_mem_nil _⟩
      · exact List.forall_mem_nil _

theorem stopTransfer_isFor :
    ∀ access ∈ (stopTransfer d dwChannel).accesses, access.IsFor (channelOf dwChannel) := by
  unfold stopTransfer
  split
  · exact List.forall_mem_nil _
  · simp only [List.forall_mem_cons]
    exact ⟨rfl, rfl, trivial, trivial, List.forall_mem_nil _⟩

theorem freeChannel_accesses : (freeChannel d dwChannel).accesses = [] := by
  unfold freeChannel
  split
  · rfl
  · split <;> rfl

theorem setCallback_accesses (fCallback pArg : BitVec 32) :
    (setCallback d dwChannel fCallback pArg).accesses = [] := by
  unfold setCallback
  split
  · rfl
  · split <;> rfl

theorem prepareChannel_noAccess (h : (prepareChannel d dwChannel).result ≠ .ok) :
    (prepareChannel d dwChannel).accesses = [] := by
  unfold prepareChannel at h ⊢
  split
  · rfl
  · rename_i hin
    rw [if_neg hin] at h
    split at h
    · rfl
    · rfl
    · rfl
    all_goals exact absurd rfl h

theorem configureTransfer_noWrite {pXdmaParam : XdmadCfg}
    {dwXdmaDescCfg dwXdmaDescAddr dwXdmaIntEn : BitVec 32}
    (h : (configureTransfer d dwChannel pXdmaParam dwXdmaDescCfg dwXdmaDescAddr
      dwXdmaIntEn).result ≠ .ok) :
    registerWrites (configureTransfer d dwChannel pXdmaParam dwXdmaDescCfg dwXdmaDescAddr
      dwXdmaIntEn).accesses = [] := by
  unfold configureTransfer at h ⊢
  split
  · rfl
  · rename_i hin
    rw [if_neg hin] at h
    split at h
    · rfl
    · rfl
    all_goals exact absurd rfl h

theorem configureTransfer_granted {pXdmaParam : XdmadCfg}
    {dwXdmaDescCfg dwXdmaDescAddr dwXdmaIntEn : BitVec 32}
    (h : (configureTransfer d dwChannel pXdmaParam dwXdmaDescCfg dwXdmaDescAddr
      dwXdmaIntEn).result = .ok) :
    registerWrites (configureTransfer d dwChannel pXdmaParam dwXdmaDescCfg dwXdmaDescAddr
      dwXdmaIntEn).accesses = registerWrites (configureAccesses dwChannel pXdmaParam dwXdmaDescCfg
        dwXdmaDescAddr dwXdmaIntEn) := by
  unfold configureTransfer at h ⊢
  split
  · rename_i hout
    rw [if_pos hout] at h
    cases h
  · rename_i hin
    rw [if_neg hin] at h
    split at h
    · cases h
    · cases h
    all_goals rfl

theorem stopTransfer_noAccess (h : (stopTransfer d dwChannel).result ≠ .ok) :
    (stopTransfer d dwChannel).accesses = [] := by
  unfold stopTransfer at h ⊢
  split
  · rfl
  · rename_i hin
    rw [if_neg hin] at h
    exact absurd rfl h

/-- A start writes to the registers of all channels only. -/
theorem startTransfer_writes (r : ChannelRegister) :
    ∀ e ∈ registerWrites (startTransfer d dwChannel).accesses, e.1 ≠ .channel c r := by
  unfold startTransfer
  split
  · exact List.forall_mem_nil _
  · split
    · exact List.forall_mem_nil _
    · exact List.forall_mem_nil _
    all_goals
      refine List.forall_mem_cons.mpr ⟨nofun, ?_⟩
      split
      · exact List.forall_mem_cons.mpr ⟨nofun, List.forall_mem_nil _⟩
      · exact List.forall_mem_nil _

/-- The writes of a call for another channel, or of one that makes none. -/
theorem not_own {accesses : List RegisterAccess} {iChannel : BitVec 8}
    (hfor : ∀ access ∈ accesses, access.IsFor iChannel)
    (hnone : iChannel = c → registerWrites accesses = []) :
    ∀ e ∈ registerWrites accesses, ¬ Concerns c e := by
  intro e hmem hconcerns
  have hc := concerns_of_isFor hfor e hmem hconcerns
  rw [hnone hc.symm] at hmem
  exact absurd hmem List.not_mem_nil

theorem ne_of_not_concerns {writes : RegisterWrites} (h : ∀ e ∈ writes, ¬ Concerns c e)
    (r : ChannelRegister) : ∀ e ∈ writes, e.1 ≠ .channel c r := by
  rintro ⟨register, value⟩ hmem rfl
  exact h _ hmem rfl

theorem callWrites_of_keepsProgram (h : KeepsProgram c s a) (r : ChannelRegister) :
    ∀ e ∈ callWrites s a, e.1 ≠ .channel c r := by
  cases a with
  | freeChannel dwChannel =>
      rw [callWrites, freeChannel_accesses]
      exact List.forall_mem_nil _
  | setCallback dwChannel fCallback pArg =>
      rw [callWrites, setCallback_accesses]
      exact List.forall_mem_nil _
  | prepareChannel dwChannel =>
      refine ne_of_not_concerns (not_own prepareChannel_isFor fun hc => ?_) r
      rw [prepareChannel_noAccess (h hc)]
      rfl
  | configureTransfer dwChannel pXdmaParam dwXdmaDescCfg dwXdmaDescAddr dwXdmaIntEn =>
      refine ne_of_not_concerns (not_own (configureTransfer_isFor pXdmaParam dwXdmaDescCfg
        dwXdmaDescAddr dwXdmaIntEn) fun hc => ?_) r
      exact configureTransfer_noWrite (h hc)
  | startTransfer dwChannel => exact startTransfer_writes r
  | stopTransfer dwChannel =>
      refine ne_of_not_concerns (not_own stopTransfer_isFor fun hc => ?_) r
      rw [stopTransfer_noAccess (h hc)]
      rfl
  | initializeAgain | allocateChannel | isTransferDone | handler | iterate =>
      exact List.forall_mem_nil _

end Frame

section Runs
variable {board : Board} {s t : DriverState} {as bs : List DriverAction} {c : BitVec 8}

theorem runWrites_append (bs : List DriverAction) (hr : run (driverStep board) s as = some t) :
    runWrites board s (as ++ bs) = runWrites board s as ++ runWrites board t bs := by
  rw [runWrites, outputs_append bs hr, List.flatten_append]
  rfl

theorem runWrites_concat (a : DriverAction) (hr : run (driverStep board) s as = some t) :
    runWrites board s (as ++ [a]) = runWrites board s as ++ callWrites t a := by
  rw [runWrites, outputs_concat a hr, List.flatten_append]
  simp [runWrites]

/-- What holds of the writes of every call holds of all writes of a run. -/
theorem runWrites_forall {P : Register × BitVec 32 → Prop} {C : DriverState → DriverAction → Prop}
    (hc : Along (driverStep board) C s as) (hr : run (driverStep board) s as = some t)
    (hcall : ∀ s a, C s a → ∀ e ∈ callWrites s a, P e) : ∀ e ∈ runWrites board s as, P e := by
  refine run_induction (I := fun as _ => ∀ e ∈ runWrites board s as, P e) hc hr
    (List.forall_mem_nil _) ?_
  intro as t a u hr hall ha _
  rw [runWrites_concat a hr]
  exact List.forall_mem_append.mpr ⟨hall, hcall t a ha⟩

theorem foldl_maskWrite {writes : RegisterWrites} (h : ∀ r, ∀ e ∈ writes, e.1 ≠ .channel c r)
    (mask : BitVec 8) : writes.foldl (maskWrite c) mask = mask := by
  induction writes with
  | nil => rfl
  | cons e writes ih =>
      have hhead (r : ChannelRegister) : e.1 ≠ .channel c r := h r e List.mem_cons_self
      have hsame : maskWrite c mask e = mask := by
        obtain ⟨register, value⟩ := e
        unfold maskWrite
        split
        · rename_i heq
          cases heq
          exact if_neg fun hc => hhead .cie (by rw [hc])
        · rename_i heq
          cases heq
          exact if_neg fun hc => hhead .cid (by rw [hc])
        · rfl
      rw [List.foldl_cons, hsame]
      exact ih fun r e hmem => h r e (List.mem_cons_of_mem _ hmem)

end Runs

def listTransfer : XdmadCfg := ⟨0, 0x20400100#32, 0x40008000#32, 0x11#32, 0, 0, 0, 0⟩

/-- The transfer of the channel is neither found ended nor stopped. -/
def GoesOn (board : Board) (iChannel : BitVec 8) (s : DriverState) (a : DriverAction) : Prop :=
  lifeEvent board s a ≠ some (iChannel, .completed) ∧
    lifeEvent board s a ≠ some (iChannel, .stopped)

instance (board : Board) (iChannel : BitVec 8) (s : DriverState) (a : DriverAction) :
    Decidable (GoesOn board iChannel s a) := inferInstanceAs (Decidable (_ ∧ _))

section Started
variable {board : Board} {s t : DriverState} {a : DriverAction} {d d' : Xdmad}
  {dwChannel : BitVec 32} {c : BitVec 8}

theorem setChannel_of_ne {i : BitVec 8} {channel : XdmadChannel} (h : c ≠ i) :
    (d.setChannel i channel).xdmaChannels c = d.xdmaChannels c :=
  Function.update_of_ne h ..

/-- A call for another channel, or one that is refused, leaves the record alone. -/
theorem allocateChannel_started (hstart : (d.xdmaChannels c).state = .start)
    (bSrcID bDstID : BitVec 8) :
    (allocateChannel board .successful d bSrcID bDstID).2.xdmaChannels c = d.xdmaChannels c := by
  rw [allocateChannel, if_pos rfl, allocateXdmacChannel]
  split
  · rfl
  · split
    · rfl
    · split
      · rfl
      · split
        · rename_i i hindex
          obtain ⟨-, hfree, -⟩ := freeIndex_cases hindex
          refine setChannel_of_ne ?_
          rintro rfl
          rw [hstart] at hfree
          cases hfree
        · rfl

theorem freeChannel_started (hstart : (d.xdmaChannels c).state = .start) :
    (freeChannel d dwChannel).driver.xdmaChannels c = d.xdmaChannels c := by
  unfold freeChannel
  split
  · rfl
  · by_cases hc : c = channelOf dwChannel
    · rw [← hc, hstart]
    · split
      · rfl
      · rfl
      · rfl
      · exact setChannel_of_ne hc
      · exact setChannel_of_ne hc
      · rfl

theorem setCallback_started (hstart : (d.xdmaChannels c).state = .start)
    (fCallback pArg : BitVec 32) :
    (setCallback d dwChannel fCallback pArg).driver.xdmaChannels c = d.xdmaChannels c := by
  unfold setCallback
  split
  · rfl
  · by_cases hc : c = channelOf dwChannel
    · rw [← hc, hstart]
    · split
      · rfl
      · rfl
      all_goals exact setChannel_of_ne hc

theorem startTransfer_started (hstart : (d.xdmaChannels c).state = .start) :
    (startTransfer d dwChannel).driver.xdmaChannels c = d.xdmaChannels c := by
  unfold startTransfer
  split
  · rfl
  · by_cases hc : c = channelOf dwChannel
    · rw [← hc, hstart]
    · split
      · rfl
      · rfl
      all_goals exact setChannel_of_ne hc

theorem stopTransfer_started (hother : channelOf dwChannel ≠ c) :
    (stopTransfer d dwChannel).driver.xdmaChannels c = d.xdmaChannels c := by
  unfold stopTransfer
  split
  · rfl
  · exact setChannel_of_ne (Ne.symm hother)

theorem iterateHandler_started {status : ChannelStatus} (h : iterateHandler s status = some t)
    (hgoes : lifeEvent board s (.iterate status) ≠ some (c, .completed)) :
    t.driver.xdmaChannels c = s.driver.xdmaChannels c := by
  simp only [lifeEvent, endedChannel] at hgoes
  unfold iterateHandler at h
  cases hhandlers : s.handlers with
  | nil =>
      rw [hhandlers] at h
      cases h
  | cons frame outer =>
      rw [hhandlers] at h
      cases hremaining : frame.remaining with
      | nil =>
          simp only [hremaining] at h
          cases h
          rfl
      | cons i rest =>
          simp only [hhandlers, hremaining] at h hgoes
          obtain ⟨iteration, hiteration, rfl⟩ := Option.map_eq_some_iff.mp h
          cases iteration with
          | returned => rfl
          | continued driver bExec calls =>
              rcases handleChannel_cases hiteration with ⟨hended, rfl⟩ | ⟨-, rfl⟩
              · rw [if_pos hended] at hgoes
                refine setChannel_of_ne ?_
                rintro rfl
                exact hgoes rfl
              · rfl

theorem driverStep_started (hinit : s.initialized = true) (hc : c < s.driver.numChannels)
    (hstart : (s.driver.xdmaChannels c).state = .start) (hgoes : GoesOn board c s a)
    (h : driverStep board s a = some t) :
    t.driver.xdmaChannels c = s.driver.xdmaChannels c := by
  cases a with
  | initializeAgain bPollingMode =>
      cases h
      rw [hinit, xdmadInitialize, if_pos rfl]
  | allocateChannel bSrcID bDstID =>
      cases h
      exact allocateChannel_started hstart bSrcID bDstID
  | freeChannel dwChannel =>
      cases h
      exact freeChannel_started hstart
  | setCallback dwChannel fCallback pArg =>
      cases h
      exact setCallback_started hstart fCallback pArg
  | prepareChannel dwChannel =>
      cases h
      rw [prepareChannel_driver]
  | configureTransfer dwChannel pXdmaParam dwXdmaDescCfg dwXdmaDescAddr dwXdmaIntEn =>
      cases h
      rw [configureTransfer_driver]
  | startTransfer dwChannel =>
      cases h
      exact startTransfer_started hstart
  | stopTransfer dwChannel =>
      cases h
      refine stopTransfer_started ?_
      rintro rfl
      apply hgoes.2
      simp [lifeEvent, Outcome.granted, stopTransfer, BitVec.not_le.mpr hc]
  | isTransferDone dwChannel gis gs =>
      cases h
      split
      · rw [enterHandler_driver]
      · rfl
  | handler gis gs =>
      cases h
      rw [enterHandler_driver]
  | iterate status => exact iterateHandler_started h hgoes.1

/-- The channel's registers are written by no call, and neither is its bit. -/
theorem callWrites_started (hc : c < s.driver.numChannels)
    (hstart : (s.driver.xdmaChannels c).state = .start) (hgoes : GoesOn board c s a) :
    ∀ e ∈ callWrites s a, ¬ Concerns c e := by
  cases a with
  | freeChannel dwChannel =>
      rw [callWrites, freeChannel_accesses]
      exact List.forall_mem_nil _
  | setCallback dwChannel fCallback pArg =>
      rw [callWrites, setCallback_accesses]
      exact List.forall_mem_nil _
  | prepareChannel dwChannel =>
      refine not_own prepareChannel_isFor ?_
      rintro rfl
      rw [prepareChannel, if_neg (BitVec.not_le.mpr hc), hstart]
      rfl
  | configureTransfer dwChannel pXdmaParam dwXdmaDescCfg dwXdmaDescAddr dwXdmaIntEn =>
      refine not_own (configureTransfer_isFor pXdmaParam dwXdmaDescCfg dwXdmaDescAddr
        dwXdmaIntEn) ?_
      rintro rfl
      rw [configureTransfer, if_neg (BitVec.not_le.mpr hc), hstart]
      rfl
  | startTransfer dwChannel =>
      refine not_own startTransfer_isFor ?_
      rintro rfl
      rw [startTransfer, if_neg (BitVec.not_le.mpr hc), hstart]
      rfl
  | stopTransfer dwChannel =>
      refine not_own stopTransfer_isFor ?_
      rintro rfl
      refine absurd ?_ hgoes.2
      simp [lifeEvent, Outcome.granted, stopTransfer, BitVec.not_le.mpr hc]
  | initializeAgain | allocateChannel | isTransferDone | handler | iterate =>
      exact List.forall_mem_nil _

end Started

/-- Once a transfer is started, no call for its channel or another one changes the record of the
channel or writes to its registers, until the handler finds the transfer ended or it is stopped. -/
theorem started_left_alone (board : Board) (memory : Xdmad) (bPollingMode : BitVec 8)
    (as bs : List DriverAction) (s t : DriverState) (c : BitVec 8)
    (hs : run (driverStep board) (.start board memory bPollingMode) as = some s)
    (hc : c < s.driver.numChannels)
    (hstarted : last (outputs (driverStep board) (lifeEvent board)
      (.start board memory bPollingMode) as) c = some .started)
    (ht : run (driverStep board) s bs = some t)
    (hgoes : Along (driverStep board) (GoesOn board c) s bs) :
    t.driver.xdmaChannels c = s.driver.xdmaChannels c ∧
      ∀ e ∈ runWrites board s bs, ¬ Concerns c e := by
  obtain ⟨hinit, htells⟩ := run_tellsLife hs
  have hstart : (s.driver.xdmaChannels c).state = .start := by
    rw [htells.state c hc, hstarted]
    rfl
  -- what a step needs to know is kept along the run
  have hall : t.initialized = true ∧ t.driver.numChannels = s.driver.numChannels ∧
      t.driver.xdmaChannels c = s.driver.xdmaChannels c ∧
      ∀ e ∈ runWrites board s bs, ¬ Concerns c e := by
    refine run_induction (I := fun bs t => t.initialized = true ∧
      t.driver.numChannels = s.driver.numChannels ∧
      t.driver.xdmaChannels c = s.driver.xdmaChannels c ∧
      ∀ e ∈ runWrites board s bs, ¬ Concerns c e) hgoes ht
      ⟨hinit, rfl, rfl, List.forall_mem_nil _⟩ ?_
    rintro bs t a u hr ⟨hinit, hnum, hrecord, hwrites⟩ hgoes hstep
    have hin : c < t.driver.numChannels := hnum ▸ hc
    have hstill : (t.driver.xdmaChannels c).state = .start := by rw [hrecord, hstart]
    refine ⟨driverStep_initialized hinit hstep, ?_, ?_, ?_⟩
    · rw [(driverStep_shows hinit hstep).numChannels, hnum]
    · rw [driverStep_started hinit hin hstill hgoes hstep, hrecord]
    · rw [runWrites_concat a hr]
      exact List.forall_mem_append.mpr ⟨hwrites, callWrites_started hin hstill hgoes⟩
  exact ⟨hall.2.2.1, hall.2.2.2⟩

/-- Channel 0 is started; then configuring and releasing it are refused, and channel 1 is started
and stopped. -/
theorem started_left_alone_twoChannels : ∃ s t,
    run (driverStep (boardWith 24)) (.start (boardWith 24) blankDriver 0)
      [.allocateChannel 0xFF#8 21#8, .allocateChannel 0xFF#8 21#8, .startTransfer 0#32] = some s ∧
    run (driverStep (boardWith 24)) s [.configureTransfer 0#32 listTransfer 0 0 0x1#32,
      .freeChannel 0#32, .startTransfer 1#32, .stopTransfer 1#32] = some t ∧
    t.driver.xdmaChannels 0#8 = s.driver.xdmaChannels 0#8 := by
  refine ⟨_, _, rfl, rfl, ?_⟩
  exact (started_left_alone (boardWith 24) blankDriver 0
    [.allocateChannel 0xFF#8 21#8, .allocateChannel 0xFF#8 21#8, .startTransfer 0#32]
    [.configureTransfer 0#32 listTransfer 0 0 0x1#32, .freeChannel 0#32, .startTransfer 1#32,
      .stopTransfer 1#32] _ _ 0#8 rfl (by decide) (by decide) rfl (by decide)).1

end SamV71Runtime.XdmaDriver
