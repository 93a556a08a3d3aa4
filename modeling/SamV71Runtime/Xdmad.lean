import Mathlib.Logic.Function.Basic
import SamV71Runtime.Rtems

/-!
# The DMA driver

The driver's channel records, and the register accesses of its functions in their order.
What a register read returns is the hardware's, and so is the peripheral clock, which
`XDMAD_PrepareChannel` may enable. A callback is the address of a function, 0 when unset.
-/
namespace SamV71Runtime.XdmaDriver

def xdmadTransferMemory : BitVec 8 := 0xFF#8

def xdmadAllocFailed : BitVec 32 := 0xFFFF#32

inductive XdmadRc where
  | ok
  | partialDone
  | done
  | busy
  | error
  | canceled
  deriving DecidableEq

inductive XdmadState where
  | free
  | allocated
  | start
  | inXfr
  | done
  | halted
  deriving DecidableEq

structure XdmadChannel where
  fCallback : BitVec 32
  pArg : BitVec 32
  bIrqOwner : BitVec 8
  bSrcPeriphID : BitVec 8
  bDstPeriphID : BitVec 8
  bSrcTxIfID : BitVec 8
  bSrcRxIfID : BitVec 8
  bDstTxIfID : BitVec 8
  bDstRxIfID : BitVec 8
  state : XdmadState

/-- What `XDMAD_Initialize` makes of a channel. -/
def XdmadChannel.cleared : XdmadChannel := ⟨0, 0, 0, 0, 0, 0, 0, 0, 0, .free⟩

/-- `xdmaChannels` is an array, of which the first `numChannels` entries are used. -/
structure Xdmad where
  xdmaChannels : BitVec 8 → XdmadChannel
  numControllers : BitVec 8
  numChannels : BitVec 8
  pollingMode : BitVec 8

def Xdmad.setChannel (pXdmad : Xdmad) (iChannel : BitVec 8) (channel : XdmadChannel) : Xdmad :=
  { pXdmad with xdmaChannels := Function.update pXdmad.xdmaChannels iChannel channel }

def Xdmad.setState (pXdmad : Xdmad) (iChannel : BitVec 8) (state : XdmadState) : Xdmad :=
  pXdmad.setChannel iChannel { pXdmad.xdmaChannels iChannel with state }

inductive ChannelRegister where
  | cie
  | cid
  | cim
  | cis
  | csa
  | cda
  | cnda
  | cndc
  | cubc
  | cbc
  | cc
  | cdsMsp
  | csus
  | cdus
  deriving DecidableEq

inductive Register where
  | gie
  | gid
  | ge
  | gd
  | gs
  | channel (iChannel : BitVec 8) (register : ChannelRegister)
  deriving DecidableEq

inductive RegisterAccess where
  | read (register : Register)
  | write (register : Register) (value : BitVec 32)
  deriving DecidableEq

/-- What a call returns, leaves behind and does to the registers. -/
structure Outcome where
  result : XdmadRc
  driver : Xdmad
  accesses : List RegisterAccess

section Registers
variable (iChannel : BitVec 8)

def channelBit : BitVec 32 := 1#32 <<< iChannel

def xdmacEnableGIt : RegisterAccess := .write .gie (channelBit iChannel)

def xdmacDisableGIt : RegisterAccess := .write .gid (channelBit iChannel)

def xdmacEnableChannel : RegisterAccess := .write .ge (channelBit iChannel)

def xdmacDisableChannel : RegisterAccess := .write .gd (channelBit iChannel)

def xdmacGetGlobalChStatus : RegisterAccess := .read .gs

def xdmacGetChannelIsr : RegisterAccess := .read (.channel iChannel .cis)

def xdmacEnableChannelIt (dwInteruptMask : BitVec 8) : RegisterAccess :=
  .write (.channel iChannel .cie) (dwInteruptMask.setWidth 32)

def xdmacDisableChannelIt (dwInteruptMask : BitVec 8) : RegisterAccess :=
  .write (.channel iChannel .cid) (dwInteruptMask.setWidth 32)

def xdmacSetSourceAddr (addr : BitVec 32) : RegisterAccess :=
  .write (.channel iChannel .csa) addr

def xdmacSetDestinationAddr (addr : BitVec 32) : RegisterAccess :=
  .write (.channel iChannel .cda) addr

def xdmacSetDescriptorAddr (addr : BitVec 32) (ndaif : BitVec 8) : RegisterAccess :=
  .write (.channel iChannel .cnda) (addr &&& 0xFFFFFFFC#32 ||| ndaif.setWidth 32)

def xdmacSetDescriptorControl (config : BitVec 8) : RegisterAccess :=
  .write (.channel iChannel .cndc) (config.setWidth 32)

def xdmacSetMicroblockControl (ublen : BitVec 32) : RegisterAccess :=
  .write (.channel iChannel .cubc) (0xFFFFFF#32 &&& ublen)

def xdmacSetBlockControl (blen : BitVec 16) : RegisterAccess :=
  .write (.channel iChannel .cbc) (0xFFF#32 &&& blen.setWidth 32)

def xdmacSetChannelConfig (config : BitVec 32) : RegisterAccess :=
  .write (.channel iChannel .cc) config

def xdmacSetDataStrideMemPattern (ddsMsp : BitVec 32) : RegisterAccess :=
  .write (.channel iChannel .cdsMsp) ddsMsp

def xdmacSetSourceMicroBlockStride (subs : BitVec 32) : RegisterAccess :=
  .write (.channel iChannel .csus) (0xFFFFFF#32 &&& subs)

def xdmacSetDestinationMicroBlockStride (dubs : BitVec 32) : RegisterAccess :=
  .write (.channel iChannel .cdus) (0xFFFFFF#32 &&& dubs)

end Registers

/-- The enumerators of `Pmc_PeripheralId` that the interface table names. -/
inductive PeripheralId where
  | hsmci
  | spi0
  | spi1
  | qspi
  | usart0
  | usart1
  | usart2
  | pwm0
  | twihs0
  | twihs1
  | twihs2
  | uart0
  | uart1
  | uart2
  | uart3
  | uart4
  | dacc
  | ssc
  | pioA
  | afec0
  | afec1
  | aes
  | pwm1
  | tc0Ch0
  | tc0Ch1
  | tc0Ch2
  | tc1Ch0

structure XdmaHardwareInterface where
  bXdmac : BitVec 8
  bPeriphID : PeripheralId
  bTransfer : BitVec 8
  bIfID : BitVec 8

def xdmaHwIf : List XdmaHardwareInterface :=
  [⟨0, .hsmci, 0, 0⟩, ⟨0, .hsmci, 1, 0⟩, ⟨0, .spi0, 0, 1⟩, ⟨0, .spi0, 1, 2⟩, ⟨0, .spi1, 0, 3⟩,
    ⟨0, .spi1, 1, 4⟩, ⟨0, .qspi, 0, 5⟩, ⟨0, .qspi, 1, 6⟩, ⟨0, .usart0, 0, 7⟩, ⟨0, .usart0, 1, 8⟩,
    ⟨0, .usart1, 0, 9⟩, ⟨0, .usart1, 1, 10⟩, ⟨0, .usart2, 0, 11⟩, ⟨0, .usart2, 1, 12⟩,
    ⟨0, .pwm0, 0, 13⟩, ⟨0, .twihs0, 0, 14⟩, ⟨0, .twihs0, 1, 15⟩, ⟨0, .twihs1, 0, 16⟩,
    ⟨0, .twihs1, 1, 17⟩, ⟨0, .twihs2, 0, 18⟩, ⟨0, .twihs2, 1, 19⟩, ⟨0, .uart0, 0, 20⟩,
    ⟨0, .uart0, 1, 21⟩, ⟨0, .uart1, 0, 22⟩, ⟨0, .uart1, 1, 23⟩, ⟨0, .uart2, 0, 24⟩,
    ⟨0, .uart2, 1, 25⟩, ⟨0, .uart3, 0, 26⟩, ⟨0, .uart3, 1, 27⟩, ⟨0, .uart4, 0, 28⟩,
    ⟨0, .uart4, 1, 29⟩, ⟨0, .dacc, 0, 30⟩, ⟨0, .dacc, 0, 31⟩, ⟨0, .ssc, 0, 32⟩, ⟨0, .ssc, 1, 33⟩,
    ⟨0, .pioA, 1, 34⟩, ⟨0, .afec0, 1, 35⟩, ⟨0, .afec1, 1, 36⟩, ⟨0, .aes, 0, 37⟩, ⟨0, .aes, 1, 38⟩,
    ⟨0, .pwm1, 0, 39⟩, ⟨0, .tc0Ch0, 1, 40⟩, ⟨0, .tc0Ch1, 1, 41⟩, ⟨0, .tc0Ch2, 1, 42⟩,
    ⟨0, .tc1Ch0, 1, 43⟩]

/-- The type register and the numbers of the peripherals. -/
structure Board where
  gtype : BitVec 32
  peripheralId : PeripheralId → BitVec 32

section Allocation
variable (board : Board)

def Board.numOfPeripheral : BitVec 8 := ((board.gtype &&& 0x00FF0000#32) >>> 16).setWidth 8

/-- The rows that the loops over the interface table look at. A type register with more than
44 for `numOfPeripheral`, which the table has no rows for, would make them read past it. -/
def Board.interfaces : List XdmaHardwareInterface :=
  xdmaHwIf.take (board.numOfPeripheral.toNat + 1)

def xdmaifGetChannelNumber (bPeriphID bTransfer : BitVec 8) : BitVec 8 :=
  match board.interfaces.find? fun row =>
    board.peripheralId row.bPeriphID == bPeriphID.setWidth 32 && row.bTransfer == bTransfer with
  | some row => row.bIfID
  | none => 0xFF#8

def xdmaifIsValidatedPeripherOnDma (bPeriphID : BitVec 8) : Bool :=
  bPeriphID == 0xFF#8 ||
    board.interfaces.any fun row => board.peripheralId row.bPeriphID == bPeriphID.setWidth 32

def XdmadChannel.allocate (channel : XdmadChannel) (bSrcID bDstID : BitVec 8) : XdmadChannel :=
  { channel with
    state := .allocated
    bSrcPeriphID := bSrcID
    bDstPeriphID := bDstID
    bSrcTxIfID := xdmaifGetChannelNumber board bSrcID 0
    bSrcRxIfID := xdmaifGetChannelNumber board bSrcID 1
    bDstTxIfID := xdmaifGetChannelNumber board bDstID 0
    bDstRxIfID := xdmaifGetChannelNumber board bDstID 1 }

/-- The first index of a free channel. -/
def Xdmad.freeIndex (pXdmad : Xdmad) : Option ℕ :=
  (List.range pXdmad.numChannels.toNat).find? fun i =>
    (pXdmad.xdmaChannels (BitVec.ofNat 8 i)).state == .free

def allocateXdmacChannel (pXdmad : Xdmad) (bSrcID bDstID : BitVec 8) : BitVec 32 × Xdmad :=
  if bSrcID ≠ xdmadTransferMemory ∧ bDstID ≠ xdmadTransferMemory then (xdmadAllocFailed, pXdmad)
  else if bDstID = xdmadTransferMemory ∧ ¬ xdmaifIsValidatedPeripherOnDma board bSrcID then
    (xdmadAllocFailed, pXdmad)
  else if bSrcID = xdmadTransferMemory ∧ ¬ xdmaifIsValidatedPeripherOnDma board bDstID then
    (xdmadAllocFailed, pXdmad)
  else match pXdmad.freeIndex with
    | some i =>
        (BitVec.ofNat 32 i &&& 0xFF#32, pXdmad.setChannel (BitVec.ofNat 8 i)
          (XdmadChannel.allocate board (pXdmad.xdmaChannels (BitVec.ofNat 8 i)) bSrcID bDstID))
    | none => (xdmadAllocFailed, pXdmad)

def allocateChannel (obtainResult : RtemsStatusCode) (pXdmad : Xdmad) (bSrcID bDstID : BitVec 8) :
    BitVec 32 × Xdmad :=
  if obtainResult = .successful then allocateXdmacChannel board pXdmad bSrcID bDstID
  else (xdmadAllocFailed, pXdmad)

/-- `initialized` is `xDmad_Initialized`; the lock is obtained. -/
def xdmadInitialize (initialized : Bool) (pXdmad : Xdmad) (bPollingMode : BitVec 8) : Bool × Xdmad :=
  if initialized then (initialized, pXdmad)
  else
    let numChannels := (board.gtype &&& 0x1F#32).setWidth 8 + 1#8
    (true,
      { xdmaChannels := fun j => if j < numChannels then .cleared else pXdmad.xdmaChannels j
        numControllers := 1#8
        numChannels := numChannels
        pollingMode := bPollingMode })

end Allocation

section Calls
variable (pXdmad : Xdmad) (dwChannel : BitVec 32)

/-- The channel number in a call's argument. -/
def channelOf : BitVec 8 := dwChannel.setWidth 8

def freeChannel : Outcome :=
  if pXdmad.numChannels ≤ channelOf dwChannel then ⟨.error, pXdmad, []⟩
  else match (pXdmad.xdmaChannels (channelOf dwChannel)).state with
    | .allocated | .start | .inXfr => ⟨.busy, pXdmad, []⟩
    | .done | .halted => ⟨.ok, pXdmad.setState (channelOf dwChannel) .free, []⟩
    | .free => ⟨.ok, pXdmad, []⟩

def setCallback (fCallback pArg : BitVec 32) : Outcome :=
  if pXdmad.numChannels ≤ channelOf dwChannel then ⟨.error, pXdmad, []⟩
  else match (pXdmad.xdmaChannels (channelOf dwChannel)).state with
    | .free => ⟨.error, pXdmad, []⟩
    | .start => ⟨.busy, pXdmad, []⟩
    | .allocated | .inXfr | .done | .halted =>
        ⟨.ok, pXdmad.setChannel (channelOf dwChannel)
          { pXdmad.xdmaChannels (channelOf dwChannel) with fCallback, pArg }, []⟩

def prepareChannel : Outcome :=
  if pXdmad.numChannels ≤ channelOf dwChannel then ⟨.error, pXdmad, []⟩
  else match (pXdmad.xdmaChannels (channelOf dwChannel)).state with
    | .free => ⟨.error, pXdmad, []⟩
    | .start | .inXfr => ⟨.busy, pXdmad, []⟩
    | .allocated | .done | .halted =>
        ⟨.ok, pXdmad,
          [xdmacGetChannelIsr (channelOf dwChannel), xdmacDisableGIt (channelOf dwChannel),
            xdmacDisableChannelIt (channelOf dwChannel) 0xFF#8,
            xdmacDisableChannel (channelOf dwChannel), xdmacSetSourceAddr (channelOf dwChannel) 0,
            xdmacSetDestinationAddr (channelOf dwChannel) 0,
            xdmacSetBlockControl (channelOf dwChannel) 0,
            xdmacSetChannelConfig (channelOf dwChannel) 0x20#32,
            xdmacSetDescriptorAddr (channelOf dwChannel) 0 0,
            xdmacSetDescriptorControl (channelOf dwChannel) 0]⟩

structure XdmadCfg where
  mbrUbc : BitVec 32
  mbrSa : BitVec 32
  mbrDa : BitVec 32
  mbrCfg : BitVec 32
  mbrBc : BitVec 32
  mbrDs : BitVec 32
  mbrSus : BitVec 32
  mbrDus : BitVec 32

def xdmacCndcNde : BitVec 32 := 0x1#32

def xdmacCndcNdeDscrFetchEn : BitVec 32 := 0x1#32

def xdmacCndcNdviewMsk : BitVec 32 := 0x3#32 <<< 3

def xdmacCndcNdviewNdv0 : BitVec 32 := 0x0#32 <<< 3

def xdmacCndcNdviewNdv1 : BitVec 32 := 0x1#32 <<< 3

/-- The register accesses of a granted `XDMAD_ConfigureTransfer`. -/
def configureAccesses (pXdmaParam : XdmadCfg)
    (dwXdmaDescCfg dwXdmaDescAddr dwXdmaIntEn : BitVec 32) : List RegisterAccess :=
  let iChannel := channelOf dwChannel
  if dwXdmaDescCfg &&& xdmacCndcNde = xdmacCndcNdeDscrFetchEn then
    (if dwXdmaDescCfg &&& xdmacCndcNdviewMsk = xdmacCndcNdviewNdv0 then
      [xdmacSetChannelConfig iChannel pXdmaParam.mbrCfg,
        xdmacSetSourceAddr iChannel pXdmaParam.mbrSa,
        xdmacSetDestinationAddr iChannel pXdmaParam.mbrDa] else []) ++
    (if dwXdmaDescCfg &&& xdmacCndcNdviewMsk = xdmacCndcNdviewNdv1 then
      [xdmacSetChannelConfig iChannel pXdmaParam.mbrCfg] else []) ++
    [xdmacSetDescriptorAddr iChannel dwXdmaDescAddr 0,
      xdmacSetDescriptorControl iChannel (dwXdmaDescCfg.setWidth 8),
      xdmacDisableChannelIt iChannel 0xFF#8,
      xdmacEnableChannelIt iChannel (dwXdmaIntEn.setWidth 8)]
  else
    [xdmacSetSourceAddr iChannel pXdmaParam.mbrSa,
      xdmacSetDestinationAddr iChannel pXdmaParam.mbrDa,
      xdmacSetMicroblockControl iChannel pXdmaParam.mbrUbc,
      xdmacSetBlockControl iChannel (pXdmaParam.mbrBc.setWidth 16),
      xdmacSetDataStrideMemPattern iChannel pXdmaParam.mbrDs,
      xdmacSetSourceMicroBlockStride iChannel pXdmaParam.mbrSus,
      xdmacSetDestinationMicroBlockStride iChannel pXdmaParam.mbrDus,
      xdmacSetChannelConfig iChannel pXdmaParam.mbrCfg, xdmacSetDescriptorAddr iChannel 0 0,
      xdmacSetDescriptorControl iChannel 0,
      xdmacEnableChannelIt iChannel (dwXdmaIntEn.setWidth 8)]

/-- The channel's interrupt status is read ahead of the checks of its state. -/
def configureTransfer (pXdmaParam : XdmadCfg)
    (dwXdmaDescCfg dwXdmaDescAddr dwXdmaIntEn : BitVec 32) : Outcome :=
  if pXdmad.numChannels ≤ channelOf dwChannel then ⟨.error, pXdmad, []⟩
  else match (pXdmad.xdmaChannels (channelOf dwChannel)).state with
    | .free => ⟨.error, pXdmad, [xdmacGetChannelIsr (channelOf dwChannel)]⟩
    | .start => ⟨.busy, pXdmad, [xdmacGetChannelIsr (channelOf dwChannel)]⟩
    | .allocated | .inXfr | .done | .halted =>
        ⟨.ok, pXdmad, xdmacGetChannelIsr (channelOf dwChannel) ::
          configureAccesses dwChannel pXdmaParam dwXdmaDescCfg dwXdmaDescAddr dwXdmaIntEn⟩

def startTransfer : Outcome :=
  if pXdmad.numChannels ≤ channelOf dwChannel then ⟨.error, pXdmad, []⟩
  else match (pXdmad.xdmaChannels (channelOf dwChannel)).state with
    | .free => ⟨.error, pXdmad, []⟩
    | .start => ⟨.busy, pXdmad, []⟩
    | .allocated | .inXfr | .done | .halted =>
        ⟨.ok, pXdmad.setState (channelOf dwChannel) .start,
          xdmacEnableChannel (channelOf dwChannel) ::
            if pXdmad.pollingMode = 0 then [xdmacEnableGIt (channelOf dwChannel)] else []⟩

def stopTransfer : Outcome :=
  if pXdmad.numChannels ≤ channelOf dwChannel then ⟨.error, pXdmad, []⟩
  else
    ⟨.ok, pXdmad.setState (channelOf dwChannel) .halted,
      [xdmacDisableChannel (channelOf dwChannel),
        xdmacDisableChannelIt (channelOf dwChannel) 0xFF#8,
        xdmacGetChannelIsr (channelOf dwChannel), xdmacGetGlobalChStatus]⟩

/-- The result, and whether `XDMAD_Handler` is called before it is returned. -/
def isTransferDone : XdmadRc × Bool :=
  if pXdmad.numChannels ≤ channelOf dwChannel then (.error, false)
  else match (pXdmad.xdmaChannels (channelOf dwChannel)).state with
    | .allocated | .done => (.ok, false)
    | .free => (.error, false)
    | .start | .inXfr | .halted => (.busy, pXdmad.pollingMode ≠ 0)

end Calls

section Handler

/-- The registers of a channel that the handler reads. -/
structure ChannelStatus where
  interruptStatus : BitVec 32
  interruptMask : BitVec 32

def xdmacCisBis : BitVec 32 := 0x1#32

def xdmacCisLis : BitVec 32 := 0x1#32 <<< 1

def xdmacCisDis : BitVec 32 := 0x1#32 <<< 2

def xdmacCimLim : BitVec 32 := 0x1#32 <<< 1

/-- A call of a channel's callback. -/
structure CallbackCall where
  fCallback : BitVec 32
  iChannel : BitVec 8
  pArg : BitVec 32

/-- How an iteration of the handler's loop ends. -/
inductive Iteration where
  | returned
  | continued (driver : Xdmad) (bExec : Bool) (calls : List CallbackCall)

/-- Whether the masked status of a channel that has been disabled ends its transfer. -/
def transferEnded (status : ChannelStatus) : Bool :=
  let xdmaChannelIntStatus := status.interruptStatus &&& status.interruptMask
  (xdmaChannelIntStatus &&& xdmacCisBis ≠ 0 && status.interruptMask &&& xdmacCimLim = 0) ||
    xdmaChannelIntStatus &&& xdmacCisLis ≠ 0 || xdmaChannelIntStatus &&& xdmacCisDis ≠ 0

/-- One iteration. `none` is a call through a callback that is not set. -/
def handleChannel (pDmad : Xdmad) (xdmaGlobaIntStatus xdmaGlobalChStatus : BitVec 32)
    (status : ChannelStatus) (iChannel : BitVec 8) (bExec : Bool) : Option Iteration :=
  let pCh := pDmad.xdmaChannels iChannel
  let call := CallbackCall.mk pCh.fCallback iChannel pCh.pArg
  if xdmaGlobaIntStatus &&& channelBit iChannel = 0 then some (.continued pDmad bExec [])
  else if pCh.state = .free then some .returned
  else if xdmaGlobalChStatus &&& channelBit iChannel = 0 then
    if transferEnded status then
      some (.continued (pDmad.setState iChannel .done) true
        (if pCh.fCallback ≠ 0 then [call] else []))
    else some (.continued pDmad false [])
  else
    let executed := if bExec ∧ pCh.fCallback ≠ 0 then [call] else []
    if status.interruptStatus &&& xdmacCisBis = 0 then some (.continued pDmad bExec executed)
    else if pCh.fCallback = 0 then none
    else some (.continued pDmad bExec (call :: executed))

/-- The loop from a channel on, with callbacks that leave the driver alone. -/
def handleChannels (xdmaGlobaIntStatus xdmaGlobalChStatus : BitVec 32)
    (statuses : BitVec 8 → ChannelStatus) :
    List (BitVec 8) → Xdmad → Bool → Option (Xdmad × List CallbackCall)
  | [], pDmad, _ => some (pDmad, [])
  | iChannel :: rest, pDmad, bExec => do
      match ← handleChannel pDmad xdmaGlobaIntStatus xdmaGlobalChStatus (statuses iChannel)
        iChannel bExec with
      | .returned => some (pDmad, [])
      | .continued pDmad bExec calls =>
          let handled ←
            handleChannels xdmaGlobaIntStatus xdmaGlobalChStatus statuses rest pDmad bExec
          some (handled.1, calls ++ handled.2)

def Xdmad.channelNumbers (pDmad : Xdmad) : List (BitVec 8) :=
  (List.range pDmad.numChannels.toNat).map (BitVec.ofNat 8)

def xdmadHandler (pDmad : Xdmad) (xdmaGlobaIntStatus xdmaGlobalChStatus : BitVec 32)
    (statuses : BitVec 8 → ChannelStatus) : Option (Xdmad × List CallbackCall) :=
  if xdmaGlobaIntStatus &&& 0xFFFFFF#32 ≠ 0 then
    handleChannels xdmaGlobaIntStatus xdmaGlobalChStatus statuses pDmad.channelNumbers pDmad false
  else some (pDmad, [])

end Handler

end SamV71Runtime.XdmaDriver
