import SamV71Runtime.Runs
import SamV71Runtime.RingHistory
import SamV71Runtime.KeyedLog
import SamV71Runtime.Rtems
import SamV71Runtime.HalClock
import SamV71Runtime.HalClockReaders
import SamV71Runtime.TickAccounting
import SamV71Runtime.HalClockProgress
import SamV71Runtime.HalSemaphores
import SamV71Runtime.CyclicRequests
import SamV71Runtime.CyclicTable
import SamV71Runtime.CyclicSchedule
import SamV71Runtime.TimeConversions
import SamV71Runtime.FloorDivision
import SamV71Runtime.ClockTree
import SamV71Runtime.ActivationLog
import SamV71Runtime.ActivationLogHistory
import SamV71Runtime.ActivationLogThreads
import SamV71Runtime.ActivationLogFreeze
import SamV71Runtime.ActivationLogWriters
import SamV71Runtime.ByteMemory
import SamV71Runtime.ByteFields
import SamV71Runtime.ActivationLogMemory
import SamV71Runtime.BoundedQueue
import SamV71Runtime.RequestQueues
import SamV71Runtime.QueueHighWater
import SamV71Runtime.RequestConservation
import SamV71Runtime.QueueHighWaterSenders
import SamV71Runtime.RunningStatistics
import SamV71Runtime.IdleCpuUsage
import SamV71Runtime.StackUsage
import SamV71Runtime.ExecutionTimes
import SamV71Runtime.Crc
import SamV71Runtime.CrcErrors
import SamV71Runtime.CrcDistance
import SamV71Runtime.DeathReport
import SamV71Runtime.ReportChecksum
import SamV71Runtime.ReportCorruption
import SamV71Runtime.Thumb
import SamV71Runtime.FaultHandler
import SamV71Runtime.FaultReport
import SamV71Runtime.AlignedBlocks
import SamV71Runtime.DataCacheRegions
import SamV71Runtime.Alternation
import SamV71Runtime.ProcessRequest
import SamV71Runtime.Xdmad
import SamV71Runtime.XdmadOwnership
import SamV71Runtime.XdmadLifecycle
import SamV71Runtime.XdmadTransfers
import SamV71Runtime.CriticalSection
import SamV71Runtime.XdmadThreads
import SamV71Runtime.XdmadSequential
import SamV71Runtime.XdmadRefusals
import SamV71Runtime.XdmadHandler
import SamV71Runtime.TransferProtocol
import SamV71Runtime.XdmacRegisters
import SamV71Runtime.XdmadController
import SamV71Runtime.XdmadReports
import SamV71Runtime.XdmadBlockTransfers
import SamV71Runtime.DeviceLife
