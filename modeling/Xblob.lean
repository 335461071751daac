import Xblob.Computation.Alignment
import Xblob.Computation.BitShifts
import Xblob.Computation.Deadlines
import Xblob.Computation.Ends
import Xblob.Computation.Fallible
import Xblob.Computation.Generations
import Xblob.Computation.Interleavings
import Xblob.Computation.KeyedLists
import Xblob.Computation.Limbs
import Xblob.Computation.LinkedTrees
import Xblob.Computation.Lockstep
import Xblob.Computation.Loops
import Xblob.Computation.Newest
import Xblob.Computation.Program
import Xblob.Computation.Records
import Xblob.Computation.Runs
import Xblob.Computation.SelfDelimiting
import Xblob.Computation.Spans
import Xblob.Computation.Stores
import Xblob.Computation.Tilings
import Xblob.Computation.Triangles
import Xblob.Computation.Utf8
import Xblob.Model.Bus.Bus
import Xblob.Model.CApi.Utf8
import Xblob.Model.Common
import Xblob.Model.Core.Scheduler
import Xblob.Model.Cpu.Decoder
import Xblob.Model.Cpu.Executor
import Xblob.Model.Cpu.Instruction
import Xblob.Model.Cpu.Registers
import Xblob.Model.Cpu.Step
import Xblob.Model.Formats.Xbe
import Xblob.Model.Formats.Xdvdfs
import Xblob.Model.Formats.XdvdfsVolume
import Xblob.Model.Gpu.Context3d
import Xblob.Model.Gpu.Device
import Xblob.Model.Gpu.Floats
import Xblob.Model.Gpu.Pushbuffer
import Xblob.Model.Gpu.Rasterizer
import Xblob.Model.Gpu.Textures
import Xblob.Model.Gpu.Types
import Xblob.Model.Gpu.VertexAccesses
import Xblob.Model.Gpu.Vertices
import Xblob.Model.Input.XidController
import Xblob.Model.Io.BinaryReader
import Xblob.Model.Io.SubrangeByteSource
import Xblob.Model.Kernel.DebugSink
import Xblob.Model.Kernel.ExportRegistry
import Xblob.Model.Kernel.FileServices
import Xblob.Model.Kernel.GuestContext
import Xblob.Model.Kernel.GuestHeap
import Xblob.Model.Kernel.Handlers
import Xblob.Model.Kernel.KernelHle
import Xblob.Model.Kernel.KernelState
import Xblob.Model.Kernel.KernelTime
import Xblob.Model.Kernel.SyncObjects
import Xblob.Model.Kernel.ThreadScheduler
import Xblob.Model.Kernel.VirtualMemoryManager
import Xblob.Model.Loader.XbeLoader
import Xblob.Model.Machine.KernelTrap
import Xblob.Model.Machine.Pushbuffers
import Xblob.Model.Machine.Session
import Xblob.Model.Machine.SessionLoop
import Xblob.Model.Memory.AddressSpace
import Xblob.Model.Memory.VirtualMemory
import Xblob.Model.Pci.BusBridge
import Xblob.Model.Pci.ConfigHeader
import Xblob.Model.Usb.OhciTraversal
import Xblob.Model.Usb.UsbTypes
import Xblob.Model.Vfs.HandleTable
import Xblob.Model.Vfs.Path
import Xblob.Model.Vfs.Vfs
import Xblob.Model.Vfs.XdvdfsVfsVolume
import Xblob.Interface.Arithmetic
import Xblob.Interface.BudgetRuns
import Xblob.Interface.DataPages
import Xblob.Interface.DebugSink
import Xblob.Interface.Drawing
import Xblob.Interface.Encodings
import Xblob.Interface.ExceptionReports
import Xblob.Interface.ExportArguments
import Xblob.Interface.ExportRuns
import Xblob.Interface.FileCalls
import Xblob.Interface.GuestHeaps
import Xblob.Interface.Handles
import Xblob.Interface.Interrupts
import Xblob.Interface.KernelObjects
import Xblob.Interface.KernelRuns
import Xblob.Interface.MappedSpace
import Xblob.Interface.PagePrecision
import Xblob.Interface.PageWalk
import Xblob.Interface.PciRules
import Xblob.Interface.PhysicalMemory
import Xblob.Interface.PreciseFaults
import Xblob.Interface.Pushbuffers
import Xblob.Interface.RepeatedStrings
import Xblob.Interface.SchedulerRuns
import Xblob.Interface.SessionMemory
import Xblob.Interface.SessionRuns
import Xblob.Interface.SplitWrite
import Xblob.Interface.ThreadRuns
import Xblob.Interface.UsbTransfers
import Xblob.Interface.Utf8Strings
import Xblob.Interface.VirtualRegions
import Xblob.Interface.VolumeFiles
import Xblob.Interface.Volumes
import Xblob.Interface.XbeLoads
import Xblob.Analysis.BarProtocol
import Xblob.Analysis.BlockAccess
import Xblob.Analysis.BudgetRuns
import Xblob.Analysis.ByteGroup3
import Xblob.Analysis.CacheTwins
import Xblob.Analysis.CarryChains
import Xblob.Analysis.CloseRouting
import Xblob.Analysis.Comparisons
import Xblob.Analysis.DataStores
import Xblob.Analysis.DebugSink
import Xblob.Analysis.DecodedForms
import Xblob.Analysis.DirectoryQueries
import Xblob.Analysis.DirectoryTables
import Xblob.Analysis.DispatchCounts
import Xblob.Analysis.Divisions
import Xblob.Analysis.EngineRegisters
import Xblob.Analysis.ExceptionReports
import Xblob.Analysis.ExecutorRuns
import Xblob.Analysis.ExecutorShape
import Xblob.Analysis.ExportArguments
import Xblob.Analysis.FileCalls
import Xblob.Analysis.FilePointers
import Xblob.Analysis.FileReads
import Xblob.Analysis.FlagBits
import Xblob.Analysis.GamepadReports
import Xblob.Analysis.GateDelivery
import Xblob.Analysis.GpuAccesses
import Xblob.Analysis.GuestHeaps
import Xblob.Analysis.Handles
import Xblob.Analysis.HeapBlocks
import Xblob.Analysis.HeapManagers
import Xblob.Analysis.InterruptReturns
import Xblob.Analysis.KernelSteps
import Xblob.Analysis.KernelTimes
import Xblob.Analysis.KernelTraps
import Xblob.Analysis.LoadExtents
import Xblob.Analysis.LoadImages
import Xblob.Analysis.LoadPlans
import Xblob.Analysis.LoadRollback
import Xblob.Analysis.MappedSpace
import Xblob.Analysis.MemoryExports
import Xblob.Analysis.NormalPaths
import Xblob.Analysis.PageAccess
import Xblob.Analysis.PagePrecision
import Xblob.Analysis.PciBridge
import Xblob.Analysis.PciCalls
import Xblob.Analysis.PciMappings
import Xblob.Analysis.PciRules
import Xblob.Analysis.PhysicalAccess
import Xblob.Analysis.Pops
import Xblob.Analysis.PreciseFaults
import Xblob.Analysis.PrivateMemory
import Xblob.Analysis.PushbufferPaths
import Xblob.Analysis.PushbufferRuns
import Xblob.Analysis.PushbufferStates
import Xblob.Analysis.Pushbuffers
import Xblob.Analysis.ReadyQueue
import Xblob.Analysis.Reallocations
import Xblob.Analysis.RepeatedStrings
import Xblob.Analysis.RoundTrip
import Xblob.Analysis.SchedulerClock
import Xblob.Analysis.SchedulerFiring
import Xblob.Analysis.SchedulerSplitting
import Xblob.Analysis.SelfContained
import Xblob.Analysis.Semaphores
import Xblob.Analysis.SessionLaws
import Xblob.Analysis.SessionMemory
import Xblob.Analysis.SessionModes
import Xblob.Analysis.SessionPauses
import Xblob.Analysis.SessionRuns
import Xblob.Analysis.SharedEdges
import Xblob.Analysis.Shifts
import Xblob.Analysis.SplitWrites
import Xblob.Analysis.StackDiscipline
import Xblob.Analysis.StopReasons
import Xblob.Analysis.SuspendedThreads
import Xblob.Analysis.Textures
import Xblob.Analysis.ThreadStarts
import Xblob.Analysis.ThreadSteps
import Xblob.Analysis.TimerExpiry
import Xblob.Analysis.TlbCoherence
import Xblob.Analysis.TransferBuffers
import Xblob.Analysis.Utf8Strings
import Xblob.Analysis.VertexFetches
import Xblob.Analysis.VirtualReads
import Xblob.Analysis.VirtualRegions
import Xblob.Analysis.VolumeFiles
import Xblob.Analysis.VolumePaths
import Xblob.Analysis.VolumeWalks
import Xblob.Analysis.WideWrites
