import MonsaEbpf.Lib.StepProgram
import MonsaEbpf.Lib.Interleaving
import MonsaEbpf.Lib.FirstTouch
import MonsaEbpf.Lib.CellMap
import MonsaEbpf.Lib.Runs
import MonsaEbpf.Lib.TwoRuns
import MonsaEbpf.Lib.CallStacks
import MonsaEbpf.Lib.StampMap
import MonsaEbpf.Lib.CallGroups
import MonsaEbpf.Lib.Sampling
import MonsaEbpf.Lib.Wire
import MonsaEbpf.Lib.Ipv4Frame
import MonsaEbpf.Bpf.Helpers
import MonsaEbpf.Bpf.Counting
import MonsaEbpf.Bpf.Packet
import MonsaEbpf.S1.Uretprobe
import MonsaEbpf.S2.Kprobe
import MonsaEbpf.S2.Kretprobe
import MonsaEbpf.S2.KretprobeRuns
import MonsaEbpf.S2.XdpPass
import MonsaEbpf.S2.TcClassifier
import MonsaEbpf.S2.SocketFilter
import MonsaEbpf.S2.Parsers
import MonsaEbpf.S2.TcAccounting
import MonsaEbpf.S2.TcSampling
import MonsaEbpf.S2.FirstTouchCounts
import MonsaEbpf.S2.LatencyStats
import MonsaEbpf.S2.TimedExit
import MonsaEbpf.S2.FentryFexit
import MonsaEbpf.S2.Uretprobe
import MonsaEbpf.S2.LsmFileOpen
import MonsaEbpf.S2.RingPressure
import MonsaEbpf.S2.EntryExitPairing
import MonsaEbpf.S2.UretprobeCalls
import MonsaEbpf.Lib.CopiedCounts
import MonsaEbpf.S1.UretprobeCopies
import MonsaEbpf.S1.UretprobeProcesses
import MonsaEbpf.Lib.ThreadLives
import MonsaEbpf.S2.UretprobeLeaks
import MonsaEbpf.Bpf.CountingHandler
import MonsaEbpf.S2.Tracepoint
import MonsaEbpf.S2.Uprobe
import MonsaEbpf.S2.CgroupCounters
import MonsaEbpf.S2.CgroupSkb
import MonsaEbpf.S2.PerfEvent
import MonsaEbpf.S2.EventCounts
import MonsaEbpf.Lib.SharedCounter
import MonsaEbpf.Bpf.SampleTickets
import MonsaEbpf.S2.SamplingTickets
import MonsaEbpf.S2.TcRereads
import MonsaEbpf.S2.FexitNumbers
import MonsaEbpf.Lib.DottedQuad
import MonsaEbpf.S2.XdpHandler
import MonsaEbpf.Lib.Printf
import MonsaEbpf.S2.XdpLine
import MonsaEbpf.Bpf.Sockets
import MonsaEbpf.S2.SkLookup
import MonsaEbpf.S2.EndpointText
import MonsaEbpf.S1.SkLookup
import MonsaEbpf.Bpf.PerCpuCounters
import MonsaEbpf.S1.CgroupDevice
import MonsaEbpf.S1.CgroupSockAddr
import MonsaEbpf.S1.CountReaders
import MonsaEbpf.Lib.LossyCounts
import MonsaEbpf.S2.CgroupSkbAddresses
import MonsaEbpf.S2.XdpCounters
import MonsaEbpf.Lib.CLayout
import MonsaEbpf.S2.RecordFormats
import MonsaEbpf.User.PollLoops
import MonsaEbpf.Lib.KeyCursor
import MonsaEbpf.S1.PortDump
import MonsaEbpf.S2.LatencyFolds
import MonsaEbpf.Lib.SharedView
import MonsaEbpf.Lib.CheckedStores
import MonsaEbpf.Bpf.PointedValue
import MonsaEbpf.S2.KretprobeExtremes
import MonsaEbpf.S1.TcController
import MonsaEbpf.S2.XdpController
import MonsaEbpf.Lib.ByteReads
import MonsaEbpf.S2.PacketReads
import MonsaEbpf.S2.StaleRecords
import MonsaEbpf.Lib.Snprintf
import MonsaEbpf.User.Timestamps
import MonsaEbpf.Bpf.EmitTickets
import MonsaEbpf.S1.Kprobe
import MonsaEbpf.S2.ReportNumbers
import MonsaEbpf.Lib.MovingCursor
import MonsaEbpf.Bpf.MapDump
import MonsaEbpf.S1.Uprobe
import MonsaEbpf.S1.LiveDumps
import MonsaEbpf.Lib.LogLines
import MonsaEbpf.S1.FentryFexit
import MonsaEbpf.S1.LsmFileOpen
import MonsaEbpf.S1.EventLogs
import MonsaEbpf.Lib.SharedSums
import MonsaEbpf.Bpf.OtherKeys
import MonsaEbpf.S2.LatencyHandlers
import MonsaEbpf.S2.LatencyRaces
import MonsaEbpf.Bpf.ManyKeys
import MonsaEbpf.S2.ConcurrentCounts
import MonsaEbpf.Bpf.LiveCounters
import MonsaEbpf.S1.CounterLoops
import MonsaEbpf.Bpf.Names
import MonsaEbpf.Lib.ReportRows
import MonsaEbpf.S2.EventLines
import MonsaEbpf.S2.EventReports
import MonsaEbpf.S2.ForgedReports
import MonsaEbpf.Lib.Custody
import MonsaEbpf.User.Lifecycle
import MonsaEbpf.S1.Mains
import MonsaEbpf.S2.Mains
