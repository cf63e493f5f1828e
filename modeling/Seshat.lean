import Seshat.Commands.AppIds
import Seshat.Commands.BestStream
import Seshat.Commands.CertRotation
import Seshat.Commands.Comparisons
import Seshat.Commands.CustomProvider
import Seshat.Commands.DscpMarks
import Seshat.Commands.HotReload
import Seshat.Commands.MultiStream
import Seshat.Commands.Overrides
import Seshat.Commands.Pacing
import Seshat.Commands.ProtocolLabel
import Seshat.Commands.ReloadTiming
import Seshat.Commands.Watchdog
import Seshat.Gateway.Lifecycle
import Seshat.Gateway.PathWiring
import Seshat.Lib.Hops
import Seshat.Matrix.Compatible
import Seshat.Matrix.DatagramCap
import Seshat.Matrix.References
import Seshat.Matrix.Selections
import Seshat.Matrix.Stamped
import Seshat.Matrix.TargetPorts
import Seshat.Metrics.Aggregate
import Seshat.Metrics.Counting
import Seshat.Metrics.Outliers
import Seshat.Metrics.Reordering
import Seshat.Proto.Codec
import Seshat.Report.Calendar
import Seshat.Report.GeneratedNames
import Seshat.Report.RoundTrip
import Seshat.Run.Calibrate
import Seshat.Run.CoreSets
import Seshat.Run.Distributed
import Seshat.Run.HandshakeFigures
import Seshat.Run.MeasureWindow
import Seshat.Run.OfferedRate
import Seshat.Run.PingPong
import Seshat.Run.SendTimes
import Seshat.Run.ShmReceive
import Seshat.Run.SweepGrid
import Seshat.Run.UdpGateway
import Seshat.System.Peaks
import Seshat.System.PerfHuman
import Seshat.System.ProcFiles
import Seshat.Transport.FramerProgress
import Seshat.Transport.LocalRules
import Seshat.Transport.Pairing
import Seshat.Transport.Resync
import Seshat.Transport.ShmNull
import Seshat.Transport.Tproxy
import Seshat.Transport.Vectored
import Seshat.Workload.SafetyVerdict
