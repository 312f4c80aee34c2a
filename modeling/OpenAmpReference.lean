import OpenAmpReference.IrqShmem.Ring
import OpenAmpReference.IrqShmem.Echo
import OpenAmpReference.IrqShmem.Wakeup
import OpenAmpReference.Library.Fairness
import OpenAmpReference.IrqShmem.Progress
import OpenAmpReference.IrqShmem.Freertos
import OpenAmpReference.Zephyr.MultiServices
import OpenAmpReference.LegacyApps.PlatformPoll
import OpenAmpReference.LinuxRpc.Simulation
import OpenAmpReference.RpcServers.Interchange
import OpenAmpReference.LinuxCommon.BindChrdev
import OpenAmpReference.LegacyApps.NocopyQueue
import OpenAmpReference.LegacyApps.Sessions
import OpenAmpReference.LegacyApps.RegionList
import OpenAmpReference.LoadFw.Apu
import OpenAmpReference.LoadFw.Rpu
import OpenAmpReference.LoadFw.TcmCoverage
import OpenAmpReference.Zephyr.ShellSend
import OpenAmpReference.LegacyApps.EchoPing
import OpenAmpReference.RpcServers.Signals
import OpenAmpReference.Library.Ledger
import OpenAmpReference.RpcServers.ProxyMain
import OpenAmpReference.RpcServers.ProxyExit
import OpenAmpReference.LegacyApps.NocopyPing
import OpenAmpReference.LinuxRpc.Codec
import OpenAmpReference.LinuxRpc.ReadBuffers
import OpenAmpReference.RpcServers.Confined
import OpenAmpReference.RpcServers.ReadRequests
import OpenAmpReference.LoadFw.Image
import OpenAmpReference.LoadFw.Resolve
import OpenAmpReference.LegacyApps.MatrixMultiply
import OpenAmpReference.LegacyApps.FloodPing
import OpenAmpReference.LinuxCommon.EchoTest
import OpenAmpReference.Library.CString
import OpenAmpReference.LinuxCommon.LookupChannel
import OpenAmpReference.LinuxCommon.EptDevName
import OpenAmpReference.LinuxCommon.ExportDev
import OpenAmpReference.Zephyr.ReplyContent
import OpenAmpReference.Library.BlockPool
import OpenAmpReference.Zephyr.IvshmemLayout
import OpenAmpReference.LegacyApps.SharedBuffers
import OpenAmpReference.LegacyApps.ProcInit
import OpenAmpReference.LegacyApps.SampleEcho
import OpenAmpReference.Library.Mailbox
import OpenAmpReference.LegacyApps.FloodEcho
import OpenAmpReference.LegacyApps.FloodProgress
import OpenAmpReference.LinuxRpc.Transparency
import OpenAmpReference.Library.EventLoop
import OpenAmpReference.Zephyr.Doorbell
import OpenAmpReference.Zephyr.DoorbellProgress
import OpenAmpReference.Library.Duplex
import OpenAmpReference.LegacyApps.MatrixRounds
import OpenAmpReference.LegacyApps.MatrixService
import OpenAmpReference.LinuxCommon.MatMulDemo
import OpenAmpReference.LegacyApps.PollProgress
