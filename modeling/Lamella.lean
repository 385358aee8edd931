import Lamella.MachineCore
import Lamella.StopAndWaitCore
import Lamella.StopAndWait
import Lamella.StopAndWaitSessions
import Lamella.StopAndWaitReuse
import Lamella.ChannelCore
import Lamella.IcdCore
import Lamella.FirmwareCore
import Lamella.FirmwareMoves
import Lamella.FirmwareChecks
import Lamella.FirmwareTotal
import Lamella.FirmwareServers
import Lamella.MetricsCore
import Lamella.AwaitCore
import Lamella.AwaitMoves
import Lamella.ExchangeCore
import Lamella.ExchangeMoves
import Lamella.ExchangeTurns
import Lamella.NetworkCore
import Lamella.Endpoint
import Lamella.NetworkMoves
import Lamella.NetworkChecks
import Lamella.NetworkSessions
import Lamella.NetworkTraces
import Lamella.NetworkRefinement
import Lamella.Delivery
import Lamella.TapDelivery
import Lamella.Wraparound
import Lamella.Recovery
import Lamella.HandshakeCore
import Lamella.HotplugCore
import Lamella.Hotplug
import Lamella.DevicesCore
import Lamella.Devices
import Lamella.NusbCore
import Lamella.Reroute
import Lamella.Hedging
import Lamella.Accounting
import Lamella.TapPipelineCore
import Lamella.TapPipeline
import Lamella.TapFairness
import Lamella.FaultInjectionCore
import Lamella.FaultBudget
import Lamella.FaultInjection
import Lamella.WindowsCore
import Lamella.Download
import Lamella.Target
import Lamella.FaultEnvironment
import Lamella.PingCore
import Lamella.Ping
import Lamella.TapNetworkCore
import Lamella.TapNetwork
import Lamella.EndToEnd
import Lamella.MachineReach
import Lamella.Service
import Lamella.Progress
import Lamella.MachineSimulation
import Lamella.TestBridgeCore
import Lamella.TestBridge
import Lamella.TextCore
import Lamella.SystemNetworkCore
import Lamella.MainCore
import Lamella.SystemNetwork
import Lamella.WireguardRoutes
import Lamella.Shutdown
import Lamella.ThroughputCore
import Lamella.ThroughputMoves
import Lamella.Throughput
import Lamella.HotplugSessions
import Lamella.BandwidthCore
import Lamella.Bandwidth
import Lamella.LogFrame
import Lamella.SessionId
