import ChirpStackSimulator.Lib.Run
import ChirpStackSimulator.Lib.Hex
import ChirpStackSimulator.Lib.Counter
import ChirpStackSimulator.Lib.Interleave
import ChirpStackSimulator.Lib.Changes
import ChirpStackSimulator.Lib.Tally
import ChirpStackSimulator.Lib.Objects
import ChirpStackSimulator.Lib.Prog
import ChirpStackSimulator.Lib.Table
import ChirpStackSimulator.Lib.Shared
import ChirpStackSimulator.Config
import ChirpStackSimulator.Http
import ChirpStackSimulator.SystemConfig
import ChirpStackSimulator.StartRequest
import ChirpStackSimulator.Simulation
import ChirpStackSimulator.Lifecycle
import ChirpStackSimulator.OneRun
import ChirpStackSimulator.StopSticky
import ChirpStackSimulator.StatusDiagram
import ChirpStackSimulator.LoRaWAN
import ChirpStackSimulator.Device
import ChirpStackSimulator.SessionKeys
import ChirpStackSimulator.Join
import ChirpStackSimulator.Downlink
import ChirpStackSimulator.DataUp
import ChirpStackSimulator.AnomalyDuration
import ChirpStackSimulator.Drift
import ChirpStackSimulator.ManualAnomaly
import ChirpStackSimulator.Gateway
import ChirpStackSimulator.DownlinkReach
import ChirpStackSimulator.DownlinkLoop
import ChirpStackSimulator.UplinkLoop
import ChirpStackSimulator.Flatline
import ChirpStackSimulator.FrameCounter
import ChirpStackSimulator.Topology
import ChirpStackSimulator.TopologySync
import ChirpStackSimulator.Poller
import ChirpStackSimulator.Calls
import ChirpStackSimulator.Setup
import ChirpStackSimulator.FailedInit
import ChirpStackSimulator.Discovery
import ChirpStackSimulator.TenantIsolation
import ChirpStackSimulator.Handlers
import ChirpStackSimulator.Bootstrap
import ChirpStackSimulator.Routes
import ChirpStackSimulator.PassiveGuard
import ChirpStackSimulator.ServedSetup
import ChirpStackSimulator.Resolution
import ChirpStackSimulator.OrgConfigs
import ChirpStackSimulator.Metrics
import ChirpStackSimulator.Intervals
import ChirpStackSimulator.IntervalFloor
import ChirpStackSimulator.MissingConfigs
import ChirpStackSimulator.RestartFlow
import ChirpStackSimulator.Reconnect
import ChirpStackSimulator.DeviceRegistry
import ChirpStackSimulator.GatewayRegistry
import ChirpStackSimulator.Quiescence
import ChirpStackSimulator.Lib.FirstFit
import ChirpStackSimulator.MockNames
import ChirpStackSimulator.Lib.Buffers
import ChirpStackSimulator.LogStream
import ChirpStackSimulator.Degradation
import ChirpStackSimulator.Lib.Decimal
import ChirpStackSimulator.Preview
import ChirpStackSimulator.DeviceTable
import ChirpStackSimulator.LinkMetrics
import ChirpStackSimulator.DailyReport
import ChirpStackSimulator.BootstrapWorkers
import ChirpStackSimulator.Lib.Shelves
import ChirpStackSimulator.BootstrapStore
import ChirpStackSimulator.BootstrapFind
import ChirpStackSimulator.BootstrapConverge
import ChirpStackSimulator.Updates
import ChirpStackSimulator.GatewayPublish
import ChirpStackSimulator.DownlinkAcks
import ChirpStackSimulator.SmtpDelivery
import ChirpStackSimulator.Lib.MapRange
import ChirpStackSimulator.SnapshotDiff
import ChirpStackSimulator.Lib.Pages
import ChirpStackSimulator.DevicePages
import ChirpStackSimulator.DeviceEnumeration
import ChirpStackSimulator.KeyAgreement
import ChirpStackSimulator.GatewaySelection
import ChirpStackSimulator.Lib.Spacing
import ChirpStackSimulator.Stagger
import ChirpStackSimulator.Lib.Layout
import ChirpStackSimulator.KeySeparation
import ChirpStackSimulator.DefaultPayload
import ChirpStackSimulator.Lib.Channel
import ChirpStackSimulator.MetricChannel
import ChirpStackSimulator.Lib.EventStream
import ChirpStackSimulator.LogFraming
import ChirpStackSimulator.Lib.JsNumber
import ChirpStackSimulator.Telemetry
import ChirpStackSimulator.HumidityWalk
import ChirpStackSimulator.TablePages
import ChirpStackSimulator.Lib.Schema
import ChirpStackSimulator.SchemaMigration
import ChirpStackSimulator.Lib.TomlString
import ChirpStackSimulator.Lib.Toml
import ChirpStackSimulator.ConfigFile
import ChirpStackSimulator.Lib.LocalTime
import ChirpStackSimulator.LogPurge
import ChirpStackSimulator.Pagination
import ChirpStackSimulator.Lib.Wrap
import ChirpStackSimulator.MachineRange
import ChirpStackSimulator.Transport
import ChirpStackSimulator.UplinkDelivery
import ChirpStackSimulator.Coverage
import ChirpStackSimulator.DownlinkDelivery
import ChirpStackSimulator.Console
import ChirpStackSimulator.Connections
import ChirpStackSimulator.EventForwarding
import ChirpStackSimulator.RequestWrites
import ChirpStackSimulator.SetupWizard
import ChirpStackSimulator.DeviceWizard
import ChirpStackSimulator.OrgForm
import ChirpStackSimulator.ChartHistory
import ChirpStackSimulator.TopologyNotices
import ChirpStackSimulator.NoticeOrder
import ChirpStackSimulator.NoticeRest
