import MorningstarModbus.Lib.Table
import MorningstarModbus.Lib.Loop
import MorningstarModbus.Lib.Text
import MorningstarModbus.Lib.Group
import MorningstarModbus.Lib.Calendar
import MorningstarModbus.Lib.Tiered
import MorningstarModbus.Domain.Models
import MorningstarModbus.Controllers.IdentityGraph
import MorningstarModbus.Controllers.Inventory
import MorningstarModbus.Controllers.Scope
import MorningstarModbus.Controllers.RegistryGraph
import MorningstarModbus.Controllers.RegistryInvariant
import MorningstarModbus.Controllers.LegacyRows
import MorningstarModbus.Controllers.RegistryRun
import MorningstarModbus.Controllers.Permanence
import MorningstarModbus.Controllers.HistoryScope
import MorningstarModbus.Controllers.Attribution
import MorningstarModbus.Persistence.StorageV2
import MorningstarModbus.Persistence.StorageTables
import MorningstarModbus.Persistence.MaintenanceRun
import MorningstarModbus.Persistence.ArchiveDurability
import MorningstarModbus.Persistence.Pruning
import MorningstarModbus.Persistence.IncidentLifecycle
import MorningstarModbus.Intelligence.Incidents
import MorningstarModbus.Controllers.Lifecycle
import MorningstarModbus.Controllers.Presence
import MorningstarModbus.Intelligence.IncidentScans
import MorningstarModbus.Lib.Dict
import MorningstarModbus.Runtime.Presence
import MorningstarModbus.Runtime.Rebinding
import MorningstarModbus.Capture.Replay
import MorningstarModbus.Capture.Simulation
import MorningstarModbus.History.ControllerData
import MorningstarModbus.History.Export
import MorningstarModbus.History.Merge
import MorningstarModbus.Systems.Contributions
import MorningstarModbus.History.TimeRange
import MorningstarModbus.Runtime.Backoff
import MorningstarModbus.Systems.BucketLimit
import MorningstarModbus.Polling.Service
import MorningstarModbus.Polling.AutoInterval
import MorningstarModbus.Lib.Program
import MorningstarModbus.Runtime.PollPersistence
import MorningstarModbus.Systems.History
import MorningstarModbus.Systems.Latest
import MorningstarModbus.Systems.Stream
import MorningstarModbus.Lib.Formula
import MorningstarModbus.Systems.PowerFlow
import MorningstarModbus.Systems.Events
import MorningstarModbus.Intelligence.IncidentEvents
import MorningstarModbus.Lib.PyFloat
import MorningstarModbus.Lib.PyNumber
import MorningstarModbus.Lib.SameBut
import MorningstarModbus.Catalog.Types
import MorningstarModbus.Catalog.Compatibility
import MorningstarModbus.Catalog.Scaling
import MorningstarModbus.Catalog.Profile
import MorningstarModbus.Catalog.Agreement
import MorningstarModbus.Catalog.PollReads
import MorningstarModbus.Catalog.FirmwareGates
import MorningstarModbus.Intelligence.Resolver
import MorningstarModbus.Intelligence.Validation
import MorningstarModbus.Intelligence.HealthScore
import MorningstarModbus.Capture.Recorder
import MorningstarModbus.Capture.Redaction
import MorningstarModbus.Lib.Changes
import MorningstarModbus.Lib.CivilDay
import MorningstarModbus.Lib.Crc
import MorningstarModbus.Protocol.FrameCheck
import MorningstarModbus.Protocol.Identification
import MorningstarModbus.Controllers.LifecycleRuns
import MorningstarModbus.History.Retained
import MorningstarModbus.History.Analytics
import MorningstarModbus.History.Gaps
import MorningstarModbus.History.RetainedDays
import MorningstarModbus.History.LiveCounts
import MorningstarModbus.Lib.Words
import MorningstarModbus.History.TableParser
import MorningstarModbus.Systems.Quality
import MorningstarModbus.Lib.Adjacent
import MorningstarModbus.History.Energy
import MorningstarModbus.Lib.Join
import MorningstarModbus.Persistence.Series
import MorningstarModbus.Persistence.Rollups
import MorningstarModbus.Lib.Runs
import MorningstarModbus.Persistence.StateRuns
import MorningstarModbus.Persistence.StorageRuns
import MorningstarModbus.Persistence.TierAccounts
import MorningstarModbus.History.BucketStats
import MorningstarModbus.History.ChargeStates
import MorningstarModbus.Intelligence.ChargeCycles
import MorningstarModbus.Forecasting.ChargeForecast
import MorningstarModbus.Lib.Percentile
import MorningstarModbus.Forecasting.SolarForecast
import MorningstarModbus.Forecasting.Accuracy
import MorningstarModbus.Lib.Padded
import MorningstarModbus.Catalog.Versions
import MorningstarModbus.Lib.Tally
import MorningstarModbus.Maintenance.Diff
import MorningstarModbus.Lib.Gather
import MorningstarModbus.Lib.Coroutine
import MorningstarModbus.Lib.FairLock
import MorningstarModbus.Lib.IpNetwork
import MorningstarModbus.Config.Settings
import MorningstarModbus.Catalog.Registry
import MorningstarModbus.Catalog.Requests
import MorningstarModbus.Discovery.Probe
import MorningstarModbus.Discovery.Service
import MorningstarModbus.Intelligence.IncidentMirror
import MorningstarModbus.Intelligence.SolarBaseline
import MorningstarModbus.Runtime.PollCycle
import MorningstarModbus.Runtime.PollLoop
import MorningstarModbus.Transports.Shared
import MorningstarModbus.Transports.RtuClose
import MorningstarModbus.Capture.Verification
import MorningstarModbus.Systems.EnergyLedger
import MorningstarModbus.Lib.KeyedGraph
import MorningstarModbus.Systems.Components
import MorningstarModbus.Lib.SingleFlight
import MorningstarModbus.Runtime.HistoryBackfill
import MorningstarModbus.Polling.Benchmark
