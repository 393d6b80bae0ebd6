import EasyMc.ControlPlane.Sessions
import EasyMc.ControlPlane.Decisions
import EasyMc.ControlPlane.Atomicity
import EasyMc.Relay.Simulation
import EasyMc.Relay.Traffic
import EasyMc.Relay.Streams
import EasyMc.Relay.Lifecycle
import EasyMc.Relay.Bytes
import EasyMc.Relay.Sessions
import EasyMc.Relay.Replays
import EasyMc.Relay.Admission
import EasyMc.Runtime.Manager
import EasyMc.Runtime.Processes
import EasyMc.Runtime.StaleEvents
import EasyMc.Runtime.Readiness
import EasyMc.Runtime.LineBuffer
import EasyMc.Runtime.ServerCommands
import EasyMc.Desktop.Requests
import EasyMc.Desktop.Redaction
import EasyMc.Desktop.State
import EasyMc.Desktop.Egress
import EasyMc.ControlPlane.Issuing
import EasyMc.ControlPlane.HttpBoundary
import EasyMc.Desktop.Dto
import EasyMc.Library.Script
import EasyMc.Desktop.RoomController
import EasyMc.Desktop.Tunnels
import EasyMc.Desktop.Cleanup
import EasyMc.Desktop.Reporting
import EasyMc.ControlPlane.Isolation
import EasyMc.Library.Stringify
import EasyMc.Desktop.RuntimeBridge
import EasyMc.Desktop.ResponseSize
import EasyMc.Library.Weights
import EasyMc.Desktop.RedactionWeights
import EasyMc.Desktop.ResponseBound
import EasyMc.Desktop.Invites
import EasyMc.Desktop.BridgeCommands
import EasyMc.Desktop.Reconfiguration
import EasyMc.Desktop.ActivePlan
import EasyMc.ServerBridge.Bridge
import EasyMc.ServerBridge.Ledger
import EasyMc.ServerBridge.Admission
import EasyMc.ServerBridge.Whitelist
import EasyMc.Relay.TcpPreview
import EasyMc.Library.Values
import EasyMc.Library.Closure
import EasyMc.Packs.Compatibility
import EasyMc.Packs.DependencyPlan
import EasyMc.Packs.Renormalizing
import EasyMc.Packs.Agreement
import EasyMc.Packs.Verdict
import EasyMc.Packs.Catalog
import EasyMc.Packs.PlanPartition
import EasyMc.Packs.Mrpack
import EasyMc.Packs.Checksum
import EasyMc.Packs.AppliedLocks
import EasyMc.Packs.Archive
import EasyMc.Packs.ArchiveRoundTrip
import EasyMc.Packs.Totality
import EasyMc.Packs.Locks
import EasyMc.Safety.PackPolicy
import EasyMc.Library.Numbers
import EasyMc.Safety.Redaction
import EasyMc.Safety.ReleaseGate
import EasyMc.Safety.AuditEvents
import EasyMc.Library.Expiry
import EasyMc.ControlPlane.Candidates
import EasyMc.Library.Tables
import EasyMc.ControlPlane.PostgresRepository
import EasyMc.ControlPlane.RateLimits
import EasyMc.ControlPlane.RateBounds
import EasyMc.ControlPlane.StoredRecords
import EasyMc.ControlPlane.InviteIndex
import EasyMc.ControlPlane.ExpiryCleanup
import EasyMc.Library.Paths
import EasyMc.Library.Reading
import EasyMc.Desktop.HostPlan
import EasyMc.Desktop.Materialization
import EasyMc.Desktop.PlanAgreement
import EasyMc.Desktop.ServerProperties
import EasyMc.Relay.Secrecy
import EasyMc.Desktop.ManagedFiles
import EasyMc.Desktop.FabricBootstrap
import EasyMc.Desktop.Materializing
import EasyMc.Library.Hosts
import EasyMc.Packs.ReservedHosts
import EasyMc.Library.Recent
import EasyMc.Desktop.Console
import EasyMc.ServerBridge.ClaimedIdentity
import EasyMc.Library.Replacing
import EasyMc.Library.Sparing
import EasyMc.Desktop.HostTunnel
import EasyMc.Client.LoopbackPlan
import EasyMc.Client.Secrecy
import EasyMc.Client.Connecting
import EasyMc.Desktop.Preservation
import EasyMc.ControlPlane.PostgresChains
import EasyMc.ControlPlane.PostgresAgreement
import EasyMc.Desktop.BrokerHosts
import EasyMc.Packs.PackReadiness
import EasyMc.Runtime.JavaProbes
