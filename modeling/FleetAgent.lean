import FleetAgent.Collector.Rehearsal
import FleetAgent.Context.Timeline
import FleetAgent.Controller.Rehearsal
import FleetAgent.Identity.Disk
import FleetAgent.Main
import FleetAgent.Reporting.Held
import FleetAgent.Text.Hex
import FleetAgent.Tunnel.Rehearsal
import FleetAgent.WebSocket.Messages
import FleetAgent.Proofs.Collector.Safety
import FleetAgent.Proofs.Collector.Convergence
import FleetAgent.Proofs.Controller.Addresses
import FleetAgent.Proofs.Controller.Dialling
import FleetAgent.Proofs.Wire.Applications
import FleetAgent.Proofs.Wire.Observations
import FleetAgent.Proofs.Wire.BundleRoundTrip
import FleetAgent.Proofs.Reporting.Overtaking
import FleetAgent.Proofs.Controller.Credentials
import FleetAgent.Proofs.Identity.OwnerOnly
import FleetAgent.Proofs.Enrollment.Protocol
import FleetAgent.Proofs.Collector.Lifecycle
import FleetAgent.Proofs.Agent.Polling
import FleetAgent.Proofs.Agent.Quiescence
import FleetAgent.Proofs.Agent.Stopping
import FleetAgent.Proofs.Device.ReleaseFile
import FleetAgent.Proofs.Orphans.Diff
import FleetAgent.Proofs.Reporting.Forgetting
import FleetAgent.Proofs.Wire.Skipping
import FleetAgent.Proofs.Reporting.Transitions
import FleetAgent.Proofs.Context.Race
import FleetAgent.Proofs.Context.Lineage
import FleetAgent.Proofs.Collector.Accounting
import FleetAgent.Proofs.Wire.ObservationRoundTrip
import FleetAgent.Proofs.Wire.BodyRoundTrip
import FleetAgent.Proofs.Controller.Endpoints
import FleetAgent.Proofs.Tunnel.Rests
import FleetAgent.Proofs.Tunnel.Sessions
import FleetAgent.Proofs.Agent.Complaints
import FleetAgent.Proofs.Supervisor.Changes
import FleetAgent.Proofs.Ticker.Tasks
