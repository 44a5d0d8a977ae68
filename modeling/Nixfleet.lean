import Nixfleet.Agent.Crash
import Nixfleet.Agent.Outbound
import Nixfleet.Agent.Outcome
import Nixfleet.Agent.Rollback
import Nixfleet.Agent.Sequence
import Nixfleet.Agent.Snapshots
import Nixfleet.Agent.Sustained
import Nixfleet.Auth.Identity
import Nixfleet.Auth.Replay
import Nixfleet.ControlPlane.Budget
import Nixfleet.ControlPlane.Halt
import Nixfleet.ControlPlane.InFlight
import Nixfleet.ControlPlane.Progress
import Nixfleet.ControlPlane.Quarantine
import Nixfleet.ControlPlane.RowMachine
import Nixfleet.ControlPlane.Retention
import Nixfleet.ControlPlane.Server
import Nixfleet.ControlPlane.Soak
import Nixfleet.ControlPlane.StaleDispatch
import Nixfleet.ControlPlane.Supersession
import Nixfleet.ControlPlane.Waves
import Nixfleet.Host.Facts
import Nixfleet.Host.Mirror
import Nixfleet.Host.Probes
import Nixfleet.MkFleet.Wire
import Nixfleet.Reconciler.GateFacts
import Nixfleet.Reconciler.PctBudget
import Nixfleet.Reconciler.TickBudget
import Nixfleet.Reconciler.PlanOrder
import Nixfleet.Release.Delivery
import Nixfleet.Release.Signature
import Nixfleet.Host.Contract
import Nixfleet.ControlPlane.Synthesis
import Nixfleet.ControlPlane.SynthesisGates
import Nixfleet.ControlPlane.Compliance
import Nixfleet.ControlPlane.ChannelOrder
import Nixfleet.ControlPlane.SignedClosures
import Nixfleet.Proto.RolloutId
import Nixfleet.Reconciler.Verify
import Nixfleet.ControlPlane.RolloutRoutes
import Nixfleet.Agent.ManifestCache
import Nixfleet.Agent.ManifestPoll
import Nixfleet.MkFleet.RolloutIds
import Nixfleet.ControlPlane.RowFollows
import Nixfleet.ControlPlane.Reverted
import Nixfleet.ControlPlane.TerminalHosts
import Nixfleet.Auth.Revocations
import Nixfleet.Reconciler.Acceptance
import Nixfleet.Agent.ProbeWorker
import Nixfleet.Auth.Cutoff
import Nixfleet.ControlPlane.Deferrals
import Nixfleet.MkFleet.Merge
import Nixfleet.Agent.AdvanceTick
import Nixfleet.Agent.Freshness
import Nixfleet.Auth.DerSignature
import Nixfleet.Auth.HostKey
import Nixfleet.Reconciler.WaveIndex
import Nixfleet.ControlPlane.RecordRows
import Nixfleet.Agent.Evidence
import Nixfleet.ControlPlane.EvidenceRows
import Nixfleet.Lib.JsonForm
import Nixfleet.Agent.EvidenceSignature
import Nixfleet.MkFleet.HealthChecks
import Nixfleet.Agent.Realise
import Nixfleet.Auth.SigningKey
import Nixfleet.Agent.Dispatch
import Nixfleet.Agent.Shipping
import Nixfleet.ControlPlane.HostReplay
import Nixfleet.ControlPlane.Readiness
import Nixfleet.ControlPlane.LongPoll
import Nixfleet.ControlPlane.Attested
import Nixfleet.ControlPlane.Completion
