import Fleet.Cluster.Basic
import Fleet.Cluster.Controller
import Fleet.Cluster.Health
import Fleet.Cluster.MetaCluster
import Fleet.CommandLine.Argument
import Fleet.CommandLine.Help
import Fleet.CommandLine.Parser
import Fleet.Condition.Ledger
import Fleet.Definition.Fields
import Fleet.Definition.Manifest
import Fleet.Definition.Schema
import Fleet.Definition.Stored
import Fleet.Event
import Fleet.Experiment.Basic
import Fleet.Experiment.Connection
import Fleet.Experiment.Controller
import Fleet.Experiment.DataVolume
import Fleet.Experiment.Ingress
import Fleet.Experiment.Naming
import Fleet.Experiment.Progress
import Fleet.Experiment.Release
import Fleet.Experiment.Template
import Fleet.Experiment.Workload
import Fleet.Failure
import Fleet.Heartbeat.Endpoint
import Fleet.Heartbeat.Ingest
import Fleet.Heartbeat.Message
import Fleet.Json.Basic
import Fleet.Json.Decode
import Fleet.Json.Number
import Fleet.Json.Pointer
import Fleet.Json.Shape
import Fleet.Json.Source
import Fleet.Json.Writer
import Fleet.Lifecycle.Bus
import Fleet.Lifecycle.DeletionWatch
import Fleet.Lifecycle.Listener
import Fleet.Main
import Fleet.Network.MediaType
import Fleet.Network.Response
import Fleet.Network.SocketAddress
import Fleet.Object.Kind
import Fleet.Object.Metadata
import Fleet.Object.Selector
import Fleet.OrderedMap
import Fleet.Pass.Basic
import Fleet.Pass.Draft
import Fleet.Pass.Outcome
import Fleet.Platform.Node
import Fleet.Platform.Pod
import Fleet.Platform.Service
import Fleet.Platform.Volume
import Fleet.Program
import Fleet.Proofs.Addresses
import Fleet.Proofs.AgentContact
import Fleet.Proofs.BusDelivery
import Fleet.Proofs.Calendar
import Fleet.Proofs.ClusterIdempotence
import Fleet.Proofs.ClusterPhases
import Fleet.Proofs.Contract
import Fleet.Proofs.Convergence
import Fleet.Proofs.Experiment.ConnectionDetails
import Fleet.Proofs.Experiment.DataVolumes
import Fleet.Proofs.Experiment.Idempotence
import Fleet.Proofs.Experiment.IngressService
import Fleet.Proofs.Experiment.Observation
import Fleet.Proofs.Experiment.Origins
import Fleet.Proofs.Experiment.Pause
import Fleet.Proofs.Experiment.PhaseEvents
import Fleet.Proofs.Experiment.Phases
import Fleet.Proofs.Experiment.Plans
import Fleet.Proofs.Experiment.Readiness
import Fleet.Proofs.Experiment.Reports
import Fleet.Proofs.Experiment.ServiceSelection
import Fleet.Proofs.Experiment.SettledSteps
import Fleet.Proofs.Experiment.StepIsolation
import Fleet.Proofs.Experiment.Steps
import Fleet.Proofs.Experiment.SuccessfulPasses
import Fleet.Proofs.Experiment.WorkloadReadiness
import Fleet.Proofs.HeartbeatAdmission
import Fleet.Proofs.HeartbeatReception
import Fleet.Proofs.HeartbeatTimeout
import Fleet.Proofs.Heartbeats
import Fleet.Proofs.Interference
import Fleet.Proofs.Interleaving
import Fleet.Proofs.JsonRoundTrip
import Fleet.Proofs.JudgementInputs
import Fleet.Proofs.Judgements
import Fleet.Proofs.LedgerHistory
import Fleet.Proofs.Ledgers
import Fleet.Proofs.LiveVolumes.Errands
import Fleet.Proofs.LiveVolumes.History
import Fleet.Proofs.Occurrences
import Fleet.Proofs.OperationCounts
import Fleet.Proofs.OutcomeAggregation
import Fleet.Proofs.Ownership.Basic
import Fleet.Proofs.Ownership.DisjointPlaces
import Fleet.Proofs.Ownership.History
import Fleet.Proofs.Ownership.Inventory
import Fleet.Proofs.Ownership.PassCalls
import Fleet.Proofs.PlanFailures
import Fleet.Proofs.PlanGuards
import Fleet.Proofs.PlanOutcomes
import Fleet.Proofs.PlanStages
import Fleet.Proofs.PlanUpdates
import Fleet.Proofs.Race.Acknowledgement
import Fleet.Proofs.Race.Arrival
import Fleet.Proofs.Race.Basic
import Fleet.Proofs.Race.Credentials
import Fleet.Proofs.Race.History
import Fleet.Proofs.Race.Identity
import Fleet.Proofs.Race.Writers
import Fleet.Proofs.Registration
import Fleet.Proofs.Rehearsals
import Fleet.Proofs.Schedules
import Fleet.Proofs.Selectors
import Fleet.Proofs.Separation
import Fleet.Proofs.StatusTargets
import Fleet.Proofs.StatusWrites
import Fleet.Proofs.Stores
import Fleet.Proofs.Timestamps
import Fleet.Proofs.Transcripts
import Fleet.Proofs.Versions
import Fleet.Proofs.VolumeRelease.Basic
import Fleet.Proofs.VolumeRelease.Notices
import Fleet.Proofs.VolumeRelease.Sweeps
import Fleet.Rehearsal.Fault
import Fleet.Rehearsal.Script
import Fleet.Rehearsal.VolumeServer
import Fleet.Rehearsal.World
import Fleet.Report.Forms
import Fleet.Resource.Convergence
import Fleet.Server.Exchange
import Fleet.Server.Recorder
import Fleet.Server.Reply
import Fleet.Server.Request
import Fleet.Server.Session
import Fleet.Server.Startup
import Fleet.Server.Watch
import Fleet.Settings
import Fleet.Store.Call
import Fleet.Store.Inventory
import Fleet.Store.Memory
import Fleet.Text.Basic
import Fleet.Text.Extender
import Fleet.Text.Quoted
import Fleet.Text.Unassigned
import Fleet.Time.Date
import Fleet.Time.Delay
import Fleet.Time.Instant
import Fleet.Time.Timestamp
import Fleet.Yaml.Writer
