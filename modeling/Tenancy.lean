import Tenancy.Health
import Tenancy.Json.Pointer
import Tenancy.Main
import Tenancy.Model.Pattern
import Tenancy.Operator.Reconcile
import Tenancy.Operator.Remote.Handler
import Tenancy.Proofs.Cluster.Address
import Tenancy.Proofs.Cluster.Errand
import Tenancy.Proofs.Cluster.Keeper
import Tenancy.Proofs.Cluster.Picture
import Tenancy.Proofs.Cluster.Presence
import Tenancy.Proofs.Cluster.Registry
import Tenancy.Proofs.Cluster.Service
import Tenancy.Proofs.Cluster.Store
import Tenancy.Proofs.Json.Merging
import Tenancy.Proofs.Json.Reading
import Tenancy.Proofs.Json.Records
import Tenancy.Proofs.Model.Decoder
import Tenancy.Proofs.Model.Pull
import Tenancy.Proofs.Model.Reference
import Tenancy.Proofs.Model.Stream
import Tenancy.Proofs.Model.Variant
import Tenancy.Proofs.Object.Document
import Tenancy.Proofs.Run.Children
import Tenancy.Proofs.Run.Frame
import Tenancy.Proofs.Run.Inventory
import Tenancy.Proofs.Run.Models
import Tenancy.Proofs.Run.Namesakes
import Tenancy.Proofs.Run.Pass
import Tenancy.Proofs.Run.Reports
import Tenancy.Proofs.Run.Schedule
import Tenancy.Proofs.Run.Similar
import Tenancy.Proofs.Run.Smooth
import Tenancy.Proofs.Run.System
import Tenancy.Proofs.Run.Trace
import Tenancy.Proofs.Run.Twin
import Tenancy.Proofs.Run.Unseen
import Tenancy.Proofs.Run.Upkeep
import Tenancy.Proofs.Run.Version
import Tenancy.Proofs.Run.World
import Tenancy.Proofs.Tenant.Admission
import Tenancy.Proofs.Tenant.Convergence
import Tenancy.Proofs.Tenant.Documents
import Tenancy.Proofs.Tenant.Hosts
import Tenancy.Proofs.Tenant.Ownership
import Tenancy.Proofs.Tenant.Plan
import Tenancy.Proofs.Tenant.Provenance
import Tenancy.Proofs.Tenant.Provisioning
import Tenancy.Proofs.Tenant.References
import Tenancy.Proofs.Tenant.Separation
import Tenancy.Proofs.Text.Utf8
import Tenancy.Proofs.Workspace.Creation
import Tenancy.Proofs.Workspace.Deletion
import Tenancy.Proofs.Workspace.Description
import Tenancy.Proofs.Workspace.Failure
import Tenancy.Proofs.Workspace.Generation
import Tenancy.Proofs.Workspace.Guard
import Tenancy.Proofs.Workspace.History
import Tenancy.Proofs.Workspace.Lifecycle
import Tenancy.Proofs.Workspace.Patch
import Tenancy.Proofs.Workspace.Repetition
import Tenancy.Proofs.Workspace.Status
import Tenancy.Proofs.Workspace.StatusDocument
import Tenancy.Proofs.Workspace.Writes
import Tenancy.Simulation.Controller
import Tenancy.Simulation.Handler
import Tenancy.Simulation.Interleaving
import Tenancy.Simulation.Runtime
import Tenancy.Simulation.Script
import Tenancy.Workspace.Definition
