import GatewayOperator.Backoff
import GatewayOperator.Cluster.Call
import GatewayOperator.Cluster.Wire
import GatewayOperator.Controller
import GatewayOperator.Definition.CustomKind
import GatewayOperator.Definition.Kinds
import GatewayOperator.Definition.Schema
import GatewayOperator.Dict
import GatewayOperator.Digest.Sha1
import GatewayOperator.Http.Exchange
import GatewayOperator.Http.Status
import GatewayOperator.Instant
import GatewayOperator.Json.Basic
import GatewayOperator.Json.Decode
import GatewayOperator.Json.MergePatch
import GatewayOperator.Json.Number
import GatewayOperator.Json.Patch
import GatewayOperator.Json.Reader
import GatewayOperator.Json.Shape
import GatewayOperator.Json.Shortest
import GatewayOperator.Json.Yaml
import GatewayOperator.Kube.Address
import GatewayOperator.Kube.Call
import GatewayOperator.Kube.Event
import GatewayOperator.Kube.Failure
import GatewayOperator.Kube.Interference
import GatewayOperator.Kube.Store
import GatewayOperator.Main
import GatewayOperator.Management.Client
import GatewayOperator.Management.Convergence
import GatewayOperator.Management.CrossId
import GatewayOperator.Management.Endpoint
import GatewayOperator.Management.Failure
import GatewayOperator.Management.HttpClient
import GatewayOperator.Management.Payload
import GatewayOperator.Management.Record
import GatewayOperator.Management.Resolution
import GatewayOperator.Metrics
import GatewayOperator.PassFailure
import GatewayOperator.Probe
import GatewayOperator.Program
import GatewayOperator.Reconcile.ApiDefinition
import GatewayOperator.Reconcile.Call
import GatewayOperator.Reconcile.Decision
import GatewayOperator.Reconcile.Finalizer
import GatewayOperator.Reconcile.Ingress
import GatewayOperator.Resource.ApiDefinition
import GatewayOperator.Resource.Core
import GatewayOperator.Resource.ManagementContext
import GatewayOperator.Resource.Meta
import GatewayOperator.Resource.Reference
import GatewayOperator.Settings
import GatewayOperator.Simulation
import GatewayOperator.Text.Base64
import GatewayOperator.Text.Blank
import GatewayOperator.Text.Composition
import GatewayOperator.Text.Cut
import GatewayOperator.Text.Decimal
import GatewayOperator.Text.Mark
import GatewayOperator.Text.Shown
import GatewayOperator.Text.Utf8
import GatewayOperator.Tls.Certificate
import GatewayOperator.Tls.Der
import GatewayOperator.Tls.Keypair
import GatewayOperator.Tls.Pem
import GatewayOperator.Tls.Reason
import GatewayOperator.Trust.Entry
import GatewayOperator.Trust.Ingress
import GatewayOperator.Trust.Publication
import GatewayOperator.Trust.Registry
import GatewayOperator.Url.Basic
import GatewayOperator.Url.Domain.Direction
import GatewayOperator.Url.Domain.Folding
import GatewayOperator.Url.Domain.Joiner
import GatewayOperator.Url.Domain.Name
import GatewayOperator.Url.Encoding
import GatewayOperator.Url.Host
import GatewayOperator.Url.Parser
import GatewayOperator.Url.Punycode
import GatewayOperator.Watch.Fingerprint
import GatewayOperator.Proofs.Backoff
import GatewayOperator.Proofs.Cluster.StatusPatch
import GatewayOperator.Proofs.Instant
import GatewayOperator.Proofs.Management.Addresses
import GatewayOperator.Proofs.Management.Confinement
import GatewayOperator.Proofs.Management.Derivation
import GatewayOperator.Proofs.Management.Discipline
import GatewayOperator.Proofs.Management.Encoding
import GatewayOperator.Proofs.Management.Excerpt
import GatewayOperator.Proofs.Management.Lawful
import GatewayOperator.Proofs.Management.Payload
import GatewayOperator.Proofs.Management.Promotion
import GatewayOperator.Proofs.Management.Requests
import GatewayOperator.Proofs.Management.Secrecy
import GatewayOperator.Proofs.Management.Setback
import GatewayOperator.Proofs.Management.Store
import GatewayOperator.Proofs.Management.Uniqueness
import GatewayOperator.Proofs.Program.Conversation
import GatewayOperator.Proofs.Program.Interleaving
import GatewayOperator.Proofs.Program.Interruption
import GatewayOperator.Proofs.Program.Monitor
import GatewayOperator.Proofs.Program.Parallel
import GatewayOperator.Proofs.Program.Pass
import GatewayOperator.Proofs.Reconcile.ApiDefinition
import GatewayOperator.Proofs.Reconcile.Clearance
import GatewayOperator.Proofs.Reconcile.Convergence
import GatewayOperator.Proofs.Reconcile.Credentials
import GatewayOperator.Proofs.Reconcile.Dangling
import GatewayOperator.Proofs.Reconcile.Dependents
import GatewayOperator.Proofs.Reconcile.FollowUp
import GatewayOperator.Proofs.Reconcile.Guarded
import GatewayOperator.Proofs.Reconcile.History
import GatewayOperator.Proofs.Reconcile.Ingress
import GatewayOperator.Proofs.Reconcile.Lifecycle
import GatewayOperator.Proofs.Reconcile.Orphans
import GatewayOperator.Proofs.Reconcile.Overwriting
import GatewayOperator.Proofs.Reconcile.Removal
import GatewayOperator.Proofs.Reconcile.Reporting
import GatewayOperator.Proofs.Reconcile.Retention
import GatewayOperator.Proofs.Reconcile.Secrecy
import GatewayOperator.Proofs.Reconcile.Site
import GatewayOperator.Proofs.Reconcile.Surroundings
import GatewayOperator.Proofs.Reconcile.Synchronization
import GatewayOperator.Proofs.Resource.Meta
import GatewayOperator.Proofs.Run
import GatewayOperator.Proofs.Text.Cut
import GatewayOperator.Proofs.Text.Decimal
import GatewayOperator.Proofs.Text.Path
import GatewayOperator.Proofs.Tls.Keypair
import GatewayOperator.Proofs.Trust.Caution
import GatewayOperator.Proofs.Trust.Contention
import GatewayOperator.Proofs.Trust.Effect
import GatewayOperator.Proofs.Trust.Forgetting
import GatewayOperator.Proofs.Trust.Interruption
import GatewayOperator.Proofs.Trust.Isolation
import GatewayOperator.Proofs.Trust.Overtaking
import GatewayOperator.Proofs.Trust.Publishing
import GatewayOperator.Proofs.Trust.Refusal
import GatewayOperator.Proofs.Trust.Relay
import GatewayOperator.Proofs.Trust.Reloading
import GatewayOperator.Proofs.Trust.Resumption
import GatewayOperator.Proofs.Trust.Watching
import GatewayOperator.Proofs.Trust.Withdrawal
import GatewayOperator.Proofs.Trust.Withdrawing
import GatewayOperator.Proofs.Watch.Separation
