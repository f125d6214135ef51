import TenantPlatform.Data.Bytes
import TenantPlatform.Data.CounterVec
import TenantPlatform.Data.Evolution
import TenantPlatform.Data.Guards
import TenantPlatform.Data.Ledger
import TenantPlatform.Data.Pages
import TenantPlatform.Data.Projection
import TenantPlatform.Data.References
import TenantPlatform.Data.Runs
import TenantPlatform.Data.Table
import TenantPlatform.Data.Tagged
import TenantPlatform.Data.Text
import TenantPlatform.Data.View
import TenantPlatform.Effect.Answers
import TenantPlatform.Effect.Concurrent
import TenantPlatform.Effect.Lockstep
import TenantPlatform.Effect.Moments
import TenantPlatform.Effect.Prog
import TenantPlatform.Effect.Relational
import TenantPlatform.Effect.Trace
import TenantPlatform.Model.Crypto
import TenantPlatform.Model.Database
import TenantPlatform.Model.Exceptions
import TenantPlatform.Model.K8sResources
import TenantPlatform.Model.Kubernetes
import TenantPlatform.Model.Manifests
import TenantPlatform.Model.Platform
import TenantPlatform.Model.Proxy.Client
import TenantPlatform.Model.Proxy.Cookies
import TenantPlatform.Model.Proxy.Handler
import TenantPlatform.Model.Proxy.Metrics
import TenantPlatform.Model.Proxy.StickyProxy
import TenantPlatform.Model.Proxy.Url
import TenantPlatform.Model.Routes
import TenantPlatform.Model.Services
import TenantPlatform.Model.Settings
import TenantPlatform.Model.WebhookDispatcher
import TenantPlatform.Model.WebhookTestReceiver
import TenantPlatform.Verification.Cluster.Calls
import TenantPlatform.Verification.Cluster.Inventory
import TenantPlatform.Verification.Cluster.Objects
import TenantPlatform.Verification.Cluster.Permanence
import TenantPlatform.Verification.Cluster.Quotas
import TenantPlatform.Verification.Isolation.Convergence
import TenantPlatform.Verification.Isolation.Credentials
import TenantPlatform.Verification.Isolation.Hardening
import TenantPlatform.Verification.Isolation.Network
import TenantPlatform.Verification.Jobs.Announcement
import TenantPlatform.Verification.Jobs.Builds
import TenantPlatform.Verification.Jobs.Calls
import TenantPlatform.Verification.Jobs.Deployments
import TenantPlatform.Verification.Jobs.Discipline
import TenantPlatform.Verification.Jobs.Ending
import TenantPlatform.Verification.Jobs.History
import TenantPlatform.Verification.Jobs.Lifecycle
import TenantPlatform.Verification.Jobs.Platform
import TenantPlatform.Verification.Jobs.Progress
import TenantPlatform.Verification.Jobs.Quiet
import TenantPlatform.Verification.Jobs.Requests
import TenantPlatform.Verification.Jobs.Settlement
import TenantPlatform.Verification.Jobs.Starting
import TenantPlatform.Verification.Jobs.Tables
import TenantPlatform.Verification.Keys.Acceptance
import TenantPlatform.Verification.Keys.Mediation
import TenantPlatform.Verification.Keys.Operations
import TenantPlatform.Verification.Keys.Rejection
import TenantPlatform.Verification.Proxy.Affinity
import TenantPlatform.Verification.Proxy.Codec
import TenantPlatform.Verification.Proxy.Cookies
import TenantPlatform.Verification.Proxy.Decision
import TenantPlatform.Verification.Proxy.Endpoints
import TenantPlatform.Verification.Proxy.Forwarding
import TenantPlatform.Verification.Proxy.Metrics
import TenantPlatform.Verification.Proxy.Routing
import TenantPlatform.Verification.Proxy.Serving
import TenantPlatform.Verification.Proxy.Status
import TenantPlatform.Verification.Rollout.Controller
import TenantPlatform.Verification.Rollout.LastWriter
import TenantPlatform.Verification.Rollout.Redeploy
import TenantPlatform.Verification.Rollout.Verdict
import TenantPlatform.Verification.Tenancy.Authorship
import TenantPlatform.Verification.Tenancy.Confinement
import TenantPlatform.Verification.Tenancy.Constraints
import TenantPlatform.Verification.Tenancy.Creation
import TenantPlatform.Verification.Tenancy.Deletion
import TenantPlatform.Verification.Tenancy.Names
import TenantPlatform.Verification.Tenancy.NonInterference
import TenantPlatform.Verification.Tenancy.Paging
import TenantPlatform.Verification.Tenancy.Persistence
import TenantPlatform.Verification.Tenancy.Placement
import TenantPlatform.Verification.Tenancy.Refusals
import TenantPlatform.Verification.Tenancy.Removal
import TenantPlatform.Verification.Tenancy.Scope
import TenantPlatform.Verification.Tenancy.Statements
import TenantPlatform.Verification.Tenancy.Updates
import TenantPlatform.Verification.Webhooks.FanOut
import TenantPlatform.Verification.Webhooks.Secrecy
import TenantPlatform.Verification.Webhooks.Signature
import TenantPlatform.Data.Json
import TenantPlatform.Model.JsonLoads
import TenantPlatform.Verification.Jobs.Budget
import TenantPlatform.Verification.Webhooks.Bodies
import TenantPlatform.Verification.Proxy.Agreement
import TenantPlatform.Verification.Tenancy.Snapshots
