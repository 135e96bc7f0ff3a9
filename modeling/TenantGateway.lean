import TenantGateway.Main
import TenantGateway.RateLimit.RemoteStore
import TenantGateway.Settings.Summary
import TenantGateway.Simulation.Connections
import TenantGateway.Simulation.Conversation
import TenantGateway.Simulation.Files
import TenantGateway.Proofs.Pipeline.Accounting
import TenantGateway.Proofs.RateLimit.Budget
import TenantGateway.Proofs.RateLimit.Isolation
import TenantGateway.Proofs.RateLimit.Skew
import TenantGateway.Proofs.Tenant.Rejection
import TenantGateway.Proofs.Tenant.Bookkeeping
import TenantGateway.Proofs.Tenant.Freshness
import TenantGateway.Proofs.Tenant.Difference
import TenantGateway.Proofs.Tenant.Shielding
import TenantGateway.Proofs.RateLimit.Holdings
import TenantGateway.Proofs.RateLimit.Lifetime
import TenantGateway.Proofs.RateLimit.Waiting
import TenantGateway.Proofs.Pipeline.Identity
import TenantGateway.Proofs.Tenant.Shutdown
import TenantGateway.Proofs.Usage.Closures
import TenantGateway.Proofs.Usage.Delay
import TenantGateway.Proofs.Service.Resolution
import TenantGateway.Proofs.Service.Routing
import TenantGateway.Proofs.Service.BackendPaths
import TenantGateway.Proofs.Service.Graceful
import TenantGateway.Proofs.Service.Deadlines
import TenantGateway.Proofs.Metrics.Reconciliation
import TenantGateway.Proofs.Service.Sessions
import TenantGateway.Proofs.Service.Exchanges
import TenantGateway.Proofs.Usage.Payloads
import TenantGateway.Proofs.Pipeline.Way
import TenantGateway.Proofs.Usage.Attempts
import TenantGateway.Proofs.Settings.Overrides
import TenantGateway.Proofs.RateLimit.Replies
import TenantGateway.Proofs.RateLimit.Archive
import TenantGateway.Proofs.RateLimit.Purging
import TenantGateway.Proofs.Settings.ServiceLists
import TenantGateway.Proofs.Tenant.Credentials
import TenantGateway.Proofs.Tenant.KeyFiles
import TenantGateway.Proofs.RateLimit.Slots
import TenantGateway.Proofs.RateLimit.Rollover
