import MaestroKernel.Adaptive.Batches
import MaestroKernel.Adaptive.Coalescing
import MaestroKernel.Adaptive.Reversal
import MaestroKernel.Adaptive.Store
import MaestroKernel.Adaptive.Throttling
import MaestroKernel.Auth.Addresses
import MaestroKernel.Auth.ClientAddress
import MaestroKernel.Auth.Enrolment
import MaestroKernel.Auth.Lockout
import MaestroKernel.Auth.Obligation
import MaestroKernel.Auth.Reenrolment
import MaestroKernel.Auth.Replays
import MaestroKernel.Auth.Revocations
import MaestroKernel.Billing.Snapshots
import MaestroKernel.Billing.TopUpLedger
import MaestroKernel.Billing.UsageAccounts
import MaestroKernel.Capacity.Limits
import MaestroKernel.Capacity.Parity
import MaestroKernel.Checkout.Protocol
import MaestroKernel.ClaimKeys.Redemption
import MaestroKernel.Connectivity.Identity
import MaestroKernel.Connectivity.Overlap
import MaestroKernel.Delivery.Mail
import MaestroKernel.Delivery.Receipts
import MaestroKernel.Destinations.Default
import MaestroKernel.Durable.Concurrency
import MaestroKernel.Enterprise.Decisions
import MaestroKernel.Evaluation.Replay
import MaestroKernel.Evaluation.Revocation
import MaestroKernel.Gateway.Restarts
import MaestroKernel.Gateway.Runs
import MaestroKernel.Identity.Invalidation
import MaestroKernel.Market.Agreement
import MaestroKernel.Market.Conservation
import MaestroKernel.Market.Eligibility
import MaestroKernel.Market.Evidence
import MaestroKernel.Market.ExactlyOnce
import MaestroKernel.Market.History
import MaestroKernel.Market.Locking
import MaestroKernel.Market.Periods
import MaestroKernel.Market.RolloverReplay
import MaestroKernel.Market.Settlement
import MaestroKernel.Market.UsageService
import MaestroKernel.Pilot.Lifecycle
import MaestroKernel.Readiness.Agreement
import MaestroKernel.Redis.Queues
import MaestroKernel.Redis.Repair
import MaestroKernel.Redis.Resubmission
import MaestroKernel.Security.Binding
import MaestroKernel.Stores.Cancellation
import MaestroKernel.Stores.Leases
import MaestroKernel.Units.Consumption
import MaestroKernel.Workflow.Interventions
import MaestroKernel.Workflow.Lifecycle
import MaestroKernel.Workflow.Recovery
