import UsageBilling.Main
import UsageBilling.Proofs.Limits.Counting
import UsageBilling.Proofs.Reporting.DoubleBilling
import UsageBilling.Proofs.Signature.Acceptance
import UsageBilling.Proofs.Tracker.Traffic
import UsageBilling.Provider.Document
import UsageBilling.Simulation.Calls
import UsageBilling.Proofs.Service.Conduct
import UsageBilling.Proofs.Service.Rows
import UsageBilling.Proofs.Service.Pool
import UsageBilling.Proofs.Subscription.Conduct
import UsageBilling.Proofs.Subscription.Consistency
import UsageBilling.Proofs.Webhook.Acceptance
import UsageBilling.Proofs.Webhook.Contract
import UsageBilling.Proofs.Reporting.Accounts
import UsageBilling.Proofs.Reporting.Passes
import UsageBilling.Proofs.Reporting.Outcomes
import UsageBilling.Proofs.Tracker.Unflushed
import UsageBilling.Proofs.Tracker.Sweeping
import UsageBilling.Proofs.Tracker.Closing
import UsageBilling.Proofs.Tracker.Shutdown
import UsageBilling.Proofs.Subscription.Operations
import UsageBilling.Proofs.Subscription.Failures
import UsageBilling.Proofs.Subscription.Identity
import UsageBilling.Proofs.Subscription.FirstAccess
import UsageBilling.Proofs.Store.Syncing
import UsageBilling.Proofs.Subscription.Ownership
import UsageBilling.Proofs.Subscription.Enrollment
import UsageBilling.Proofs.Subscription.Racing
import UsageBilling.Proofs.Http.Confinement
import UsageBilling.Proofs.Limits.Neighbours
import UsageBilling.Proofs.Limits.Abreast
import UsageBilling.Proofs.Http.Isolation
import UsageBilling.Proofs.Store.Retention
import UsageBilling.Proofs.Tracker.Wakeups
import UsageBilling.Proofs.Tracker.Readings
import UsageBilling.Proofs.Tracker.Holding
import UsageBilling.Proofs.Tracker.Landing
import UsageBilling.Proofs.Tracker.Unseen
import UsageBilling.Proofs.Subscription.WriteThrough
import UsageBilling.Proofs.Subscription.Reconciliation
import UsageBilling.Proofs.Json.Documents
import UsageBilling.Proofs.Tracker.Views
import UsageBilling.Proofs.Tracker.Retries
import UsageBilling.Proofs.Tracker.Alone
import UsageBilling.Proofs.Limits.Overview
import UsageBilling.Proofs.Tracker.Backlog
import UsageBilling.Proofs.Limits.Saturation
import UsageBilling.Proofs.Time.Tiling
import UsageBilling.Proofs.Subscription.Periods
import UsageBilling.Proofs.Subscription.Overwriting
import UsageBilling.Proofs.Store.Partition
import UsageBilling.Proofs.Provider.Forms
import UsageBilling.Proofs.Tracker.Counts
import UsageBilling.Proofs.Reporting.Keys
