import ControlPlane.Base.Table
import ControlPlane.Base.Runs
import ControlPlane.Base.Session
import ControlPlane.Tenant.State
import ControlPlane.Subscription.State
import ControlPlane.Billing.Lifecycle
import ControlPlane.Billing.InvoiceSync
import ControlPlane.Bench.Validators
import ControlPlane.Environment
import ControlPlane.Subscription.Service
import ControlPlane.Tenant.Policy
import ControlPlane.Tenant.Service
import ControlPlane.Billing.WebhookApplicationService
import ControlPlane.Billing.WebhookService
import ControlPlane.Billing.PaymentAttemptService
import ControlPlane.Billing.Reconciliation
import ControlPlane.Support.Dunning
import ControlPlane.Workers.Cycles
import ControlPlane.Workers.Tasks
import ControlPlane.Billing.Router
import ControlPlane.Support.AdminRouter
import ControlPlane.Tenant.Router
import ControlPlane.System
import ControlPlane.Frames
import ControlPlane.Billing.WebhookEffects
import ControlPlane.Billing.Delivery
import ControlPlane.Tenant.Writers
import ControlPlane.Watch
import ControlPlane.Workers.Watched
import ControlPlane.Permits
import ControlPlane.Deletion
import ControlPlane.AdminSuspension
import ControlPlane.Activation
import ControlPlane.Workers.SuspensionRace
import ControlPlane.Returns
import ControlPlane.Billing.Filing
import ControlPlane.Billing.Refusals
import ControlPlane.Preserved
import ControlPlane.Billing.Ledger
import ControlPlane.LedgerInvariant
import ControlPlane.RefusedEvents
import ControlPlane.Billing.Recording
import ControlPlane.DuplicateAnswers
import ControlPlane.DedupKeys
import ControlPlane.Billing.WebhookRequests
import ControlPlane.AccountedRequests
import ControlPlane.Billing.ConcurrentDeliveries
import ControlPlane.Billing.NewAttempts
import ControlPlane.OneCheckout
import ControlPlane.ChargedAgain
import ControlPlane.Subscription.Writes
import ControlPlane.LateFailures
import ControlPlane.Subscription.Linked
import ControlPlane.PayingTenants
import ControlPlane.OldInvoices
import ControlPlane.SubscriptionMoves
import ControlPlane.ProvisioningEntitlement
import ControlPlane.PaidNotions
import ControlPlane.ProvisioningCalls
import ControlPlane.StrandedTenants
import ControlPlane.Tenant.EnqueueRace
import ControlPlane.Identity.Security
import ControlPlane.Identity.LogoutAll
import ControlPlane.Identity.RefreshRace
import ControlPlane.Identity.TokenRace
import ControlPlane.Base.Watchdog
import ControlPlane.DunningSchedule
import ControlPlane.TrialExpiry
import ControlPlane.TrialRace
import ControlPlane.Billing.ReadModels
import ControlPlane.BillingGates
import ControlPlane.Entitlement
import ControlPlane.HiddenDebt
import ControlPlane.ShownReasons
import ControlPlane.VoidedInvoices
import ControlPlane.BillingExceptions
import ControlPlane.SyncedInvoices
import ControlPlane.OfferedPayments
import ControlPlane.TeamOwners
import ControlPlane.Base.ExpiringKey
import ControlPlane.Billing.Payment.Base
import ControlPlane.Billing.Payment.Gateways
import ControlPlane.ForgedWebhooks
import ControlPlane.MisreadPayments
import ControlPlane.NamedAttempts
import ControlPlane.SchedulerLock
import ControlPlane.TenantCreation
import ControlPlane.IdempotencyKey
import ControlPlane.PlanChanges
import ControlPlane.TaskEndings
import ControlPlane.CreditedOnce
import ControlPlane.SeparateLedgers
import ControlPlane.Bench.Domains
import ControlPlane.Base.Pieces
import ControlPlane.AcceptedSubdomains
import ControlPlane.CustomDomains
import ControlPlane.Base.UrlReference
import ControlPlane.SaasUi.OnboardingFlow
import ControlPlane.SaasUi.LoginRedirects
import ControlPlane.ConvertedAmounts
import ControlPlane.Workers.DryRuns
import ControlPlane.Tenant.BackupRace
import ControlPlane.Base.Patterns
import ControlPlane.Tenant.BackupService
import ControlPlane.Tenant.BackupArtifacts
import ControlPlane.Tenant.BackupCleanup
import ControlPlane.Base.Clauses
import ControlPlane.Tenant.PagedList
import ControlPlane.SaasUi.WorkspaceQueue
import ControlPlane.SaasUi.QueueFallback
import ControlPlane.SelectableApps
import ControlPlane.Base.OrderedKeys
import ControlPlane.Provisioning.Apps
import ControlPlane.Base.Base64
import ControlPlane.Billing.Payment.SelcomUrls
import ControlPlane.Workers.DeadLetters
import ControlPlane.Workers.Recovery
import ControlPlane.Support.JobLogs
import ControlPlane.SaasUi.JobLogPanel
import ControlPlane.Billing.Refreshes
import ControlPlane.ReconciledTwice
import ControlPlane.Base.Parts
import ControlPlane.Base.Growth
import ControlPlane.Books
import ControlPlane.Records
import ControlPlane.CreateJobs
import ControlPlane.Changes
import ControlPlane.TenantRecords
import ControlPlane.Base.Shares
import ControlPlane.TenantShares
import ControlPlane.TenantIsolation
import ControlPlane.BillingRecords
import ControlPlane.Base.Histories
import ControlPlane.Identity.Accounts
import ControlPlane.Identity.AccountChanges
import ControlPlane.Identity.AccountRequests
import ControlPlane.Identity.MailedTokens
import ControlPlane.Identity.UnrevealedAccounts
import ControlPlane.Identity.TokenActs
import ControlPlane.SaasUi.SessionClient
import ControlPlane.SaasUi.LostSessions
import ControlPlane.SaasUi.OverlappingRefreshes
import ControlPlane.SaasUi.KeptSessions
import ControlPlane.Base.ScopedRows
import ControlPlane.Features.Overrides
import ControlPlane.Support.SlaStates
