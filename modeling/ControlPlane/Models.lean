import ControlPlane.Base.Table
import ControlPlane.Tenant.State
import ControlPlane.Subscription.State

/-!
# The rows of the database

One structure for each table the control plane's billing and tenant code reads or writes, and `Db`, the tables
together.  Identifiers (uuids in the code) are numbers.  Columns that no modelled function reads or compares (logs,
payload snapshots, prices, metadata) are left out.  `Db.flush` is what SQLAlchemy does to a changed row when it is
written: a row with an `onupdate` timestamp gets the current time, unless the code set the timestamp itself.
-/

namespace ControlPlane

/-- The status texts an invoice row can hold; the ones the code compares with have a name. -/
inductive InvoiceStatus where
  | draft | invoicingPending | paymentPending | paymentProcessing | pastDue | grace | suspended | closed
  | cancelled | paid | settled | open_ | unpaid | invoiced | overdue | void | canceled | voided | writtenOff
  | other (text : String)
  deriving DecidableEq, Repr

namespace InvoiceStatus

def text : InvoiceStatus → String
  | draft => "draft"
  | invoicingPending => "invoicing_pending"
  | paymentPending => "payment_pending"
  | paymentProcessing => "payment_processing"
  | pastDue => "past_due"
  | grace => "grace"
  | suspended => "suspended"
  | closed => "closed"
  | cancelled => "cancelled"
  | paid => "paid"
  | settled => "settled"
  | open_ => "open"
  | unpaid => "unpaid"
  | invoiced => "invoiced"
  | overdue => "overdue"
  | void => "void"
  | canceled => "canceled"
  | voided => "voided"
  | writtenOff => "written_off"
  | other text => text

end InvoiceStatus

inductive AttemptStatus where
  | created | checkoutStarted | pendingProviderConfirmation | settlementPending
  | paid | failed | expired | cancelled | reconciliationRequired
  deriving DecidableEq, Repr

inductive JobType where
  | create | backup | restore | delete
  deriving DecidableEq, Repr

inductive JobStatus where
  | queued | running | succeeded | failed
  deriving DecidableEq, Repr

inductive OutboxStatus where
  | pending | processing | processed | failed
  deriving DecidableEq, Repr

structure User where
  id : Nat
  email : String
  isAdmin : Bool
  emailVerified : Bool
  deriving DecidableEq, Repr

structure Organization where
  id : Nat
  name : String
  ownerId : Nat
  deriving DecidableEq, Repr

structure TenantMembership where
  id : Nat
  tenantId : Nat
  userId : Nat
  role : String
  deriving DecidableEq, Repr

structure Tenant where
  id : Nat
  ownerId : Nat
  organizationId : Option Nat
  subdomain : String
  domain : String
  siteName : String
  companyName : String
  status : TenantStatus
  paymentProvider : String
  paymentChannel : Option String
  dpoTransactionToken : Option String
  platformCustomerId : Option String
  updatedAt : Time
  deriving DecidableEq, Repr

structure PlanEntitlement where
  appSlug : String
  mandatory : Bool
  selectable : Bool
  deriving DecidableEq, Repr

structure Plan where
  id : Nat
  slug : String
  isActive : Bool
  isolationModel : String
  backupFrequency : String
  entitlements : List PlanEntitlement
  deriving DecidableEq, Repr

structure Subscription where
  id : Nat
  tenantId : Nat
  planId : Nat
  status : SubscriptionStatus
  trialEndsAt : Option Time
  cancelledAt : Option Time
  selectedApp : Option String
  paymentProvider : Option String
  providerSubscriptionId : Option String
  providerCustomerId : Option String
  providerCheckoutSessionId : Option String
  deriving DecidableEq, Repr

structure BillingAccount where
  id : Nat
  tenantId : Nat
  customerId : Option Nat
  erpCustomerId : Option String
  currency : String
  status : String
  deriving DecidableEq, Repr

structure BillingInvoice where
  id : Nat
  tenantId : Nat
  subscriptionId : Option Nat
  billingAccountId : Nat
  erpInvoiceId : Option String
  invoiceNumber : Option String
  amountDue : Int
  amountPaid : Int
  currency : String
  invoiceStatus : InvoiceStatus
  collectionStage : Option String
  dueDate : Option Time
  issuedAt : Option Time
  paidAt : Option Time
  lastSyncedAt : Option Time
  createdAt : Time
  deriving DecidableEq, Repr

/-- What `provider_response_snapshot` records about webhooks and reconciliations; the payloads are left out. -/
structure ProviderResponseSnapshot where
  lastWebhookEventType : Option String
  lastWebhookReceivedAt : Option Time
  reconciledStatus : Option String
  reconciledAt : Option Time
  deriving DecidableEq, Repr

structure PaymentAttempt where
  id : Nat
  tenantId : Nat
  subscriptionId : Option Nat
  billingInvoiceId : Nat
  provider : String
  providerReference : Option String
  amount : Int
  currency : String
  status : AttemptStatus
  failureReason : Option String
  checkoutUrl : Option String
  snapshot : ProviderResponseSnapshot
  createdAt : Time
  updatedAt : Time
  deriving DecidableEq, Repr

structure BillingEvent where
  id : Nat
  tenantId : Nat
  subscriptionId : Option Nat
  billingAccountId : Option Nat
  billingInvoiceId : Option Nat
  paymentAttemptId : Option Nat
  eventType : String
  eventSource : String
  severity : String
  summary : String
  createdAt : Time
  deriving DecidableEq, Repr

structure BillingException where
  id : Nat
  tenantId : Nat
  subscriptionId : Option Nat
  billingAccountId : Option Nat
  billingInvoiceId : Option Nat
  paymentAttemptId : Option Nat
  exceptionType : String
  isOpen : Bool
  reason : String
  resolvedAt : Option Time
  createdAt : Time
  deriving DecidableEq, Repr

structure Job where
  id : Nat
  tenantId : Nat
  type : JobType
  status : JobStatus
  rqJobId : Option Nat
  error : Option String
  createdAt : Time
  startedAt : Option Time
  finishedAt : Option Time
  deriving DecidableEq, Repr

structure BackupManifest where
  id : Nat
  tenantId : Nat
  jobId : Nat
  filePath : String
  createdAt : Time
  deriving DecidableEq, Repr

structure PaymentEventOutbox where
  id : Nat
  provider : String
  eventType : String
  tenantId : Option Nat
  subscriptionId : Option String
  customerRef : Option String
  dedupKey : String
  status : OutboxStatus
  attempts : Nat
  lastError : Option String
  processedAt : Option Time
  deriving DecidableEq, Repr

structure PaymentEvent where
  id : Nat
  provider : String
  eventType : String
  processingStatus : String
  httpStatus : Nat
  message : String
  tenantId : Option Nat
  subscriptionId : Option String
  customerRef : Option String
  deriving DecidableEq, Repr

structure AuditLog where
  id : Nat
  action : String
  resource : String
  resourceId : Option Nat
  createdAt : Time
  deriving DecidableEq, Repr

open Table

instance : Keyed User := ⟨User.id⟩
instance : Keyed Organization := ⟨Organization.id⟩
instance : Keyed TenantMembership := ⟨TenantMembership.id⟩
instance : Keyed Tenant := ⟨Tenant.id⟩
instance : Keyed Plan := ⟨Plan.id⟩
instance : Keyed Subscription := ⟨Subscription.id⟩
instance : Keyed BillingAccount := ⟨BillingAccount.id⟩
instance : Keyed BillingInvoice := ⟨BillingInvoice.id⟩
instance : Keyed PaymentAttempt := ⟨PaymentAttempt.id⟩
instance : Keyed BillingEvent := ⟨BillingEvent.id⟩
instance : Keyed BillingException := ⟨BillingException.id⟩
instance : Keyed Job := ⟨Job.id⟩
instance : Keyed BackupManifest := ⟨BackupManifest.id⟩
instance : Keyed PaymentEventOutbox := ⟨PaymentEventOutbox.id⟩
instance : Keyed PaymentEvent := ⟨PaymentEvent.id⟩
instance : Keyed AuditLog := ⟨AuditLog.id⟩

/-- The tables. -/
structure Db where
  users : List User
  organizations : List Organization
  memberships : List TenantMembership
  tenants : List Tenant
  plans : List Plan
  subscriptions : List Subscription
  accounts : List BillingAccount
  invoices : List BillingInvoice
  attempts : List PaymentAttempt
  events : List BillingEvent
  exceptions : List BillingException
  jobs : List Job
  backups : List BackupManifest
  outbox : List PaymentEventOutbox
  paymentEvents : List PaymentEvent
  auditLogs : List AuditLog
  deriving DecidableEq, Repr

namespace Db

/-- A database with no rows. -/
def empty : Db := ⟨[], [], [], [], [], [], [], [], [], [], [], [], [], [], [], []⟩

def user? (db : Db) (id : Nat) : Option User := get? db.users id

def tenant? (db : Db) (id : Nat) : Option Tenant := get? db.tenants id

def invoice? (db : Db) (id : Nat) : Option BillingInvoice := get? db.invoices id

def attempt? (db : Db) (id : Nat) : Option PaymentAttempt := get? db.attempts id

def job? (db : Db) (id : Nat) : Option Job := get? db.jobs id

def backup? (db : Db) (id : Nat) : Option BackupManifest := get? db.backups id

/-- `tenant.subscription`: the row of `subscriptions` with the tenant's id. -/
def subscriptionOf (db : Db) (tenantId : Nat) : Option Subscription :=
  db.subscriptions.find? fun s => s.tenantId = tenantId

/-- `tenant.billing_account`. -/
def accountOf (db : Db) (tenantId : Nat) : Option BillingAccount :=
  db.accounts.find? fun a => a.tenantId = tenantId

/-- `tenant.billing_invoices`. -/
def invoicesOf (db : Db) (tenantId : Nat) : List BillingInvoice :=
  db.invoices.filter fun i => i.tenantId = tenantId

/-- `invoice.payment_attempts`. -/
def attemptsOf (db : Db) (invoiceId : Nat) : List PaymentAttempt :=
  db.attempts.filter fun a => a.billingInvoiceId = invoiceId

def planOf (db : Db) (subscription : Subscription) : Option Plan := get? db.plans subscription.planId

def putTenant (db : Db) (tenant : Tenant) : Db := { db with tenants := put db.tenants tenant }

/-- Change a tenant's row, if it is there. -/
def modifyTenant (db : Db) (id : Nat) (f : Tenant → Tenant) : Db := { db with tenants := modify db.tenants id f }

def putSubscription (db : Db) (subscription : Subscription) : Db :=
  { db with subscriptions := put db.subscriptions subscription }

def putInvoice (db : Db) (invoice : BillingInvoice) : Db := { db with invoices := put db.invoices invoice }

def putAttempt (db : Db) (attempt : PaymentAttempt) : Db := { db with attempts := put db.attempts attempt }

def putJob (db : Db) (job : Job) : Db := { db with jobs := put db.jobs job }

/-- The status of a tenant's row. -/
def tenantStatus (db : Db) (id : Nat) : Option TenantStatus := (db.tenant? id).map Tenant.status

/-- `onupdate=utcnow` on one row: a row that differs from the committed row of its key, and whose timestamp the code
left alone, gets the current time. -/
def onUpdate {α : Type} [Keyed α] [DecidableEq α] (stamp : α → Time) (setStamp : Time → α → α) (now : Time)
    (saved : List α) (row : α) : α :=
  if row ∈ saved then row
  else
    match get? saved (key row) with
    | none => row
    | some old => if stamp row = stamp old then setStamp now row else row

/-- The rows as they are written: a changed tenant or payment attempt whose `updated_at` the code did not set gets
the current time. -/
def flush (now : Time) (saved work : Db) : Db :=
  { work with
    tenants := work.tenants.map (onUpdate Tenant.updatedAt (fun u t => { t with updatedAt := u }) now saved.tenants)
    attempts := work.attempts.map
      (onUpdate PaymentAttempt.updatedAt (fun u a => { a with updatedAt := u }) now saved.attempts) }

end Db

end ControlPlane
