import ControlPlane.Billing.PaymentAttemptService
import Mathlib.Data.List.Sort

/-!
# What the billing pages show

The workspace of a tenant and the detail of an invoice, with the actions each of them offers.  The workspace looks at
the latest attempt of the whole tenant and the detail at the latest one of its invoice; both call an invoice open
unless its status is terminal.
-/

namespace ControlPlane

/-- `RETRYABLE_ATTEMPT_STATES`. -/
def retryableAttemptStates : List AttemptStatus := [.failed, .expired, .cancelled, .reconciliationRequired]

/-- `text.rstrip("/")`. -/
def rstripSlash (text : String) : String := String.ofList ((text.toList.reverse.dropWhile (· = '/')).reverse)

/-- `_hosted_invoice_url`. -/
def hostedInvoiceUrl (invoice : BillingInvoice) (platformBaseUrl : Option String) : Option String :=
  let baseUrl := rstripSlash (strip (platformBaseUrl.getD ""))
  match orText invoice.erpInvoiceId (orText invoice.invoiceNumber none) with
  | none => none
  | some invoiceRef => if baseUrl = "" then none else some (baseUrl ++ "/app/sales-invoice/" ++ invoiceRef)

/-- `BillingInvoiceSummaryOut`. -/
structure BillingInvoiceSummary where
  id : Nat
  erpInvoiceId : Option String
  invoiceNumber : Option String
  tenantId : Nat
  subscriptionId : Option Nat
  status : InvoiceStatus
  collectionStage : Option String
  amountDue : Int
  amountPaid : Int
  currency : String
  dueDate : Option Time
  issuedAt : Option Time
  paidAt : Option Time
  hostedInvoiceUrl : Option String
  lastSyncedAt : Option Time
  createdAt : Time
  deriving DecidableEq, Repr

def buildInvoiceSummary (invoice : BillingInvoice) (platformBaseUrl : Option String) : BillingInvoiceSummary :=
  { id := invoice.id
    erpInvoiceId := invoice.erpInvoiceId
    invoiceNumber := invoice.invoiceNumber
    tenantId := invoice.tenantId
    subscriptionId := invoice.subscriptionId
    status := if invoice.invoiceStatus = .other "" then .paymentPending else invoice.invoiceStatus
    collectionStage := invoice.collectionStage
    amountDue := invoice.amountDue
    amountPaid := invoice.amountPaid
    currency := invoice.currency
    dueDate := invoice.dueDate
    issuedAt := invoice.issuedAt
    paidAt := invoice.paidAt
    hostedInvoiceUrl := hostedInvoiceUrl invoice platformBaseUrl
    lastSyncedAt := invoice.lastSyncedAt
    createdAt := invoice.createdAt }

/-- `_invoice_sort_key`; a missing date counts as the earliest. -/
def invoiceSortKey (invoice : BillingInvoice) : Time × Time × Time :=
  (invoice.dueDate.getD 0, invoice.issuedAt.getD 0, invoice.createdAt)

/-- `_attempt_sort_key`. -/
def attemptSortKey (attempt : PaymentAttempt) : Time × Time := (attempt.updatedAt, attempt.createdAt)

/-- `sorted(rows, key=key, reverse=True)`: rows with the same key keep their order. -/
def sortedLatestFirst {α κ : Type} (lt : κ → κ → Bool) (key : α → κ) (rows : List α) : List α :=
  rows.insertionSort fun a b => lt (key a) (key b) = false

/-- `_sorted_invoices`. -/
def sortedInvoices (db : Db) (tenantId : Nat) : List BillingInvoice :=
  sortedLatestFirst ltTimes3 invoiceSortKey (db.invoicesOf tenantId)

/-- `_sorted_attempts`. -/
def sortedAttempts (db : Db) (tenantId : Nat) : List PaymentAttempt :=
  sortedLatestFirst ltTimes attemptSortKey (db.attempts.filter fun a => a.tenantId = tenantId)

/-- `_open_invoices`. -/
def openInvoices (db : Db) (tenantId : Nat) : List BillingInvoice :=
  (sortedInvoices db tenantId).filter fun invoice => invoice.invoiceStatus ∉ terminalInvoiceStates

structure BillingBalanceSummary where
  currency : String
  amountDue : Int
  amountOverdue : Int
  deriving DecidableEq, Repr

structure BillingNextEvent where
  type : String
  at_ : Time
  deriving DecidableEq, Repr

structure BillingAccountWorkspaceActions where
  canCreatePaymentAttempt : Bool
  canRetryPayment : Bool
  canOpenInvoice : Bool
  canReactivate : Bool
  deriving DecidableEq, Repr

structure BillingAccountWorkspace where
  tenantId : Nat
  subscriptionId : Option Nat
  billingAccountId : Option Nat
  accountStatus : String
  planSlug : String
  status : BillingLifecycleSnapshot
  balance : BillingBalanceSummary
  nextBillingEvent : Option BillingNextEvent
  openInvoices : List BillingInvoiceSummary
  latestPaymentAttempt : Option PaymentAttempt
  actions : BillingAccountWorkspaceActions
  deriving DecidableEq, Repr

def buildWorkspace (db : Db) (tenant : Tenant) (platformBaseUrl : Option String) (now : Time) :
    BillingAccountWorkspace :=
  let status := evaluateTenantBillingPolicy db tenant now
  let open_ := openInvoices db tenant.id
  let latestAttempt := (sortedAttempts db tenant.id).head?
  let account := db.accountOf tenant.id
  let dueDates := open_.filterMap BillingInvoice.dueDate
  let summaries := open_.map fun invoice => buildInvoiceSummary invoice platformBaseUrl
  { tenantId := tenant.id
    subscriptionId := (db.subscriptionOf tenant.id).map Subscription.id
    billingAccountId := account.map BillingAccount.id
    accountStatus := (orText (account.map BillingAccount.status) none).getD "missing"
    planSlug := (((db.subscriptionOf tenant.id).bind db.planOf).map Plan.slug).getD "starter"
    status := status
    balance :=
      { currency := ((account.map BillingAccount.currency).or (open_.head?.map BillingInvoice.currency)).getD "TZS"
        amountDue := (open_.map BillingInvoice.amountDue).sum
        amountOverdue :=
          ((open_.filter fun invoice => ∃ due ∈ invoice.dueDate, due ≤ now).map BillingInvoice.amountDue).sum }
    nextBillingEvent := dueDates.min?.map fun due => ⟨if due ≤ now then "invoice_overdue" else "invoice_due", due⟩
    openInvoices := summaries
    latestPaymentAttempt := latestAttempt
    actions :=
      { canCreatePaymentAttempt := open_.head?.isSome &&
          latestAttempt.all fun a => a.status ∉ activePaymentAttemptStates ∧ a.status ≠ .paid
        canRetryPayment := open_.head?.isSome && latestAttempt.any fun a => a.status ∈ retryableAttemptStates
        canOpenInvoice := (summaries.head?.bind BillingInvoiceSummary.hostedInvoiceUrl).isSome
        canReactivate := status.billingBlocked && status.nextAction = some "pay_invoice" } }

structure BillingInvoiceActions where
  canPay : Bool
  canRetryPayment : Bool
  canOpenHostedInvoice : Bool
  deriving DecidableEq, Repr

structure BillingInvoiceDetail where
  invoice : BillingInvoiceSummary
  status : BillingLifecycleSnapshot
  availableActions : BillingInvoiceActions
  deriving DecidableEq, Repr

def buildInvoiceDetail (db : Db) (invoice : BillingInvoice) (tenant : Tenant) (platformBaseUrl : Option String)
    (now : Time) : BillingInvoiceDetail :=
  let latestAttempt := (sortedLatestFirst ltTimes attemptSortKey (db.attemptsOf invoice.id)).head?
  let summary := buildInvoiceSummary invoice platformBaseUrl
  { invoice := summary
    status := evaluateTenantBillingPolicy db tenant now
    availableActions :=
      { canPay := summary.status ∉ terminalInvoiceStates
        canRetryPayment := summary.status ∉ terminalInvoiceStates ∧
          latestAttempt.any fun a => a.status ∈ retryableAttemptStates
        canOpenHostedInvoice := summary.hostedInvoiceUrl.isSome } }

end ControlPlane
