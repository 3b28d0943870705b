import ControlPlane.Base.Runs
import ControlPlane.Billing.Router
import ControlPlane.Support.AdminRouter
import ControlPlane.Tenant.Router
import ControlPlane.Workers.Cycles
import ControlPlane.Workers.Tasks

/-!
# The system

The control plane as a state machine: the committed rows, the queue, and the worker tasks that are running, each in
some phase.  A request or a cycle is one step; a worker task takes one step a phase, so other steps fall between its
phases.  A queue entry can be started any number of times (the queue retries and dead letters are requeued), and a
task that stops for good is one that takes no more steps.

The plan changes of `update_tenant`, the requests about members, features and accounts, and the cleanup of backups are no
steps of this machine: they are modelled with the rows that they are about.
-/

namespace ControlPlane

open Session.Proc

/-- A task that was taken from the queue, and the phase it is about to run. -/
structure RunningTask where
  task : Task
  phase : Phase
  deriving DecidableEq, Repr

/-- The state of the control plane.  `provisioned` is history: the tenants for which the strategy and the customer
registration of some `provision_tenant` run have completed. -/
structure World where
  db : Db
  queue : List Task
  running : List RunningTask
  provisioned : List Nat

/-- What can happen here. -/
inductive Op where
  | createTenant (ownerId : Nat) (subdomain companyName plan : String) (chosenApp : Option String)
  | renewCheckout (tenantId : Nat)
  | webhook (delivery : WebhookDelivery)
  | resyncTenantInvoices (tenantId limit : Nat)
  | createPaymentAttempt (invoiceId : Nat) (provider : Option String)
  | reconcileBillingInvoice (invoiceId : Nat)
  | resyncTenantSettlement (tenantId : Nat)
  | reconciliationCycle
  | trialCycle (dryRun : Bool)
  | dunningCycle (dryRun : Bool)
  | backupTenant (tenantId : Nat)
  | restoreTenant (tenantId backupId : Nat)
  | deleteTenant (tenantId : Nat)
  | retryProvisioning (tenantId : Nat) (userEmail : String)
  | suspendTenant (tenantId : Nat)
  | unsuspendTenant (tenantId : Nat)
  | startTask (entry : Nat)
  | taskPhase (index : Nat) (outside : Except PyError String)

/-- Something that happens, in an environment. -/
structure Event where
  env : Env
  op : Op

/-- The state a session on the world's rows is in after `p`. -/
def after {α : Type} (w : World) (p : Proc α) : DbSession := (p (opened w.db w.queue)).2

/-- The world after a request: what the request committed and put on the queue. -/
def perform {α : Type} (w : World) (p : Proc α) : World :=
  { w with db := (after w p).saved, queue := (after w p).outside }

/-- Whether a phase is a provisioning run's outside work, with the result it came to. -/
def completesProvisioning (running : RunningTask) (result : Except PyError (Option Phase)) : Bool :=
  match running.task, running.phase, result with
  | .provisionTenant .., .work, .ok (some (.complete _)) => true
  | _, _, _ => false

/-- One phase of the running task with an index. -/
def advanceTask (w : World) (env : Env) (index : Nat) (outside : Except PyError String) : World :=
  match w.running[index]? with
  | none => w
  | some running =>
    let result := (taskPhase env running.task running.phase outside (opened w.db w.queue)).1
    { perform w (taskPhase env running.task running.phase outside) with
      running := match result with
        | .ok (some phase) => w.running.set index { running with phase := phase }
        | _ => w.running.eraseIdx index
      provisioned :=
        if completesProvisioning running result then running.task.tenantId :: w.provisioned else w.provisioned }

/-- The owner's request to create a tenant. -/
def createTenant (env : Env) (ownerId : Nat) (subdomain companyName plan : String) (chosenApp : Option String) :
    Proc Unit := do
  let db ← read
  match db.user? ownerId with
  | none => raise (.httpException 401 "Unauthorized")
  | some owner =>
    let _ ← createTenantAndStartCheckout env owner subdomain companyName plan chosenApp

/-- One step. -/
def step (w : World) (e : Event) : World :=
  match e.op with
  | .createTenant ownerId subdomain companyName plan chosenApp =>
    perform w (createTenant e.env ownerId subdomain companyName plan chosenApp)
  | .renewCheckout tenantId => perform w (renewCheckout e.env tenantId)
  | .webhook delivery => perform w (handleGatewayWebhook e.env delivery)
  | .resyncTenantInvoices tenantId limit => perform w (resyncTenantInvoices e.env tenantId limit)
  | .createPaymentAttempt invoiceId provider => perform w (createInvoicePaymentAttempt e.env invoiceId provider)
  | .reconcileBillingInvoice invoiceId => perform w (reconcileBillingInvoice e.env invoiceId)
  | .resyncTenantSettlement tenantId => perform w (resyncTenantSettlement e.env tenantId)
  | .reconciliationCycle => perform w (runBillingReconciliationCycle e.env)
  | .trialCycle dryRun => perform w (runTrialLifecycleCycle e.env dryRun)
  | .dunningCycle dryRun => perform w (runBillingDunningCycle e.env dryRun)
  | .backupTenant tenantId => perform w (backupTenant e.env tenantId)
  | .restoreTenant tenantId backupId => perform w (restoreTenant e.env tenantId backupId)
  | .deleteTenant tenantId => perform w (deleteTenant e.env tenantId)
  | .retryProvisioning tenantId userEmail => perform w (retryTenantProvisioning e.env tenantId userEmail)
  | .suspendTenant tenantId => perform w (suspendTenant e.env tenantId)
  | .unsuspendTenant tenantId => perform w (unsuspendTenant e.env tenantId)
  | .startTask entry =>
    match w.queue[entry]? with
    | none => w
    | some task => { w with running := w.running ++ [⟨task, .begin⟩] }
  | .taskPhase index outside => advanceTask w e.env index outside

/-- The status of a tenant. -/
def World.status (w : World) (tenantId : Nat) : Option TenantStatus := w.db.tenantStatus tenantId

/-! ### A small control plane

One user, payments through Stripe, no ERP, and commits and a queue that never fail. -/

namespace Small

def erp : PlatformErpClient where
  isConfigured := false
  listInvoices _ _ := .ok []
  getInvoice _ := .ok ErpItem.empty
  runtimeExists _ := true

def gateway : PaymentGateway where
  providerName := "stripe"
  createCheckout _ _ := .ok ⟨"cs_1", "https://pay.example.com/cs_1", "cus_1", "stripe", none, false⟩
  createInvoiceCheckout _ _ _ := .ok ⟨"cs_2", "https://pay.example.com/cs_2", "cus_1", "stripe", none, false⟩

/-- The number that a text of digits stands for. -/
def numberOf (text : String) : Nat := text.toList.foldl (fun n c => 10 * n + (c.toNat - '0'.toNat)) 0

/-- A database that takes no NUL, and a driver that writes everything but dictionaries. -/
def storage : Storage where
  takesText text := !text.toList.contains '\x00'
  takesJson _ := true
  writes
    | .object _ _ => none
    | value => some value.str

def env : Env where
  settings :=
    ⟨"example.com", false, 0, "stripe", true, Json.str, toString, numberOf, storage, false⟩
  clock t := 1000 + t
  commitFails _ := false
  queueFails _ := false
  erp _ := erp
  gateway := gateway

def world : World := ⟨{ Db.empty with users := [⟨1, "owner@example.com", false, true⟩] }, [], [], []⟩

def events (ops : List Op) : List Event := ops.map fun op => ⟨env, op⟩

/-- The world after some operations. -/
def after (ops : List Op) : World := Runs.run step world (events ops)

def createTenant : Op := .createTenant 1 "acme" "Acme" "starter" none

/-- A webhook for the first tenant, with a payload of its own. -/
def webhook (eventType : WebhookEventType) (payload : String) : Op :=
  .webhook ⟨none, .ok .null, .ok ⟨eventType, some 1, none, none, .object payload []⟩⟩

/-- The environment of a later request, `n` thousand seconds on, with a checkout of its own. -/
def envAt (n : Nat) : Env :=
  { env with
    clock := fun t => 1000 * (n + 1) + t
    gateway := { gateway with
      createInvoiceCheckout := fun _ _ _ =>
        .ok ⟨"cs_" ++ toString n, "https://pay.example.com/cs_" ++ toString n, "cus_1", "stripe", none, false⟩ } }

/-- An open invoice of the first tenant. -/
def invoice : BillingInvoice :=
  { id := 1, tenantId := 1, subscriptionId := some 1, billingAccountId := 1, erpInvoiceId := some "INV-1"
    invoiceNumber := some "INV-1", amountDue := 5000, amountPaid := 0, currency := "TZS"
    invoiceStatus := .paymentPending, collectionStage := none, dueDate := none, issuedAt := none, paidAt := none
    lastSyncedAt := none, createdAt := 1000 }

/-- The world with a tenant and its invoice. -/
def billed : World :=
  let w := after [createTenant]
  { w with db := { w.db with accounts := [⟨1, 1, some 1, some "CUST-1", "TZS", "active"⟩], invoices := [invoice] } }

/-- A webhook for the checkout `n` of the first tenant. -/
def checkoutWebhook (eventType : WebhookEventType) (n : Nat) (payload : String) : Op :=
  .webhook ⟨none, .ok .null, .ok ⟨eventType, some 1, some ("cs_" ++ toString n), none, .object payload []⟩⟩

/-- An item of the ERP for an invoice of 50, of which nothing is paid. -/
def openItem : ErpItem :=
  { ErpItem.empty with name := some "INV-1", outstandingAmount := .number false 50 0, grandTotal := .number false 50 0 }

/-- An environment whose ERP has the invoice as open. -/
def openErpAt (n : Nat) : Env :=
  { envAt n with erp := fun _ => { erp with
      isConfigured := true, listInvoices := fun _ _ => .ok [openItem], getInvoice := fun _ => .ok openItem } }

/-- The world with a tenant that is a customer of the ERP, and its invoice. -/
def linked : World :=
  { billed with db := { billed.db with
      tenants := billed.db.tenants.map fun tenant => { tenant with platformCustomerId := some "CUST-1" } } }

/-- A queue entry is started and runs some phases, all of which go well. -/
def runTask (entry phases : Nat) : List Op := .startTask entry :: List.replicate phases (.taskPhase 0 (.ok "done"))

end Small

end ControlPlane
