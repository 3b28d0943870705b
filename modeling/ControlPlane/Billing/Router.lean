import ControlPlane.Billing.PaymentAttemptService
import ControlPlane.Billing.Reconciliation
import ControlPlane.Billing.WebhookService

/-!
# Billing endpoints

The requests that sync, reconcile or pay invoices, after authentication and the access check.
-/

namespace ControlPlane

open Table Session.Proc

/-- The endpoints that show or resync a tenant's invoices: a sync with the ERP and an audit entry. -/
def resyncTenantInvoices (env : Env) (tenantId limit : Nat) : Proc Unit := do
  change env (syncForTenant tenantId limit)
  commit env
  recordAuditEvent env "billing.tenant_invoices_viewed" "billing_invoices" (some tenantId)

/-- `reconcile_billing_invoice`. -/
def reconcileBillingInvoice (env : Env) (invoiceId : Nat) : Proc Unit := do
  let db ← read
  match db.invoice? invoiceId with
  | none => raise (.httpException 404 "Invoice not found")
  | some invoice =>
    let _ ← reconcileTenantBilling env invoice.tenantId (some invoiceId)
    recordAuditEvent env "billing.invoice_reconciled" "billing_invoices" (some invoiceId)

/-- `resync_tenant_settlement`. -/
def resyncTenantSettlement (env : Env) (tenantId : Nat) : Proc Unit := do
  let _ ← reconcileTenantBilling env tenantId none
  recordAuditEvent env "admin.resync_billing_settlement" "tenants" (some tenantId)

/-- The tenant and owner of an invoice an attempt is asked for. -/
def requireInvoice (db : Db) (invoiceId : Nat) : Except PyError (BillingInvoice × Tenant × User) :=
  match db.invoice? invoiceId with
  | none => .error (.httpException 404 "Invoice not found")
  | some invoice => do
    let tenant ← requireTenant db invoice.tenantId
    match db.user? tenant.ownerId with
    | none => throw (.httpException 500 "Tenant owner missing")
    | some owner => return (invoice, tenant, owner)

theorem requireInvoice_ok {db : Db} {invoiceId : Nat} {invoice : BillingInvoice} {tenant : Tenant} {owner : User}
    (h : requireInvoice db invoiceId = .ok (invoice, tenant, owner)) :
    db.invoice? invoiceId = some invoice ∧ db.tenant? invoice.tenantId = some tenant := by
  unfold requireInvoice at h
  split at h
  · cases h
  · rename_i row hrow
    obtain ⟨row', htenant, h⟩ := bind_eq_ok.1 h
    split at h
    · cases h
    · cases h
      refine ⟨hrow, ?_⟩
      unfold requireTenant at htenant
      split at htenant
      · rename_i hget
        cases htenant
        exact hget
      · cases htenant

/-- `create_invoice_payment_attempt`, before its errors are mapped to HTTP statuses. -/
def createInvoicePaymentAttempt (env : Env) (invoiceId : Nat) (provider : Option String) : Proc Nat := do
  let db ← read
  match requireInvoice db invoiceId with
  | .error e => raise e
  | .ok (invoice, tenant, owner) => createPaymentAttemptForInvoice env tenant owner invoice provider

end ControlPlane
