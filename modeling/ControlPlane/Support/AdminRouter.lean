import ControlPlane.Tenant.Service

/-!
# Administrative suspension

The two admin endpoints that move a tenant's status.  Both go through the table only: what is suspended may have been
suspended before it was ever provisioned.
-/

namespace ControlPlane

open Session.Proc

def suspendTenant (env : Env) (tenantId : Nat) : Proc Unit := do
  change env (moveTenantStatus tenantId .suspendedAdmin)
  commit env
  recordAuditEvent env "admin.suspend_tenant" "tenants" (some tenantId)

def unsuspendTenant (env : Env) (tenantId : Nat) : Proc Unit := do
  change env (moveTenantStatus tenantId .active)
  commit env
  recordAuditEvent env "admin.unsuspend_tenant" "tenants" (some tenantId)

end ControlPlane
