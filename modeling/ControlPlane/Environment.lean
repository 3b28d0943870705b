import ControlPlane.Base.Session
import ControlPlane.Models
import ControlPlane.Support.PlatformErpClient

/-!
# The environment of a request

What a request or a worker task meets outside the database: the clock, the platform ERP, the payment gateway, the
queue, and the faults of commits and of the queue.  Each is a function of the session's tick, so nothing is assumed to
stay as it is between two commits.  `Settings` is the process's configuration.
-/

namespace ControlPlane

/-- A JSON value of a webhook payload.  Numbers, arrays and objects carry the text Python's `str` gives for them. -/
inductive Json where
  | null
  | bool (value : Bool)
  | number (text : String) (isZero : Bool)
  | string (text : String)
  | array (text : String) (isEmpty : Bool)
  | object (text : String) (fields : List (String × Json))

namespace Json

/-- `str(value)`. -/
def str : Json → String
  | null => "None"
  | bool true => "True"
  | bool false => "False"
  | number text _ => text
  | string text => text
  | array text _ => text
  | object text _ => text

def truthy : Json → Bool
  | null => false
  | bool value => value
  | number _ isZero => !isZero
  | string text => text != ""
  | array _ isEmpty => !isEmpty
  | object _ fields => !fields.isEmpty

/-- `raw.get(key)`, `null` for a missing key. -/
def get (key : String) : Json → Json
  | object _ fields => ((fields.find? fun f => f.1 = key).map Prod.snd).getD null
  | _ => null

/-- `_nested_value`. -/
def nested (value : Json) (path : List String) : Json := path.foldl (fun current key => current.get key) value

/-- `value1 or value2 or ...`: the first truthy value, or the last one. -/
def firstTruthy : List Json → Json
  | [] => null
  | [value] => value
  | value :: rest => if value.truthy then value else firstTruthy rest

end Json

/-- What the database stores, lengths apart: which texts (PostgreSQL none with a NUL, and no lone surrogate can be sent to
it), which JSON documents (none with a `NaN`), and as which text its driver writes a value that is none, if it writes it. -/
structure Storage where
  takesText : String → Bool
  takesJson : Json → Bool
  writes : Json → Option String

/-- The process's configuration; `payloadDigest` is the SHA-256 of a payload's canonical dump, `idText` the text of a
row's id and `idOf` the id of a text, and `columnsEnforced` says whether the database refuses what does not fit its
column. -/
structure Settings where
  tenantDomainSuffix : String
  trialLifecycleEnabled : Bool
  trialDefaultDays : Nat
  activePaymentProvider : String
  mockBillingAllowed : Bool
  payloadDigest : Json → String
  idText : Nat → String
  idOf : String → Nat
  storage : Storage
  columnsEnforced : Bool

structure CheckoutResult where
  sessionId : String
  checkoutUrl : String
  customerRef : String
  provider : String
  paymentChannel : Option String
  mockMode : Bool

/-- A payment gateway: its name, and what it answers when a checkout is asked for. -/
structure PaymentGateway where
  providerName : String
  createCheckout : Tenant → User → Except PyError CheckoutResult
  createInvoiceCheckout : BillingInvoice → Tenant → User → Except PyError CheckoutResult

/-- A job of the worker queue. -/
inductive Task where
  | provisionTenant (jobId tenantId : Nat) (ownerEmail : String)
  | backupTenant (jobId tenantId : Nat)
  | restoreTenant (jobId tenantId backupId : Nat)
  | deleteTenant (jobId tenantId : Nat)
  deriving DecidableEq, Repr

structure Env where
  settings : Settings
  clock : Nat → Time
  commitFails : Nat → Bool
  queueFails : Nat → Bool
  erp : Nat → PlatformErpClient
  gateway : PaymentGateway

/-- A program over a database session; what lies outside the database is the queue, as the list of everything ever
enqueued. -/
abbrev Proc (α : Type) : Type := Session.Proc PyError Db (List Task) α

abbrev DbSession := Session.State Db (List Task)

open Session.Proc

def commit (env : Env) : Proc Unit :=
  Session.Proc.commit (fun t => if env.commitFails t then some .operationalError else none)
    (fun t => Db.flush (env.clock t))

/-- `get_queue().enqueue(...)`: the id of the new queue entry. -/
def enqueue (env : Env) (task : Task) : Proc Nat :=
  call fun t queue =>
    if env.queueFails t then .error (.queueError "redis unavailable") else .ok (queue.length, queue ++ [task])

/-- `utcnow()`. -/
def utcnow (env : Env) : Proc Time := do return env.clock (← now)

/-- A change of the session's rows that may raise, at the time and with the ERP's answers of the moment. -/
def change {α : Type} (env : Env) (f : Time → PlatformErpClient → Db → Except PyError (α × Db)) : Proc α := do
  let t ← now
  body (f (env.clock t) (env.erp t))

/-- `record_audit_event`, which commits. -/
def recordAuditEvent (env : Env) (action resource : String) (resourceId : Option Nat) : Proc Unit := do
  let time ← utcnow env
  modify fun db =>
    { db with auditLogs := Table.insert db.auditLogs ⟨Table.fresh db.auditLogs, action, resource, resourceId, time⟩ }
  commit env

end ControlPlane
