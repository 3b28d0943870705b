import ControlPlane.Billing.WebhookService
import ControlPlane.ForgedWebhooks

/-!
# Webhook requests

`handle_gateway_webhook` is called with the bytes of a body and the headers.  It reads the body twice: `decode_payload` makes
of it what is recorded where there is no event, and the gateway makes the event.  Only a `ValueError` of the gateway is caught,
so what matters of the other exceptions is which bodies raise them.
-/

namespace ControlPlane

/-- What `json.loads` raises: a `JSONDecodeError`, which is a `ValueError`, or another exception, as for a text that is nested
too deep or a number of too many digits. -/
inductive JsonError where
  | decodeError (message : String)
  | other (error : PyError)

def JsonError.raised : JsonError → PyError
  | .decodeError message => .valueError message
  | .other error => error

/-- The functions that read a body: `payload.decode("utf-8")`, which raises a `UnicodeDecodeError`, a `ValueError`, with some
message, the same with `errors="replace"`, `json.loads`, `parse_qs(text, keep_blank_values=True)`, and `str` of a dictionary.
A text of Python's that is none of Unicode's, with a lone surrogate of an escape, is read as one that stands for it. -/
structure PayloadReaders where
  decode : List UInt8 → Except String String
  decodeReplacing : List UInt8 → String
  jsonLoads : String → Except JsonError Json
  parseQs : String → List (String × List String)
  dictText : Dict → String

namespace PayloadReaders

variable (readers : PayloadReaders)

def dictionary (fields : Dict) : Json := .object (readers.dictText fields) fields

/-- What the gateways read of a decoded body. -/
def text (text : String) : WebhookText :=
  ⟨text = "", (readers.jsonLoads text).mapError JsonError.raised, readers.parseQs text⟩

/-- What the gateways are given. -/
def request (payload : List UInt8) (headers : Headers) : WebhookRequest :=
  ⟨headers, ((readers.decode payload).mapError PyError.valueError).map readers.text⟩

/-- `decode_payload`. -/
def decodePayload (payload : List UInt8) (headers : Headers) : Except PyError Json :=
  let text := readers.decodeReplacing payload
  let contentType := lower (Headers.first headers ["content-type", "Content-Type"])
  if textContains contentType "application/json" then
    match if text = "" then .ok (.object "{}" []) else readers.jsonLoads text with
    | .error (.decodeError _) => .ok (readers.dictionary [("raw", .string text)])
    | .error (.other error) => .error error
    | .ok (.object text fields) => .ok (.object text fields)
    | .ok value => .ok (readers.dictionary [("value", value)])
  else if textContains contentType "application/x-www-form-urlencoded" then
    .ok (readers.dictionary (readers.text text).formFields)
  else
    .ok (readers.dictionary [("raw", .string text)])

end PayloadReaders

/-- `headers[name] = value`. -/
def Headers.put (headers : Headers) (name value : String) : Headers :=
  if headers.any fun h => h.1 = name then headers.map fun h => if h.1 = name then (name, value) else h
  else headers ++ [(name, value)]

/-- `sanitize_headers`. -/
def sanitizeHeaders (headers : Headers) : Headers :=
  headers.foldl
    (fun result h =>
      if lower h.1 ∈ ["authorization", "cookie", "set-cookie", "x-api-key"] then result
      else Headers.put result (lower h.1) h.2)
    []

def Gateway.providerName : Gateway → String
  | .stripe => "stripe"
  | .selcom => "selcom"
  | .azampay => "azampay"
  | .dpo => "dpo"

/-- The text of a column that is given a value, `none` if the driver does not write the value.  What counts as false, like `0`,
counts as missing in the key of the outbox and in every search, and stands here for none. -/
def Storage.columnText (storage : Storage) : Json → Option (Option String)
  | .null => some none
  | .string text => some (some text)
  | value => (storage.writes value).map fun text => if value.truthy then some text else none

/-- The event with its ids as they are filed, if the driver writes them all. -/
def ParsedWebhook.event? (settings : Settings) (readers : PayloadReaders) (parsed : ParsedWebhook) : Option WebhookEvent := do
  let tenantId ← settings.storage.columnText parsed.tenantId
  let subscriptionId ← settings.storage.columnText parsed.subscriptionId
  let customerRef ← settings.storage.columnText parsed.customerRef
  return ⟨parsed.eventType, tenantId.map settings.idOf, subscriptionId, customerRef, readers.dictionary parsed.raw⟩

/-- A call of `handle_gateway_webhook`: the provider of the route, the body and the headers of the request, and the gateway;
the headers that are recorded are `sanitize_headers(dict(request.headers))`. -/
structure WebhookCall where
  routeProvider : Option String
  payload : List UInt8
  headers : Headers
  gateway : Gateway

/-- What the modules of the standard library, the providers and the settings of the gateways are to the calls. -/
structure WebhookReading where
  readers : PayloadReaders
  providers : Providers
  settings : GatewaySettings

namespace WebhookCall

variable (reading : WebhookReading) (call : WebhookCall)

/-- What the gateway's `parse_webhook` makes of a call. -/
def parse : Except PyError ParsedWebhook :=
  parseWebhook reading.providers reading.settings call.gateway (reading.readers.request call.payload call.headers)

/-- What `decode_payload` makes of a call. -/
def decode : Except PyError Json := reading.readers.decodePayload call.payload (sanitizeHeaders call.headers)

/-- A call as it is handled.  An id that the driver does not write fails the first statement that it is given to, and nothing
catches that. -/
def delivery (settings : Settings) : WebhookDelivery :=
  { routeProvider := call.routeProvider
    decoded := call.decode reading
    parsed := do
      let parsed ← call.parse reading
      match parsed.event? settings reading.readers with
      | some event => return event
      | none => .error .dataError }

@[simp] theorem delivery_routeProvider (settings : Settings) :
    (call.delivery reading settings).routeProvider = call.routeProvider := by
  unfold delivery
  rfl

@[simp] theorem delivery_decoded (settings : Settings) :
    (call.delivery reading settings).decoded = call.decode reading := by
  unfold delivery
  dsimp only

theorem delivery_parsed_error {settings : Settings} {error : PyError} (h : call.parse reading = .error error) :
    (call.delivery reading settings).parsed = .error error := by
  unfold delivery
  rw [h]
  rfl

theorem delivery_parsed_unwritten {settings : Settings} {parsed : ParsedWebhook} (h : call.parse reading = .ok parsed)
    (hevent : parsed.event? settings reading.readers = none) :
    (call.delivery reading settings).parsed = .error .dataError := by
  unfold delivery
  rw [h]
  dsimp only [bind, Except.bind]
  rw [hevent]

theorem delivery_parsed_event {settings : Settings} {parsed : ParsedWebhook} {event : WebhookEvent}
    (h : call.parse reading = .ok parsed) (hevent : parsed.event? settings reading.readers = some event) :
    (call.delivery reading settings).parsed = .ok event := by
  unfold delivery
  rw [h]
  dsimp only [bind, Except.bind]
  rw [hevent]
  rfl

/-- The environment with the call's gateway. -/
def env (env : Env) : Env := { env with gateway := { env.gateway with providerName := call.gateway.providerName } }

@[simp] theorem env_settings (env : Env) : (call.env env).settings = env.settings := rfl

end WebhookCall

/-! ### Exceptions that are not caught -/

/-- An exception is raised that is no `ValueError`. -/
def escapes {α : Type} : Except PyError α → Bool
  | .ok _ => false
  | .error (.valueError _) => false
  | .error _ => true

/-- The text cannot be read, or as JSON it cannot, for a reason that is no `ValueError`. -/
def WebhookRequest.bodyEscapes (request : WebhookRequest) : Bool :=
  match request.text with
  | .ok text => request.isJson && escapes text.jsonOrEmpty
  | .error error => escapes (.error error : Except PyError Unit)

/-- The body is JSON and no object. -/
def WebhookRequest.isJsonButNoObject (request : WebhookRequest) : Bool :=
  request.isJson && match request.text.bind WebhookText.jsonOrEmpty with
    | .ok (.object _ _) => false
    | .ok _ => true
    | .error _ => false

/-- A value that is there and no object, which has no `get`. -/
def Json.hasNoGet (value : Json) : Bool :=
  value.truthy && match value with
    | .object _ _ => false
    | _ => true

/-- A part of a Stripe event of which a field is asked is no object. -/
def stripeShapeless (event : Dict) : Bool :=
  let data := event.value "data"
  let object := data.get "object"
  data.hasNoGet || object.hasNoGet || (object.get "metadata").hasNoGet

/-- What the exceptions of `parse_webhook` that are no `ValueError` come from: JSON that `json.loads` gives up on; for Selcom a
header that is compared and not ASCII; for DPO and Stripe JSON of another shape; for DPO a failed call of the provider; and for
Stripe a missing SDK or an error of its own. -/
def parserEscapes (providers : Providers) (settings : GatewaySettings) (gateway : Gateway) (request : WebhookRequest) :
    Bool :=
  match gateway with
  | .azampay => request.bodyEscapes
  | .selcom =>
    request.bodyEscapes || match decodePayload request with
      | .ok raw => escapes (selcomVerifySignature providers.selcom settings raw request)
      | .error _ => false
  | .dpo =>
    request.bodyEscapes || request.isJsonButNoObject || match dpoPayload request with
      | .ok raw => dpoToken raw ≠ "" && !(settings.strictWebhookVerification && dpoMockMode settings) &&
          !dpoMockMode settings && escapes (providers.dpoAnswer (dpoToken raw))
      | .error _ => false
  | .stripe =>
    if settings.stripeWebhookSecret ≠ "" then
      let signatureHeader := Headers.first request.headers ["stripe-signature", "Stripe-Signature"]
      match providers.stripeSdk with
      | none => true
      | some constructEvent => signatureHeader ≠ "" &&
          match constructEvent request signatureHeader settings.stripeWebhookSecret with
          | .ok event => stripeShapeless event
          | .error error => escapes (.error error : Except PyError Unit)
    else !settings.strictWebhookVerification && match request.text.bind WebhookText.json with
      | .ok (.object _ fields) => stripeShapeless fields
      | .ok _ => true
      | .error _ => false

theorem escapes_bind_of_ok {α β : Type} {x : Except PyError α} {f : α → Except PyError β} {a : α} (h : x = .ok a) :
    escapes (x >>= f) = escapes (f a) := by
  rw [h]
  rfl

/-- What a computation that only goes on leaves of an exception. -/
theorem escapes_bind {α β : Type} (x : Except PyError α) {f : α → Except PyError β} (hf : ∀ a, escapes (f a) = false) :
    escapes (x >>= f) = escapes x := by
  cases x with
  | ok a => exact hf a
  | error error => cases error <;> rfl

theorem decodePayload_escapes (request : WebhookRequest) : escapes (decodePayload request) = request.bodyEscapes := by
  unfold decodePayload WebhookRequest.bodyEscapes
  cases request.text with
  | error error => cases error <;> rfl
  | ok text =>
    rw [escapes_bind_of_ok rfl]
    cases request.isJson with
    | false => rfl
    | true =>
      rw [if_pos rfl]
      dsimp only
      rw [Bool.true_and]
      refine escapes_bind _ fun value => ?_
      cases value <;> rfl

theorem dpoPayload_escapes (request : WebhookRequest) :
    escapes (dpoPayload request) = (request.bodyEscapes || request.isJsonButNoObject) := by
  unfold dpoPayload WebhookRequest.bodyEscapes WebhookRequest.isJsonButNoObject
  cases request.text with
  | error error => cases error <;> simp [Except.bind, escapes, bind]
  | ok text =>
    rw [escapes_bind_of_ok rfl]
    cases request.isJson with
    | false => rfl
    | true =>
      have hbind : (Except.ok text : Except PyError WebhookText).bind WebhookText.jsonOrEmpty = text.jsonOrEmpty := rfl
      rw [if_pos rfl, hbind]
      dsimp only
      cases text.jsonOrEmpty with
      | error error => cases error <;> rfl
      | ok value => cases value <;> rfl

/-! ### The gateways -/

theorem azampayParseWebhook_escapes (request : WebhookRequest) :
    escapes (azampayParseWebhook request) = request.bodyEscapes := by
  rw [← decodePayload_escapes]
  exact escapes_bind _ fun _ => rfl

section

variable (providers : Providers) (settings : GatewaySettings) (request : WebhookRequest)

theorem selcomParseWebhook_escapes : escapes (selcomParseWebhook providers.selcom settings request) =
    parserEscapes providers settings .selcom request := by
  unfold selcomParseWebhook parserEscapes
  rw [← decodePayload_escapes]
  cases decodePayload request with
  | error error => cases error <;> rfl
  | ok raw =>
    rw [escapes_bind_of_ok rfl]
    show _ = escapes (selcomVerifySignature providers.selcom settings raw request)
    exact escapes_bind _ fun _ => rfl

theorem dpoParseWebhook_escapes : escapes (dpoParseWebhook providers.dpoAnswer settings request) =
    parserEscapes providers settings .dpo request := by
  unfold dpoParseWebhook parserEscapes
  rw [← dpoPayload_escapes]
  cases dpoPayload request with
  | error error => cases error <;> rfl
  | ok raw =>
    rw [escapes_bind_of_ok rfl]
    dsimp only
    by_cases htoken : dpoToken raw = ""
    · rw [if_pos htoken]
      simp [htoken, escapes]
    rw [if_neg htoken]
    unfold dpoVerifyToken
    cases hmock : dpoMockMode settings with
    | true =>
      split
      · simp [escapes]
      · simp [escapes, bind, Except.bind, pure, Except.pure]
    | false =>
      rw [if_neg (by simp), if_neg (by simp)]
      have hok : escapes (Except.ok raw : Except PyError Dict) = false := rfl
      refine (escapes_bind _ fun _ => rfl).trans ((escapes_bind _ fun _ => rfl).trans ?_)
      simp [htoken, hok]

theorem getOrEmpty_eq (value : Json) (key : String) :
    value.getOrEmpty key = if value.hasNoGet then .error (.attributeError "get") else .ok (value.get key) := by
  unfold Json.getOrEmpty Json.hasNoGet
  cases value with
  | object text fields =>
    cases fields with
    | nil => rfl
    | cons field rest => rfl
  | null => rfl
  | bool value => cases value <;> rfl
  | number text isZero => cases isZero <;> rfl
  | string text =>
    by_cases hempty : text = ""
    · subst hempty
      rfl
    · simp [Json.truthy, hempty]
  | array text isEmpty => cases isEmpty <;> rfl

/-- Reading a Stripe event fails just where a part of it is no object. -/
theorem stripeEvent_escapes (event : Dict) :
    (escapes do
      let object ← (event.value "data").getOrEmpty "object"
      let metadata ← object.getOrEmpty "metadata"
      let tenantId ← metadata.getOrEmpty "tenant_id"
      let subscription ← object.getOrEmpty "subscription"
      let id ← object.getOrEmpty "id"
      let customer ← object.getOrEmpty "customer"
      return ({
        eventType := stripeEventType (event.value "type").textOrEmpty
        tenantId := tenantId
        subscriptionId := Json.firstTruthy [subscription, id]
        customerRef := customer
        raw := event } : ParsedWebhook)) = stripeShapeless event := by
  unfold stripeShapeless
  simp only [getOrEmpty_eq]
  cases (event.value "data").hasNoGet with
  | true => rfl
  | false =>
    rw [if_neg Bool.false_ne_true, escapes_bind_of_ok rfl]
    cases ((event.value "data").get "object").hasNoGet with
    | true => rfl
    | false =>
      rw [if_neg Bool.false_ne_true, escapes_bind_of_ok rfl]
      cases (((event.value "data").get "object").get "metadata").hasNoGet with
      | true => rfl
      | false => rfl

theorem stripeParseWebhook_escapes : escapes (stripeParseWebhook providers.stripeSdk settings request) =
    parserEscapes providers settings .stripe request := by
  unfold stripeParseWebhook parserEscapes extractStripeEvent
  dsimp only
  by_cases hsecret : settings.stripeWebhookSecret ≠ ""
  · rw [if_pos hsecret, if_pos hsecret]
    cases providers.stripeSdk with
    | none => rfl
    | some constructEvent =>
      dsimp only
      by_cases hheader : Headers.first request.headers ["stripe-signature", "Stripe-Signature"] = ""
      · rw [if_pos hheader]
        simp [hheader, escapes, bind, Except.bind]
      · rw [if_neg hheader]
        cases constructEvent request (Headers.first request.headers ["stripe-signature", "Stripe-Signature"])
            settings.stripeWebhookSecret with
        | error error => cases error <;> simp [hheader, escapes, bind, Except.bind]
        | ok event =>
          rw [escapes_bind_of_ok rfl, stripeEvent_escapes]
          simp [hheader]
  · rw [if_neg hsecret, if_neg hsecret]
    cases settings.strictWebhookVerification with
    | true => rfl
    | false =>
      rw [if_neg Bool.false_ne_true]
      cases request.text.bind WebhookText.json with
      | error error => rfl
      | ok value =>
        cases value with
        | object text fields =>
          rw [escapes_bind_of_ok rfl, stripeEvent_escapes]
          rfl
        | _ => rfl

theorem parseWebhook_escapes (gateway : Gateway) :
    escapes (parseWebhook providers settings gateway request) = parserEscapes providers settings gateway request := by
  cases gateway with
  | stripe => exact stripeParseWebhook_escapes providers settings request
  | selcom => exact selcomParseWebhook_escapes providers settings request
  | azampay => exact azampayParseWebhook_escapes request
  | dpo => exact dpoParseWebhook_escapes providers settings request

end

end ControlPlane
