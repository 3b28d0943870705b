import ControlPlane.Base.Separated
import ControlPlane.Billing.Payment.Base

/-!
# The webhooks of the four payment gateways

Each gateway makes an event of a request, after its own way of asking whether the request is the provider's: Selcom
checks a digest over the fields the request names, Stripe leaves payload and signature to the provider's SDK, DPO asks
the provider about the token in the payload, and AzamPay takes the payload as it is.
-/

namespace ControlPlane

/-! ### Selcom -/

/-- What the Selcom gateway computes outside of this program: `base64(hmac-sha256(secret, message))`,
`base64(text)`, and `json.dumps(value, separators=(",", ":"), ensure_ascii=False)`. -/
structure SelcomPrimitives where
  hmacDigest : String → String → String
  b64encode : String → String
  dumps : Json → String

/-- `_sign_value`. -/
def signValue (dumps : Json → String) : Json → String
  | .null => ""
  | .bool value => if value then "true" else "false"
  | .array text isEmpty => dumps (.array text isEmpty)
  | .object text fields => dumps (.object text fields)
  | value => value.str

/-- `"&".join(parts)`. -/
def ampersandJoin (parts : List String) : String := String.ofList (Separated.join '&' (parts.map String.toList))

/-- `_signature_message`; a field that is missing is signed like an empty text. -/
def signatureMessage (dumps : Json → String) (timestamp : String) (payload : Dict) (signedFields : List String) :
    String :=
  "timestamp=" ++ timestamp ++ "&" ++
    ampersandJoin (signedFields.map fun field => field ++ "=" ++ signValue dumps (payload.value field))

/-- The field names of a `Signed-Fields` header. -/
def signedFieldsOf (header : String) : List String :=
  (((header.toList.splitOn ',').map String.ofList).map strip).filter fun field => field ≠ ""

/-- The headers that `_verify_signature` reads. -/
def selcomTimestamp (request : WebhookRequest) : String := Headers.first request.headers ["timestamp", "Timestamp"]

def selcomDigest (request : WebhookRequest) : String := Headers.first request.headers ["digest", "Digest"]

def selcomSignedFields (request : WebhookRequest) : String :=
  Headers.first request.headers ["signed-fields", "Signed-Fields"]

def selcomAuthorization (request : WebhookRequest) : String :=
  Headers.first request.headers ["authorization", "Authorization"]

/-- What follows when `hmac.compare_digest(given, expected)` does not find the two equal: the `ValueError` of the caller, or
a `TypeError`, if `given` is not ASCII, which `expected` always is. -/
def mismatchError (given message : String) : PyError :=
  if given.toList.all fun c => c.toNat < 128 then .valueError message
  else .typeError "comparing strings with non-ASCII characters is not supported"

/-- `_verify_signature`. -/
def selcomVerifySignature (primitives : SelcomPrimitives) (settings : GatewaySettings) (raw : Dict)
    (request : WebhookRequest) : Except PyError Unit :=
  if ¬settings.strictWebhookVerification then
    .ok ()
  else if settings.selcomApiKey = "" ∨ settings.selcomApiSecret = "" then
    .error (.valueError "Strict webhook verification is enabled but Selcom credentials are not configured")
  else if selcomTimestamp request = "" ∨ selcomDigest request = "" ∨ selcomSignedFields request = "" ∨
      selcomAuthorization request = "" then
    .error (.valueError "Missing required Selcom signature headers")
  else if strip (selcomAuthorization request) ≠ "SELCOM " ++ primitives.b64encode settings.selcomApiKey then
    .error (mismatchError (strip (selcomAuthorization request)) "Invalid Selcom Authorization header")
  else if signedFieldsOf (selcomSignedFields request) = [] then
    .error (.valueError "Signed-Fields header is empty")
  else if strip (selcomDigest request) ≠ primitives.hmacDigest settings.selcomApiSecret
      (signatureMessage primitives.dumps (selcomTimestamp request) raw
        (signedFieldsOf (selcomSignedFields request))) then
    .error (mismatchError (strip (selcomDigest request)) "Invalid Selcom webhook signature")
  else
    .ok ()

/-- What `parse_webhook` of the Selcom gateway says of the payment. -/
def selcomEventType (raw : Dict) : WebhookEventType :=
  let result := upper (raw.value "result").textOrEmpty
  let resultCode := (raw.value "resultcode").textOrEmpty
  let paymentStatus := upper (raw.value "payment_status").textOrEmpty
  if paymentStatus ∈ ["COMPLETED", "COMPLETE"] ∧ (result ∈ ["SUCCESS", "SUCCEEDED"] ∨ resultCode ∈ ["000", "0"]) then
    .paymentConfirmed
  else if paymentStatus ∈ ["CANCELLED", "USERCANCELED", "FAILED"] ∨ result ∈ ["FAIL", "FAILED"] then
    .paymentFailed
  else if resultCode ≠ "" ∧ resultCode ∉ ["000", "0", "111", "927", "999"] then
    .paymentFailed
  else
    .other "ignored"

/-- `SelcomGateway.parse_webhook`. -/
def selcomParseWebhook (primitives : SelcomPrimitives) (settings : GatewaySettings) (request : WebhookRequest) :
    Except PyError ParsedWebhook := do
  let raw ← decodePayload request
  selcomVerifySignature primitives settings raw request
  return {
    eventType := selcomEventType raw
    tenantId := (raw.first ["order_id", "tenant_id"]).textOrNone
    subscriptionId := (raw.first ["reference", "transid"]).textOrNone
    customerRef := (raw.first ["phone", "buyer_email", "buyer_user_id"]).textOrNone
    raw := raw.withProvider "selcom" }

/-! ### AzamPay -/

/-- What `parse_webhook` of the AzamPay gateway says of the payment. -/
def azampayEventType (raw : Dict) : WebhookEventType :=
  let statusText := lower (raw.first ["status", "transactionStatus", "transactionstatus", "message"]).textOrEmpty
  let success := match raw.value "success" with
    | .null => false
    | value => lower value.str ∈ ["true", "1", "yes"]
  if success || ["success", "complete", "approved", "paid"].any (textContains statusText) then
    .paymentConfirmed
  else if ["fail", "cancel", "declin", "expired"].any (textContains statusText) then
    .paymentFailed
  else
    .other "ignored"

/-- `AzamPayGateway.parse_webhook`: nothing in it asks who sent the request. -/
def azampayParseWebhook (request : WebhookRequest) : Except PyError ParsedWebhook := do
  let raw ← decodePayload request
  return {
    eventType := azampayEventType raw
    tenantId := (raw.first ["externalId", "externalID", "referenceId", "tenant_id"]).textOrNone
    subscriptionId := (raw.first ["transactionId", "transaction_id"]).textOrNone
    customerRef := (raw.first ["accountNumber", "msisdn", "phone"]).textOrNone
    raw := raw.withProvider "azampay" }

/-! ### DPO -/

/-- `DPOGateway.mock_mode`. -/
def dpoMockMode (settings : GatewaySettings) : Bool := settings.dpoCompanyToken = "" ∨ settings.dpoServiceType = ""

/-- `_verify_token`; `verifyToken` is the provider's answer for a token, or the error of the call. -/
def dpoVerifyToken (verifyToken : String → Except PyError Dict) (settings : GatewaySettings) (token : String) :
    Except PyError Bool :=
  if dpoMockMode settings then
    .ok true
  else do
    let data ← verifyToken token
    return lower (data.first ["Result", "status"]).textOrEmpty ∈ ["000", "approved", "success", "paid"]

/-- The payload of a DPO webhook; JSON that is no object has no `get`. -/
def dpoPayload (request : WebhookRequest) : Except PyError Dict := do
  let text ← request.text
  if request.isJson then
    match ← text.jsonOrEmpty with
    | .object _ fields => return fields
    | _ => .error (.attributeError "get")
  else
    return text.formFields

/-- The names under which a DPO webhook may carry its token. -/
def dpoToken (raw : Dict) : String :=
  (raw.first ["TransactionToken", "transaction_token", "trans_token", "TransToken"]).textOrEmpty

/-- `DPOGateway.parse_webhook`. -/
def dpoParseWebhook (verifyToken : String → Except PyError Dict) (settings : GatewaySettings)
    (request : WebhookRequest) : Except PyError ParsedWebhook := do
  let raw ← dpoPayload request
  if dpoToken raw = "" then
    .error (.valueError "Missing TransactionToken")
  else if settings.strictWebhookVerification ∧ dpoMockMode settings then
    .error (.valueError "Strict webhook verification is enabled but DPO credentials are not configured")
  else
    let verified ← dpoVerifyToken verifyToken settings (dpoToken raw)
    let eventType := if verified then WebhookEventType.paymentConfirmed else .paymentFailed
    return {
      eventType :=
        if lower (raw.value "event_type").textOrEmpty ∈ ["subscription.cancelled", "subscription.canceled"] then
          .subscriptionCancelled
        else eventType
      tenantId := (raw.first ["CompanyRef", "tenant_id"]).textOrNone
      subscriptionId := (raw.first ["TransactionID", "subscription_id"]).textOrNone
      customerRef := (raw.first ["CustomerRef", "customer_ref"]).textOrNone
      raw := raw.withProvider "dpo" }

/-! ### Stripe -/

/-- The Stripe SDK, if it is installed: `Webhook.construct_event` on the payload, the signature header and the webhook
secret, with the event as a dictionary. -/
abbrev StripeSdk := Option (WebhookRequest → String → String → Except PyError Dict)

/-- `_extract_stripe_event`; an unsigned payload is only taken when nothing asks for a signature. -/
def extractStripeEvent (sdk : StripeSdk) (settings : GatewaySettings) (request : WebhookRequest) :
    Except PyError Dict :=
  let signatureHeader := Headers.first request.headers ["stripe-signature", "Stripe-Signature"]
  if settings.stripeWebhookSecret ≠ "" then
    match sdk with
    | none => .error (.runtimeError "Stripe SDK is required when STRIPE_WEBHOOK_SECRET is configured")
    | some constructEvent =>
      if signatureHeader = "" then .error (.valueError "Missing Stripe-Signature header")
      else constructEvent request signatureHeader settings.stripeWebhookSecret
  else if settings.strictWebhookVerification then
    .error (.valueError "Strict webhook verification is enabled but STRIPE_WEBHOOK_SECRET is missing")
  else
    match request.text.bind WebhookText.json with
    | .error _ => .error (.valueError "Invalid webhook payload")
    | .ok (.object _ fields) => .ok fields
    | .ok _ => .error (.attributeError "get")

/-- `value.get(key)` of a value that may be missing, in which case it counts as an empty dictionary. -/
def Json.getOrEmpty (value : Json) (key : String) : Except PyError Json :=
  if ¬value.truthy then .ok .null
  else match value with
    | .object _ fields => .ok (Dict.value fields key)
    | _ => .error (.attributeError "get")

def stripeEventType (name : String) : WebhookEventType :=
  if name = "checkout.session.completed" then .paymentConfirmed
  else if name ∈ ["checkout.session.async_payment_failed", "invoice.payment_failed"] then .paymentFailed
  else if name = "customer.subscription.deleted" then .subscriptionCancelled
  else .other "ignored"

/-- `StripeGateway.parse_webhook`. -/
def stripeParseWebhook (sdk : StripeSdk) (settings : GatewaySettings) (request : WebhookRequest) :
    Except PyError ParsedWebhook := do
  let event ← extractStripeEvent sdk settings request
  let object ← (event.value "data").getOrEmpty "object"
  let metadata ← object.getOrEmpty "metadata"
  let tenantId ← metadata.getOrEmpty "tenant_id"
  let subscription ← object.getOrEmpty "subscription"
  let id ← object.getOrEmpty "id"
  let customer ← object.getOrEmpty "customer"
  return {
    eventType := stripeEventType (event.value "type").textOrEmpty
    tenantId := tenantId
    subscriptionId := Json.firstTruthy [subscription, id]
    customerRef := customer
    raw := event }

end ControlPlane
