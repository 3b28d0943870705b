import ControlPlane.Billing.WebhookApplicationService
import Mathlib.Data.List.Infix

/-!
# What the payment gateways read of a webhook

A request's headers and its payload as text.  A gateway reads the text as JSON or as a form, whichever the content type
asks for, and looks its fields up in the dictionary that comes out.
-/

namespace ControlPlane

/-- A dictionary with JSON values, and a request's headers. -/
abbrev Dict := List (String × Json)

abbrev Headers := List (String × String)

/-- Whether a text is empty, and what `json.loads(text)` and `parse_qs(text, keep_blank_values=True)` make of it. -/
structure WebhookText where
  isEmpty : Bool
  json : Except PyError Json
  form : List (String × List String)

/-- `json.loads(text or "{}")`. -/
def WebhookText.jsonOrEmpty (text : WebhookText) : Except PyError Json :=
  if text.isEmpty then .ok (.object "{}" []) else text.json

/-- A webhook request; the text is the payload's, decoded as UTF-8. -/
structure WebhookRequest where
  headers : Headers
  text : Except PyError WebhookText

/-- A `WebhookEvent` of a gateway, with the texts and values it found in the payload. -/
structure ParsedWebhook where
  eventType : WebhookEventType
  tenantId : Json
  subscriptionId : Json
  customerRef : Json
  raw : Dict

/-- The settings the gateways read; a credential that is not configured is empty. -/
structure GatewaySettings where
  isProduction : Bool
  requireStrictWebhookVerification : Option Bool
  selcomApiKey : String
  selcomApiSecret : String
  dpoCompanyToken : String
  dpoServiceType : String
  stripeWebhookSecret : String

/-- `strict_webhook_verification`. -/
def GatewaySettings.strictWebhookVerification (settings : GatewaySettings) : Bool :=
  settings.requireStrictWebhookVerification.getD settings.isProduction

/-- The upper case of a character where that is made of ASCII letters; the others stand for their own, so that a text
is the upper case of the same ASCII words as in Python. -/
def upperChar (c : Char) : List Char :=
  match c with
  | 'ı' => ['I']
  | 'ſ' => ['S']
  | 'ß' => ['S', 'S']
  | 'ﬀ' => ['F', 'F']
  | 'ﬁ' => ['F', 'I']
  | 'ﬂ' => ['F', 'L']
  | 'ﬃ' => ['F', 'F', 'I']
  | 'ﬄ' => ['F', 'F', 'L']
  | 'ﬅ' | 'ﬆ' => ['S', 'T']
  | c => [c.toUpper]

/-- `text.upper()`, to be compared with ASCII words. -/
def upper (text : String) : String := String.ofList (text.toList.flatMap upperChar)

/-- `part in text`. -/
def textContains (text part : String) : Bool := part.toList <:+: text.toList

/-- `headers.get(name1) or headers.get(name2) or ... or ""`. -/
def Headers.first (headers : Headers) : List String → String
  | [] => ""
  | name :: names =>
    match orText ((headers.find? fun h => h.1 = name).map Prod.snd) none with
    | some value => value
    | none => first headers names

/-- `raw.get(key)`, `null` for a missing key. -/
def Dict.value (raw : Dict) (key : String) : Json := ((raw.find? fun f => f.1 = key).map Prod.snd).getD .null

/-- `raw.get(key1) or raw.get(key2) or ...`. -/
def Dict.first (raw : Dict) (keys : List String) : Json := Json.firstTruthy (keys.map (Dict.value raw))

/-- `str(value or "")`. -/
def Json.textOrEmpty (value : Json) : String := if value.truthy then value.str else ""

/-- `str(value) if value else None`. -/
def Json.textOrNone (value : Json) : Json := if value.truthy then .string value.str else .null

/-- `{"provider": name, **raw}`. -/
def Dict.withProvider (raw : Dict) (name : String) : Dict :=
  ("provider", ((raw.find? fun f => f.1 = "provider").map Prod.snd).getD (.string name)) ::
    raw.filter fun f => f.1 ≠ "provider"

/-- Whether a request says that its payload is JSON. -/
def WebhookRequest.isJson (request : WebhookRequest) : Bool :=
  textContains (lower (Headers.first request.headers ["content-type", "Content-Type"])) "application/json"

/-- The first value of every field of a form. -/
def WebhookText.formFields (text : WebhookText) : Dict := text.form.map fun f => (f.1, .string (f.2.headD ""))

/-- `_decode_payload` of the Selcom and the AzamPay gateway; JSON that is no object counts as empty. -/
def decodePayload (request : WebhookRequest) : Except PyError Dict := do
  let text ← request.text
  if request.isJson then
    match ← text.jsonOrEmpty with
    | .object _ fields => return fields
    | _ => return []
  else
    return text.formFields

end ControlPlane
