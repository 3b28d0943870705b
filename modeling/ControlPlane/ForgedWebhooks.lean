import ControlPlane.SignedWebhooks

/-!
# Who vouches for a confirmed payment

A confirmed payment should come from a payload that its provider authenticated, about a transaction that the platform
created for the tenant.  What a provider vouches for differs: Stripe for the whole event, Selcom for a signed message,
DPO for a token, AzamPay for nothing.  The tenant is read off the payload, so it is vouched for only where the payload
agrees with what was authenticated.
-/

namespace ControlPlane

inductive Gateway where
  | stripe | selcom | azampay | dpo
  deriving DecidableEq, Repr

/-- A notification that Selcom signed. -/
structure SelcomNotification where
  timestamp : String
  signedFields : List String
  payload : Dict

/-- The providers: what they compute and answer, and what the platform and they have done so far. -/
structure Providers where
  selcom : SelcomPrimitives
  /-- the notifications Selcom signed -/
  selcomSigned : List SelcomNotification
  /-- DPO's answer about a token -/
  dpoAnswer : String → Except PyError Dict
  /-- the tokens of the checkouts created at DPO, each with the tenant it was created for -/
  dpoTokens : List (String × String)
  stripeSdk : StripeSdk
  /-- the sessions of the checkouts created at Stripe, each with the tenant it was created for -/
  stripeSessions : List (String × String)

/-- `parse_webhook` of a gateway. -/
def parseWebhook (providers : Providers) (settings : GatewaySettings) (gateway : Gateway) (request : WebhookRequest) :
    Except PyError ParsedWebhook :=
  match gateway with
  | .stripe => stripeParseWebhook providers.stripeSdk settings request
  | .selcom => selcomParseWebhook providers.selcom settings request
  | .azampay => azampayParseWebhook request
  | .dpo => dpoParseWebhook providers.dpoAnswer settings request

/-- An event that confirms a tenant's payment. -/
structure ParsedWebhook.Confirms (event : ParsedWebhook) (tenantId : String) : Prop where
  confirmed : event.eventType = .paymentConfirmed
  tenant : event.tenantId = .string tenantId

def SelcomNotification.message (dumps : Json → String) (n : SelcomNotification) : String :=
  signatureMessage dumps n.timestamp n.payload n.signedFields

/-- DPO says that the token's transaction is paid. -/
def Providers.dpoPaid (providers : Providers) (token : String) : Prop :=
  ∃ data, providers.dpoAnswer token = .ok data ∧
    lower (data.first ["Result", "status"]).textOrEmpty ∈ ["000", "approved", "success", "paid"]

/-- The object of a Stripe event is a session that was created for a tenant, with the metadata it was created with. -/
structure Providers.StripeSession (providers : Providers) (event : Dict) (tenantId : String) : Prop where
  session : ∃ object metadata id, (event.value "data").getOrEmpty "object" = .ok object ∧
    object.getOrEmpty "metadata" = .ok metadata ∧ metadata.getOrEmpty "tenant_id" = .ok (.string tenantId) ∧
    object.getOrEmpty "id" = .ok (.string id) ∧ (id, tenantId) ∈ providers.stripeSessions

/-- The provider authenticated the request, and what it authenticated is a payment of a transaction that was created for
the tenant.  AzamPay is never asked. -/
def Vouched (providers : Providers) (settings : GatewaySettings) (gateway : Gateway) (request : WebhookRequest)
    (tenantId : String) : Prop :=
  match gateway with
  | .stripe => ∃ event, extractStripeEvent providers.stripeSdk settings request = .ok event ∧
      providers.StripeSession event tenantId
  | .selcom => ∃ raw, decodePayload request = .ok raw ∧ ∃ n ∈ providers.selcomSigned,
      n.message providers.selcom.dumps = claimedMessage providers.selcom request raw ∧
      (selcomEvent n.payload).Confirms tenantId
  | .azampay => False
  | .dpo => ∃ raw, dpoPayload request = .ok raw ∧ providers.dpoPaid (dpoToken raw) ∧
      (dpoToken raw, tenantId) ∈ providers.dpoTokens

/-- In the request's event only what is vouched for confirms a payment. -/
def ConfirmsOnlyVouched (providers : Providers) (settings : GatewaySettings) (gateway : Gateway)
    (request : WebhookRequest) : Prop :=
  ∀ event tenantId, parseWebhook providers settings gateway request = .ok event → event.Confirms tenantId →
    Vouched providers settings gateway request tenantId

/-- The credentials of the gateways are configured and strict verification is on. -/
structure GatewaySettings.Strict (settings : GatewaySettings) : Prop where
  strict : settings.strictWebhookVerification = true
  selcom : settings.selcomApiKey ≠ "" ∧ settings.selcomApiSecret ≠ ""
  dpo : dpoMockMode settings = false
  stripe : settings.stripeWebhookSecret ≠ ""

/-- Stripe's events about completed checkouts are about the platform's sessions. -/
def Providers.StripeHonest (providers : Providers) (settings : GatewaySettings) : Prop :=
  ∀ request event, extractStripeEvent providers.stripeSdk settings request = .ok event →
    (event.value "type").textOrEmpty = "checkout.session.completed" → ∃ tenantId, providers.StripeSession event tenantId

/-- An AzamPay payload reports no success, or none for anybody. -/
def AzampaySilent (request : WebhookRequest) : Prop :=
  ∀ raw, decodePayload request = .ok raw → azampayEventType raw = .paymentConfirmed →
    (raw.first ["externalId", "externalID", "referenceId", "tenant_id"]).truthy = false

/-- A DPO payload with a paid token names the tenant that the token was created for, or none, or is about the end of a
subscription. -/
def Providers.DpoAgrees (providers : Providers) (request : WebhookRequest) : Prop :=
  ∀ raw tenantId, dpoPayload request = .ok raw → dpoToken raw ≠ "" → providers.dpoPaid (dpoToken raw) →
    lower (raw.value "event_type").textOrEmpty ∉ ["subscription.cancelled", "subscription.canceled"] →
      (raw.first ["CompanyRef", "tenant_id"]).textOrNone = .string tenantId → (dpoToken raw, tenantId) ∈ providers.dpoTokens

/-- A request carries timestamp, list of signed fields and digest of a notification, and the signed fields of both are
plain. -/
structure SelcomNotification.CarriedBy (n : SelcomNotification) (primitives : SelcomPrimitives)
    (settings : GatewaySettings) (timestamp header : String) (request : WebhookRequest) : Prop where
  timestamp : n.timestamp = timestamp ∧ selcomTimestamp request = timestamp
  fields : n.signedFields = signedFieldsOf header ∧ selcomSignedFields request = header
  digest : selcomDigest request = primitives.hmacDigest settings.selcomApiSecret (n.message primitives.dumps)
  plain : ∀ field ∈ signedFieldsOf header, (n.payload.value field).Plain
  plainRequest : request.PlainUnder header

/-! ### Stripe, AzamPay and DPO -/

section
variable {providers : Providers} {settings : GatewaySettings}

theorem stripeEventType_eq_confirmed {name : String} (h : stripeEventType name = .paymentConfirmed) :
    name = "checkout.session.completed" := by
  unfold stripeEventType at h
  split at h
  · assumption
  · split at h
    · cases h
    · split at h <;> cases h

theorem stripe_confirmsOnlyVouched (hhonest : providers.StripeHonest settings) (request : WebhookRequest) :
    ConfirmsOnlyVouched providers settings .stripe request := by
  intro event tenantId hparse hconfirms
  obtain ⟨stripeEvent, hevent, hrest⟩ := bind_eq_ok.1 hparse
  obtain ⟨object, hobject, hrest⟩ := bind_eq_ok.1 hrest
  obtain ⟨metadata, hmetadata, hrest⟩ := bind_eq_ok.1 hrest
  obtain ⟨tenant, htenant, hrest⟩ := bind_eq_ok.1 hrest
  obtain ⟨subscription, -, hrest⟩ := bind_eq_ok.1 hrest
  obtain ⟨id, -, hrest⟩ := bind_eq_ok.1 hrest
  obtain ⟨customer, -, hrest⟩ := bind_eq_ok.1 hrest
  cases hrest
  obtain ⟨created, hsession⟩ := hhonest request stripeEvent hevent (stripeEventType_eq_confirmed hconfirms.confirmed)
  -- the metadata of the session is the one the event's tenant was read from
  obtain ⟨object', metadata', id', hobject', hmetadata', htenant', -, -⟩ := hsession.session
  rw [hobject] at hobject'
  cases hobject'
  rw [hmetadata] at hmetadata'
  cases hmetadata'
  rw [htenant] at htenant'
  cases htenant'
  have hsame : Json.string created = Json.string tenantId := hconfirms.tenant
  cases hsame
  exact ⟨stripeEvent, hevent, hsession⟩

theorem textOrNone_eq_string {value : Json} {text : String} (h : value.textOrNone = .string text) :
    value.truthy = true := by
  unfold Json.textOrNone at h
  split at h
  · assumption
  · cases h

theorem azampay_confirmsOnlyVouched_iff (request : WebhookRequest) :
    ConfirmsOnlyVouched providers settings .azampay request ↔ AzampaySilent request := by
  constructor
  · intro h raw hraw hconfirmed
    by_contra hnamed
    have hparse : parseWebhook providers settings .azampay request = .ok
        { eventType := azampayEventType raw
          tenantId := (raw.first ["externalId", "externalID", "referenceId", "tenant_id"]).textOrNone
          subscriptionId := (raw.first ["transactionId", "transaction_id"]).textOrNone
          customerRef := (raw.first ["accountNumber", "msisdn", "phone"]).textOrNone
          raw := raw.withProvider "azampay" } := bind_eq_ok.2 ⟨raw, hraw, rfl⟩
    exact h _ _ hparse ⟨hconfirmed, if_pos (Bool.not_eq_false _ ▸ hnamed)⟩
  · intro hsilent event tenantId hparse hconfirms
    obtain ⟨raw, hraw, hevent⟩ := bind_eq_ok.1 hparse
    cases hevent
    have hnone := hsilent raw hraw hconfirms.confirmed
    have hsome := textOrNone_eq_string hconfirms.tenant
    exact Bool.noConfusion (hnone.symm.trans hsome)

/-- The event the DPO gateway makes of a payload when its token is verified or not. -/
def dpoEvent (raw : Dict) (verified : Bool) : ParsedWebhook :=
  { eventType :=
      if lower (raw.value "event_type").textOrEmpty ∈ ["subscription.cancelled", "subscription.canceled"] then
        .subscriptionCancelled
      else if verified then .paymentConfirmed else .paymentFailed
    tenantId := (raw.first ["CompanyRef", "tenant_id"]).textOrNone
    subscriptionId := (raw.first ["TransactionID", "subscription_id"]).textOrNone
    customerRef := (raw.first ["CustomerRef", "customer_ref"]).textOrNone
    raw := raw.withProvider "dpo" }

theorem dpoVerifyToken_eq_ok (hmock : dpoMockMode settings = false) {token : String} {verified : Bool} :
    dpoVerifyToken providers.dpoAnswer settings token = .ok verified ↔ ∃ data, providers.dpoAnswer token = .ok data ∧
      verified = decide (lower (data.first ["Result", "status"]).textOrEmpty ∈ ["000", "approved", "success", "paid"]) := by
  unfold dpoVerifyToken
  rw [if_neg (by simp [hmock]), bind_eq_ok]
  constructor
  · rintro ⟨data, hdata, h⟩
    exact ⟨data, hdata, (Except.ok.inj h).symm⟩
  · rintro ⟨data, hdata, rfl⟩
    exact ⟨data, hdata, rfl⟩

/-- With its credentials configured the DPO gateway makes an event exactly of a payload with a token that it got an
answer about. -/
theorem dpoParseWebhook_eq_ok (hmock : dpoMockMode settings = false) {request : WebhookRequest} {event : ParsedWebhook} :
    dpoParseWebhook providers.dpoAnswer settings request = .ok event ↔
      ∃ raw verified, dpoPayload request = .ok raw ∧ dpoToken raw ≠ "" ∧
        dpoVerifyToken providers.dpoAnswer settings (dpoToken raw) = .ok verified ∧ event = dpoEvent raw verified := by
  unfold dpoParseWebhook
  rw [bind_eq_ok]
  constructor
  · rintro ⟨raw, hraw, h⟩
    by_cases htoken : dpoToken raw = ""
    · rw [if_pos htoken] at h
      cases h
    · rw [if_neg htoken, if_neg (by simp [hmock])] at h
      obtain ⟨verified, hverified, h⟩ := bind_eq_ok.1 h
      exact ⟨raw, verified, hraw, htoken, hverified, (Except.ok.inj h).symm⟩
  · rintro ⟨raw, verified, hraw, htoken, hverified, rfl⟩
    refine ⟨raw, hraw, ?_⟩
    rw [if_neg htoken, if_neg (by simp [hmock])]
    exact bind_eq_ok.2 ⟨verified, hverified, rfl⟩

/-- An event of the DPO gateway confirms a tenant's payment if the token is verified, the payload names the tenant and it
is not about the end of a subscription. -/
theorem dpoEvent_confirms {raw : Dict} {verified : Bool} {tenantId : String} :
    (dpoEvent raw verified).Confirms tenantId ↔ verified = true ∧
      lower (raw.value "event_type").textOrEmpty ∉ ["subscription.cancelled", "subscription.canceled"] ∧
      (raw.first ["CompanyRef", "tenant_id"]).textOrNone = .string tenantId := by
  constructor
  · rintro ⟨hconfirmed, htenant⟩
    unfold dpoEvent at hconfirmed
    dsimp only at hconfirmed
    by_cases hcancelled : lower (raw.value "event_type").textOrEmpty ∈ ["subscription.cancelled", "subscription.canceled"]
    · rw [if_pos hcancelled] at hconfirmed
      cases hconfirmed
    · rw [if_neg hcancelled] at hconfirmed
      cases verified with
      | false => cases hconfirmed
      | true => exact ⟨rfl, hcancelled, htenant⟩
  · rintro ⟨rfl, hcancelled, htenant⟩
    exact ⟨by unfold dpoEvent; dsimp only; rw [if_neg hcancelled, if_pos rfl], htenant⟩

theorem dpo_confirmsOnlyVouched_iff (hmock : dpoMockMode settings = false) (request : WebhookRequest) :
    ConfirmsOnlyVouched providers settings .dpo request ↔ providers.DpoAgrees request := by
  constructor
  · intro h raw tenantId hraw htoken hpaid hnot htenant
    obtain ⟨data, hdata, hstatus⟩ := hpaid
    have hverified : dpoVerifyToken providers.dpoAnswer settings (dpoToken raw) = .ok true :=
      (dpoVerifyToken_eq_ok hmock).2 ⟨data, hdata, (decide_eq_true hstatus).symm⟩
    have hparse := (dpoParseWebhook_eq_ok hmock).2 ⟨raw, true, hraw, htoken, hverified, rfl⟩
    obtain ⟨raw', hraw', -, hcreated⟩ := h _ tenantId hparse (dpoEvent_confirms.2 ⟨rfl, hnot, htenant⟩)
    rw [hraw] at hraw'
    cases hraw'
    exact hcreated
  · intro hagrees event tenantId hparse hconfirms
    obtain ⟨raw, verified, hraw, htoken, hverified, rfl⟩ := (dpoParseWebhook_eq_ok hmock).1 hparse
    obtain ⟨rfl, hnot, htenant⟩ := dpoEvent_confirms.1 hconfirms
    obtain ⟨data, hdata, hstatus⟩ := (dpoVerifyToken_eq_ok hmock).1 hverified
    have hpaid : providers.dpoPaid (dpoToken raw) := ⟨data, hdata, of_decide_eq_true hstatus.symm⟩
    exact ⟨raw, hraw, hpaid, hagrees raw tenantId hraw htoken hpaid hnot htenant⟩

/-! ### Selcom -/

/-- The providers with one notification signed by Selcom. -/
def Providers.withNotification (providers : Providers) (n : SelcomNotification) : Providers :=
  { providers with selcomSigned := [n] }

/-- A request that carries a notification's signature and is accepted was signed for the notification's message. -/
theorem SelcomNotification.CarriedBy.message {n : SelcomNotification} {timestamp header : String}
    {request : WebhookRequest} {event : ParsedWebhook} (hsound : providers.selcom.Sound settings)
    (hstrict : settings.strictWebhookVerification = true)
    (h : n.CarriedBy providers.selcom settings timestamp header request)
    (hparse : selcomParseWebhook providers.selcom settings request = .ok event) :
    ∃ raw, decodePayload request = .ok raw ∧ event = selcomEvent raw ∧
      claimedMessage providers.selcom request raw = n.message providers.selcom.dumps := by
  obtain ⟨raw, hraw, hevent, hdigest⟩ := selcomParseWebhook_ok hstrict hparse
  refine ⟨raw, hraw, hevent, hsound.collisionFree ?_⟩
  rw [← hdigest, h.digest]
  exact strip_of_noSpace (hsound.digest _).2

/-- A payload without one of the confirming fields confirms nothing, and with it, it confirms a payment. -/
def withoutField (field : String) : Dict :=
  if field = "order_id" ∨ field = "tenant_id" then
    [("payment_status", .string "COMPLETED"), ("result", .string "SUCCESS")]
  else if field = "payment_status" then [("result", .string "SUCCESS"), ("order_id", .string "t")]
  else [("payment_status", .string "COMPLETED"), ("order_id", .string "t")]

def confirmingValue (field : String) : String :=
  if field = "order_id" ∨ field = "tenant_id" then "t"
  else if field = "payment_status" then "COMPLETED"
  else if field = "result" then "SUCCESS"
  else "000"

/-- Two payloads with the same event type and tenant confirm the same. -/
theorem selcomEvent_confirms {raw raw' : Dict} {tenantId : String} (htype : selcomEventType raw = selcomEventType raw')
    (htenant : (raw.first ["order_id", "tenant_id"]).textOrNone = (raw'.first ["order_id", "tenant_id"]).textOrNone)
    (h : (selcomEvent raw).Confirms tenantId) : (selcomEvent raw').Confirms tenantId := by
  obtain ⟨hconfirmed, hnamed⟩ := h
  unfold selcomEvent at hconfirmed hnamed ⊢
  dsimp only at hconfirmed hnamed
  constructor
  · dsimp only
    rw [← htype]
    exact hconfirmed
  · dsimp only
    rw [← htenant]
    exact hnamed

theorem withoutField_confirms {field : String} (h : field ∈ confirmingFields) :
    (∀ tenantId, ¬(selcomEvent (withoutField field)).Confirms tenantId) ∧
      (selcomEvent ((field, .string (confirmingValue field)) :: withoutField field)).Confirms "t" := by
  simp only [confirmingFields, List.mem_cons, List.not_mem_nil, or_false] at h
  rcases h with rfl | rfl | rfl | rfl | rfl
  · exact ⟨fun _ h => absurd h.confirmed (by decide), by decide, rfl⟩
  · exact ⟨fun _ h => absurd h.confirmed (by decide), by decide, rfl⟩
  · exact ⟨fun _ h => absurd h.confirmed (by decide), by decide, rfl⟩
  · exact ⟨fun _ h => (by cases h.tenant), by decide, rfl⟩
  · exact ⟨fun _ h => (by cases h.tenant), by decide, rfl⟩

theorem withoutField_plain (field g : String) : ((withoutField field).value g).Plain := by
  have hplain : ∀ l : Dict, (∀ f ∈ l, ∃ text, f.2 = .string text ∧ '&' ∉ text.toList) → (Dict.value l g).Plain := by
    intro l hl
    unfold Dict.value
    cases hfind : l.find? fun f => f.1 = g with
    | none => exact Or.inl rfl
    | some f => exact Or.inr (hl f (List.mem_of_find?_eq_some hfind))
  apply hplain
  intro f hf
  unfold withoutField at hf
  split at hf
  · simp only [List.mem_cons, List.not_mem_nil, or_false] at hf
    rcases hf with rfl | rfl <;> exact ⟨_, rfl, by decide⟩
  · split at hf
    · simp only [List.mem_cons, List.not_mem_nil, or_false] at hf
      rcases hf with rfl | rfl <;> exact ⟨_, rfl, by decide⟩
    · simp only [List.mem_cons, List.not_mem_nil, or_false] at hf
      rcases hf with rfl | rfl <;> exact ⟨_, rfl, by decide⟩

/-- With Selcom's own timestamp and list of signed fields, and plain payloads, what confirms a payment is vouched for if
the confirming fields are signed, and only then. -/
theorem selcom_confirmsOnlyVouched_iff (hsettings : settings.Strict) (hsound : providers.selcom.Sound settings)
    {timestamp header : String} (htimestamp : timestamp ≠ "") (hfields : signedFieldsOf header ≠ []) :
    (∀ (n : SelcomNotification) (request : WebhookRequest),
        n.CarriedBy providers.selcom settings timestamp header request →
          ConfirmsOnlyVouched (providers.withNotification n) settings .selcom request) ↔
      confirmingFields ⊆ signedFieldsOf header := by
  constructor
  · intro h field hfield
    by_contra hunsigned
    -- the notification lacks the field, and the request adds it under the same signature
    obtain ⟨hnothing, hconfirms⟩ := withoutField_confirms hfield
    have hsame : ∀ g ∈ signedFieldsOf header,
        Dict.value ((field, .string (confirmingValue field)) :: withoutField field) g =
          (withoutField field).value g := by
      intro g hg
      have hne : ¬field = g := by
        rintro rfl
        exact hunsigned hg
      simp [Dict.value, hne]
    have hmessage : signatureMessage providers.selcom.dumps timestamp
        ((field, .string (confirmingValue field)) :: withoutField field) (signedFieldsOf header) =
          signatureMessage providers.selcom.dumps timestamp (withoutField field) (signedFieldsOf header) :=
      signatureMessage_congr fun g hg => by rw [hsame g hg]
    obtain ⟨hparse, htime, hsigned, hdigest⟩ := signedRequest_accepted hsound hsettings.strict hsettings.selcom.1
      hsettings.selcom.2 htimestamp hfields ((field, .string (confirmingValue field)) :: withoutField field)
    have hcarried : (SelcomNotification.mk timestamp (signedFieldsOf header) (withoutField field)).CarriedBy
        providers.selcom settings timestamp header (signedRequest providers.selcom settings timestamp header
          ((field, .string (confirmingValue field)) :: withoutField field)) := by
      refine ⟨⟨rfl, htime⟩, ⟨rfl, hsigned⟩, by rw [hdigest, hmessage]; rfl, fun g _ => withoutField_plain field g, ?_⟩
      intro raw hraw g hg
      rw [decodePayload_signedRequest] at hraw
      cases hraw
      rw [hsame g hg]
      exact withoutField_plain field g
    obtain ⟨_, -, n, hn, -, hvouched⟩ := h _ _ hcarried _ "t" hparse hconfirms
    rw [List.mem_singleton.1 hn] at hvouched
    exact hnothing "t" hvouched
  · intro hall n request hcarried event tenantId hparse hconfirms
    obtain ⟨raw, hraw, rfl, hmessage⟩ := hcarried.message hsound hsettings.strict hparse
    refine ⟨raw, hraw, n, List.mem_singleton.2 rfl, hmessage.symm, ?_⟩
    have hlists : signatureMessage providers.selcom.dumps timestamp raw (signedFieldsOf header) =
        signatureMessage providers.selcom.dumps timestamp n.payload (signedFieldsOf header) := by
      unfold claimedMessage SelcomNotification.message at hmessage
      rw [hcarried.timestamp.1, hcarried.timestamp.2, hcarried.fields.1, hcarried.fields.2] at hmessage
      exact hmessage
    have hplain := hcarried.plainRequest raw hraw
    have hvalues := signValue_of_message hplain hcarried.plain hlists
    obtain ⟨htype, htenant⟩ := sameConfirmation_of_signed (fun f hf => hplain f (hall hf))
      (fun f hf => hcarried.plain f (hall hf)) fun f hf => hvalues f (hall hf)
    exact selcomEvent_confirms htype htenant hconfirms

end

/-- With strict verification and the credentials of all gateways, and with Stripe honest: Stripe confirms only what is
vouched for; an AzamPay or a DPO request does so exactly if it is silent or agrees with its token; and the requests under a
Selcom signature do so exactly if the signature covers the confirming fields. -/
theorem confirms_only_vouched_iff (providers : Providers) (settings : GatewaySettings) (hsettings : settings.Strict)
    (hsound : providers.selcom.Sound settings) (hhonest : providers.StripeHonest settings) :
    (∀ request, ConfirmsOnlyVouched providers settings .stripe request) ∧
      (∀ request, ConfirmsOnlyVouched providers settings .azampay request ↔ AzampaySilent request) ∧
      (∀ request, ConfirmsOnlyVouched providers settings .dpo request ↔ providers.DpoAgrees request) ∧
      ∀ timestamp header, timestamp ≠ "" → signedFieldsOf header ≠ [] →
        ((∀ (n : SelcomNotification) (request : WebhookRequest),
            n.CarriedBy providers.selcom settings timestamp header request →
              ConfirmsOnlyVouched (providers.withNotification n) settings .selcom request) ↔
          confirmingFields ⊆ signedFieldsOf header) := by
  refine ⟨stripe_confirmsOnlyVouched hhonest, azampay_confirmsOnlyVouched_iff,
    dpo_confirmsOnlyVouched_iff hsettings.dpo, ?_⟩
  intro timestamp header htimestamp hfields
  exact selcom_confirmsOnlyVouched_iff hsettings hsound htimestamp hfields

namespace Small

def gatewaySettings : GatewaySettings := ⟨true, none, "key", "secret", "company", "service", "whsec"⟩

/-- The event of a completed checkout of the first tenant. -/
def completedCheckout : Dict :=
  [("type", .string "checkout.session.completed"), ("data", .object "" [("object", .object ""
    [("id", .string "cs_1"), ("metadata", .object "" [("tenant_id", .string "tenant-a")])])])]

def providers : Providers where
  selcom := selcom
  selcomSigned := []
  dpoAnswer token := .ok [("Result", .string (if token = "TOK-A" then "000" else "904"))]
  dpoTokens := [("TOK-A", "tenant-a")]
  stripeSdk := some fun _ signature _ =>
    if signature = "v1" then .ok completedCheckout else .error (.valueError "No signatures found")
  stripeSessions := [("cs_1", "tenant-a")]

def jsonRequest (raw : Dict) : WebhookRequest :=
  ⟨[("content-type", "application/json")], .ok ⟨false, .ok (.object "" raw), []⟩⟩

/-- The paid token of one tenant, beside the name of another. -/
def foreignToken : Dict := [("TransactionToken", .string "TOK-A"), ("CompanyRef", .string "tenant-b")]

def claimedSuccess : Dict := [("success", .string "true"), ("externalId", .string "tenant-b")]

private theorem gatewaySettings_strict : gatewaySettings.Strict :=
  ⟨by decide, ⟨by decide, by decide⟩, by decide, by decide⟩

private theorem stripe_honest : providers.StripeHonest gatewaySettings := by
  intro request event hevent _
  have hsession : event = completedCheckout := by
    unfold extractStripeEvent at hevent
    rw [if_pos (by decide)] at hevent
    dsimp only [providers] at hevent
    split at hevent
    · cases hevent
    · split at hevent
      · cases hevent
        rfl
      · cases hevent
  rw [hsession]
  exact ⟨"tenant-a", ⟨_, _, "cs_1", rfl, rfl, rfl, rfl, List.mem_singleton.2 rfl⟩⟩

end Small

theorem small_confirms_only_vouched_iff :
    (∀ request, ConfirmsOnlyVouched Small.providers Small.gatewaySettings .stripe request) ∧
      (∀ request, ConfirmsOnlyVouched Small.providers Small.gatewaySettings .azampay request ↔ AzampaySilent request) ∧
      (∀ request, ConfirmsOnlyVouched Small.providers Small.gatewaySettings .dpo request ↔
        Small.providers.DpoAgrees request) ∧
      ∀ timestamp header, timestamp ≠ "" → signedFieldsOf header ≠ [] →
        ((∀ (n : SelcomNotification) (request : WebhookRequest),
            n.CarriedBy Small.providers.selcom Small.gatewaySettings timestamp header request →
              ConfirmsOnlyVouched (Small.providers.withNotification n) Small.gatewaySettings .selcom request) ↔
          confirmingFields ⊆ signedFieldsOf header) :=
  confirms_only_vouched_iff Small.providers Small.gatewaySettings Small.gatewaySettings_strict
    ⟨Small.selcom_sound.collisionFree, Small.selcom_sound.digest, Small.selcom_sound.key⟩ Small.stripe_honest

private theorem jsonRequest_isJson (raw : Dict) : (Small.jsonRequest raw).isJson = true := by
  have htype : Headers.first (Small.jsonRequest raw).headers ["content-type", "Content-Type"] = "application/json" := by
    simp [Small.jsonRequest, Headers.first, orText]
  unfold WebhookRequest.isJson
  rw [htype]
  decide

private theorem dpoPayload_jsonRequest (raw : Dict) : dpoPayload (Small.jsonRequest raw) = .ok raw := by
  unfold dpoPayload
  refine bind_eq_ok.2 ⟨⟨false, .ok (.object "" raw), []⟩, rfl, ?_⟩
  rw [if_pos (jsonRequest_isJson raw)]
  rfl

private theorem decodePayload_jsonRequest (raw : Dict) : decodePayload (Small.jsonRequest raw) = .ok raw := by
  unfold decodePayload
  refine bind_eq_ok.2 ⟨⟨false, .ok (.object "" raw), []⟩, rfl, ?_⟩
  rw [if_pos (jsonRequest_isJson raw)]
  rfl

/-- DPO confirms the payment of a tenant by another's token, and AzamPay confirms what anybody claims. -/
theorem foreign_payload_confirms :
    ¬ConfirmsOnlyVouched Small.providers Small.gatewaySettings .dpo (Small.jsonRequest Small.foreignToken) ∧
      ¬ConfirmsOnlyVouched Small.providers Small.gatewaySettings .azampay (Small.jsonRequest Small.claimedSuccess) := by
  constructor
  · intro h
    have hcreated := (dpo_confirmsOnlyVouched_iff (by decide) _).1 h Small.foreignToken "tenant-b"
      (dpoPayload_jsonRequest _) (by decide) ⟨_, rfl, by decide⟩ (by decide) rfl
    exact absurd hcreated (by decide)
  · intro h
    have hsilent := (azampay_confirmsOnlyVouched_iff _).1 h Small.claimedSuccess (decodePayload_jsonRequest _) (by decide)
    exact absurd hsilent (by decide)

end ControlPlane
