import ControlPlane.Billing.Payment.Gateways
import ControlPlane.Text
import Mathlib.Data.Set.Basic

/-!
# What a Selcom signature decides

The signed message joins the fields that the request names with ampersands, and the event is read off seven fields of
the payload.  For payloads whose signed fields are flat texts without an ampersand the signature decides the event
exactly if all seven are signed.  A value of another kind can be signed like a text and be read differently, so without
that no list of signed fields is enough.
-/

namespace ControlPlane

/-- The fields that decide the event of a Selcom webhook. -/
def decidingFields : List String :=
  ["result", "resultcode", "payment_status", "order_id", "tenant_id", "reference", "transid"]

/-- Two events say the same of the same tenant and subscription. -/
structure SameDecision (e₁ e₂ : ParsedWebhook) : Prop where
  eventType : e₁.eventType = e₂.eventType
  tenantId : e₁.tenantId = e₂.tenantId
  subscriptionId : e₁.subscriptionId = e₂.subscriptionId

/-- Both requests are accepted, under one timestamp, one list of signed fields and one digest. -/
structure SignedAlike (primitives : SelcomPrimitives) (settings : GatewaySettings) (timestamp header : String)
    (r₁ r₂ : WebhookRequest) (e₁ e₂ : ParsedWebhook) : Prop where
  accepted₁ : selcomParseWebhook primitives settings r₁ = .ok e₁
  accepted₂ : selcomParseWebhook primitives settings r₂ = .ok e₂
  timestamps : selcomTimestamp r₁ = timestamp ∧ selcomTimestamp r₂ = timestamp
  headers : selcomSignedFields r₁ = header ∧ selcomSignedFields r₂ = header
  digests : selcomDigest r₁ = selcomDigest r₂

/-- A value that is missing or a text without an ampersand. -/
def Json.Plain (value : Json) : Prop := value = .null ∨ ∃ text, value = .string text ∧ '&' ∉ text.toList

/-- Every signed field of the request's payload is plain. -/
def WebhookRequest.PlainUnder (request : WebhookRequest) (header : String) : Prop :=
  ∀ raw, decodePayload request = .ok raw → ∀ field ∈ signedFieldsOf header, (raw.value field).Plain

/-- What is relied on of the digests: no two messages have the same, and a digest and an encoded key are texts that are
not empty and hold no white space. -/
structure SelcomPrimitives.Sound (primitives : SelcomPrimitives) (settings : GatewaySettings) : Prop where
  collisionFree : Function.Injective (primitives.hmacDigest settings.selcomApiSecret)
  digest : ∀ message, primitives.hmacDigest settings.selcomApiSecret message ≠ "" ∧
    ∀ c ∈ (primitives.hmacDigest settings.selcomApiSecret message).toList, UnicodeText.isSpace c = false
  key : primitives.b64encode settings.selcomApiKey ≠ "" ∧
    ∀ c ∈ (primitives.b64encode settings.selcomApiKey).toList, UnicodeText.isSpace c = false

/-! ### What an accepted request says -/

/-- The event that the gateway makes of a payload. -/
def selcomEvent (raw : Dict) : ParsedWebhook :=
  { eventType := selcomEventType raw
    tenantId := (raw.first ["order_id", "tenant_id"]).textOrNone
    subscriptionId := (raw.first ["reference", "transid"]).textOrNone
    customerRef := (raw.first ["phone", "buyer_email", "buyer_user_id"]).textOrNone
    raw := raw.withProvider "selcom" }

section
variable {primitives : SelcomPrimitives} {settings : GatewaySettings}

/-- The message that a request claims to be signed. -/
def claimedMessage (primitives : SelcomPrimitives) (request : WebhookRequest) (raw : Dict) : String :=
  signatureMessage primitives.dumps (selcomTimestamp request) raw (signedFieldsOf (selcomSignedFields request))

/-- In strict mode an accepted request carries the digest of its message. -/
theorem selcomParseWebhook_ok {request : WebhookRequest} {event : ParsedWebhook}
    (hstrict : settings.strictWebhookVerification = true)
    (h : selcomParseWebhook primitives settings request = .ok event) :
    ∃ raw, decodePayload request = .ok raw ∧ event = selcomEvent raw ∧
      strip (selcomDigest request) =
        primitives.hmacDigest settings.selcomApiSecret (claimedMessage primitives request raw) := by
  unfold selcomParseWebhook at h
  obtain ⟨raw, hraw, h⟩ := bind_eq_ok.1 h
  obtain ⟨_, hverify, h⟩ := bind_eq_ok.1 h
  refine ⟨raw, hraw, ?_, ?_⟩
  · exact (Except.ok.inj h).symm
  · unfold selcomVerifySignature at hverify
    rw [if_neg (not_not.2 hstrict)] at hverify
    split at hverify
    · cases hverify
    split at hverify
    · cases hverify
    split at hverify
    · cases hverify
    split at hverify
    · cases hverify
    split at hverify
    · cases hverify
    · rename_i hdigest
      exact not_not.1 hdigest

/-- Requests that are signed alike are signed for the same message. -/
theorem SignedAlike.message {timestamp header : String} {r₁ r₂ : WebhookRequest} {e₁ e₂ : ParsedWebhook}
    (hstrict : settings.strictWebhookVerification = true)
    (hinj : Function.Injective (primitives.hmacDigest settings.selcomApiSecret))
    (h : SignedAlike primitives settings timestamp header r₁ r₂ e₁ e₂) :
    ∃ raw₁ raw₂, decodePayload r₁ = .ok raw₁ ∧ decodePayload r₂ = .ok raw₂ ∧ e₁ = selcomEvent raw₁ ∧
      e₂ = selcomEvent raw₂ ∧ signatureMessage primitives.dumps timestamp raw₁ (signedFieldsOf header) =
        signatureMessage primitives.dumps timestamp raw₂ (signedFieldsOf header) := by
  obtain ⟨raw₁, hraw₁, he₁, hdigest₁⟩ := selcomParseWebhook_ok hstrict h.accepted₁
  obtain ⟨raw₂, hraw₂, he₂, hdigest₂⟩ := selcomParseWebhook_ok hstrict h.accepted₂
  refine ⟨raw₁, raw₂, hraw₁, hraw₂, he₁, he₂, ?_⟩
  have hmessages : claimedMessage primitives r₁ raw₁ = claimedMessage primitives r₂ raw₂ := by
    apply hinj
    rw [← hdigest₁, ← hdigest₂, h.digests]
  unfold claimedMessage at hmessages
  rw [h.timestamps.1, h.timestamps.2, h.headers.1, h.headers.2] at hmessages
  exact hmessages

end

/-! ### Plain payloads -/

/-- A plain value is signed as it is read. -/
theorem signValue_plain (dumps : Json → String) {value : Json} (h : value.Plain) :
    signValue dumps value = value.textOrEmpty := by
  rcases h with rfl | ⟨text, rfl, -⟩
  · rfl
  · by_cases hempty : text = ""
    · rw [hempty]
      rfl
    · simp [signValue, Json.textOrEmpty, Json.truthy, Json.str, hempty]

theorem not_mem_signValue (dumps : Json → String) {value : Json} (h : value.Plain) :
    '&' ∉ (signValue dumps value).toList := by
  rcases h with rfl | ⟨text, rfl, htext⟩
  · simp [signValue]
  · exact htext

/-- Two values of plain fields that are signed alike are read alike, alone and in front of another. -/
theorem textOrNone_first {a b a' b' : Json} (ha : a.Plain) (hb : b.Plain) (ha' : a'.Plain) (hb' : b'.Plain)
    (hfirst : a.textOrEmpty = a'.textOrEmpty) (hsecond : b.textOrEmpty = b'.textOrEmpty) :
    (Json.firstTruthy [a, b]).textOrNone = (Json.firstTruthy [a', b']).textOrNone := by
  have hread : ∀ {x y : Json}, x.Plain → y.Plain → (Json.firstTruthy [x, y]).textOrNone =
      if x.textOrEmpty ≠ "" then .string x.textOrEmpty
      else if y.textOrEmpty ≠ "" then .string y.textOrEmpty else .null := by
    intro x y hx hy
    have htext : ∀ {z : Json}, z.Plain → z.textOrNone = if z.textOrEmpty ≠ "" then .string z.textOrEmpty else .null := by
      intro z hz
      rcases hz with rfl | ⟨text, rfl, -⟩
      · rfl
      · by_cases hempty : text = "" <;> simp [Json.textOrNone, Json.textOrEmpty, Json.truthy, Json.str, hempty]
    have htruthy : x.truthy = true ↔ x.textOrEmpty ≠ "" := by
      rcases hx with rfl | ⟨text, rfl, -⟩
      · simp [Json.truthy, Json.textOrEmpty]
      · by_cases hempty : text = "" <;> simp [Json.textOrEmpty, Json.truthy, Json.str, hempty]
    unfold Json.firstTruthy
    by_cases hx' : x.truthy = true
    · rw [if_pos hx', htext hx]
      rw [if_pos (htruthy.1 hx'), if_pos (htruthy.1 hx')]
    · rw [if_neg hx', if_neg fun h => hx' (htruthy.2 h)]
      exact htext hy
  rw [hread ha hb, hread ha' hb', hfirst, hsecond]

/-- The fields that decide whether a Selcom webhook confirms a payment, and whose. -/
def confirmingFields : List String := ["result", "resultcode", "payment_status", "order_id", "tenant_id"]

/-- Payloads whose confirming fields are plain and signed alike say the same of the same tenant. -/
theorem sameConfirmation_of_signed {dumps : Json → String} {raw₁ raw₂ : Dict}
    (h₁ : ∀ field ∈ confirmingFields, (raw₁.value field).Plain)
    (h₂ : ∀ field ∈ confirmingFields, (raw₂.value field).Plain)
    (h : ∀ field ∈ confirmingFields, signValue dumps (raw₁.value field) = signValue dumps (raw₂.value field)) :
    selcomEventType raw₁ = selcomEventType raw₂ ∧
      (raw₁.first ["order_id", "tenant_id"]).textOrNone = (raw₂.first ["order_id", "tenant_id"]).textOrNone := by
  have htext : ∀ field ∈ confirmingFields, (raw₁.value field).textOrEmpty = (raw₂.value field).textOrEmpty := by
    intro field hfield
    rw [← signValue_plain dumps (h₁ field hfield), ← signValue_plain dumps (h₂ field hfield), h field hfield]
  constructor
  · unfold selcomEventType
    dsimp only
    rw [htext "result" (by decide), htext "resultcode" (by decide), htext "payment_status" (by decide)]
  · exact textOrNone_first (h₁ _ (by decide)) (h₁ _ (by decide)) (h₂ _ (by decide)) (h₂ _ (by decide))
      (htext "order_id" (by decide)) (htext "tenant_id" (by decide))

/-- Payloads whose deciding fields are plain and signed alike decide alike. -/
theorem sameDecision_of_signed {dumps : Json → String} {raw₁ raw₂ : Dict}
    (h₁ : ∀ field ∈ decidingFields, (raw₁.value field).Plain) (h₂ : ∀ field ∈ decidingFields, (raw₂.value field).Plain)
    (h : ∀ field ∈ decidingFields, signValue dumps (raw₁.value field) = signValue dumps (raw₂.value field)) :
    SameDecision (selcomEvent raw₁) (selcomEvent raw₂) := by
  have hconfirming : confirmingFields ⊆ decidingFields := by decide
  have htext : ∀ field ∈ decidingFields, (raw₁.value field).textOrEmpty = (raw₂.value field).textOrEmpty := by
    intro field hfield
    rw [← signValue_plain dumps (h₁ field hfield), ← signValue_plain dumps (h₂ field hfield), h field hfield]
  obtain ⟨htype, htenant⟩ := sameConfirmation_of_signed (fun f hf => h₁ f (hconfirming hf))
    (fun f hf => h₂ f (hconfirming hf)) fun f hf => h f (hconfirming hf)
  unfold selcomEvent
  constructor
  · dsimp only
    exact htype
  · dsimp only
    exact htenant
  · dsimp only
    exact textOrNone_first (h₁ _ (by decide)) (h₁ _ (by decide)) (h₂ _ (by decide)) (h₂ _ (by decide))
      (htext "reference" (by decide)) (htext "transid" (by decide))

/-- From the message of a payload with plain signed fields every signed value can be read off. -/
theorem signValue_of_message {dumps : Json → String} {timestamp : String} {fields : List String} {raw₁ raw₂ : Dict}
    (h₁ : ∀ field ∈ fields, (raw₁.value field).Plain) (h₂ : ∀ field ∈ fields, (raw₂.value field).Plain)
    (h : signatureMessage dumps timestamp raw₁ fields = signatureMessage dumps timestamp raw₂ fields) :
    ∀ field ∈ fields, signValue dumps (raw₁.value field) = signValue dumps (raw₂.value field) := by
  have hjoined : Separated.join '&' (fields.map fun field => (field ++ "=").toList ++
      (signValue dumps (raw₁.value field)).toList) = Separated.join '&' (fields.map fun field => (field ++ "=").toList ++
        (signValue dumps (raw₂.value field)).toList) := by
    have hlists := congrArg String.toList h
    simp only [signatureMessage, ampersandJoin, String.toList_append, String.toList_ofList, List.map_map] at hlists
    have htail := List.append_cancel_left hlists
    simpa only [Function.comp_def, String.toList_append] using htail
  intro field hfield
  have hlists := Separated.join_inj (fun f hf => not_mem_signValue dumps (h₁ f hf))
    (fun f hf => not_mem_signValue dumps (h₂ f hf)) hjoined field hfield
  exact String.toList_inj.1 hlists

/-! ### Requests that are accepted -/

/-- A request with a JSON payload, signed for the fields of a header. -/
def signedRequest (primitives : SelcomPrimitives) (settings : GatewaySettings) (timestamp header : String)
    (raw : Dict) : WebhookRequest :=
  { headers := [("content-type", "application/json"), ("timestamp", timestamp), ("signed-fields", header),
      ("authorization", "SELCOM " ++ primitives.b64encode settings.selcomApiKey),
      ("digest", primitives.hmacDigest settings.selcomApiSecret
        (signatureMessage primitives.dumps timestamp raw (signedFieldsOf header)))]
    text := .ok ⟨false, .ok (.object "" raw), []⟩ }

section
variable {primitives : SelcomPrimitives} {settings : GatewaySettings} {timestamp header : String}

theorem decodePayload_signedRequest (raw : Dict) :
    decodePayload (signedRequest primitives settings timestamp header raw) = .ok raw := by
  have htype : Headers.first (signedRequest primitives settings timestamp header raw).headers
      ["content-type", "Content-Type"] = "application/json" := by
    simp [signedRequest, Headers.first, orText]
  have hjson : (signedRequest primitives settings timestamp header raw).isJson = true := by
    unfold WebhookRequest.isJson
    rw [htype]
    decide
  unfold decodePayload
  rw [bind_eq_ok]
  refine ⟨⟨false, .ok (.object "" raw), []⟩, rfl, ?_⟩
  rw [if_pos hjson]
  rfl

theorem signedRequest_accepted (hsound : primitives.Sound settings) (hstrict : settings.strictWebhookVerification = true)
    (hkey : settings.selcomApiKey ≠ "") (hsecret : settings.selcomApiSecret ≠ "") (htimestamp : timestamp ≠ "")
    (hfields : signedFieldsOf header ≠ []) (raw : Dict) :
    selcomParseWebhook primitives settings (signedRequest primitives settings timestamp header raw) =
        .ok (selcomEvent raw) ∧
      selcomTimestamp (signedRequest primitives settings timestamp header raw) = timestamp ∧
      selcomSignedFields (signedRequest primitives settings timestamp header raw) = header ∧
      selcomDigest (signedRequest primitives settings timestamp header raw) =
        primitives.hmacDigest settings.selcomApiSecret
          (signatureMessage primitives.dumps timestamp raw (signedFieldsOf header)) := by
  have hheader : header ≠ "" := by
    rintro rfl
    exact hfields (by decide)
  obtain ⟨hdigest, hdigestSpace⟩ := hsound.digest
    (signatureMessage primitives.dumps timestamp raw (signedFieldsOf header))
  obtain ⟨hencoded, hencodedSpace⟩ := hsound.key
  have htime : selcomTimestamp (signedRequest primitives settings timestamp header raw) = timestamp := by
    simp [selcomTimestamp, signedRequest, Headers.first, orText, htimestamp]
  have hsigned : selcomSignedFields (signedRequest primitives settings timestamp header raw) = header := by
    simp [selcomSignedFields, signedRequest, Headers.first, orText, hheader]
  have hcarried : selcomDigest (signedRequest primitives settings timestamp header raw) =
      primitives.hmacDigest settings.selcomApiSecret
        (signatureMessage primitives.dumps timestamp raw (signedFieldsOf header)) := by
    simp [selcomDigest, signedRequest, Headers.first, orText, hdigest]
  have hauth : selcomAuthorization (signedRequest primitives settings timestamp header raw) =
      "SELCOM " ++ primitives.b64encode settings.selcomApiKey := by
    simp [selcomAuthorization, signedRequest, Headers.first, orText]
  -- every check of the signature passes, and the fields that are signed are not empty
  have hverified : selcomVerifySignature primitives settings raw
      (signedRequest primitives settings timestamp header raw) = .ok () := by
    have hscheme : ∀ c ∈ ("SELCOM " : String).toList.head?, UnicodeText.isSpace c = false := by
      rintro c ⟨⟩
      decide
    unfold selcomVerifySignature
    rw [htime, hsigned, hcarried, hauth, if_neg (not_not.2 hstrict), if_neg (by simp [hkey, hsecret]),
      if_neg (by simp [htimestamp, hheader, hdigest]),
      if_neg (not_not.2 (strip_append hscheme (by decide) hencoded hencodedSpace)), if_neg hfields,
      if_neg (not_not.2 (strip_of_noSpace hdigestSpace))]
  refine ⟨?_, htime, hsigned, hcarried⟩
  unfold selcomParseWebhook
  rw [decodePayload_signedRequest]
  change (selcomVerifySignature primitives settings raw
    (signedRequest primitives settings timestamp header raw) >>= fun _ => .ok (selcomEvent raw)) = .ok (selcomEvent raw)
  rw [hverified]
  rfl

/-- Payloads with one signed message make requests that are signed alike. -/
theorem signedRequest_alike (hsound : primitives.Sound settings) (hstrict : settings.strictWebhookVerification = true)
    (hkey : settings.selcomApiKey ≠ "") (hsecret : settings.selcomApiSecret ≠ "") (htimestamp : timestamp ≠ "")
    (hfields : signedFieldsOf header ≠ []) (raw₁ raw₂ : Dict)
    (hmessage : signatureMessage primitives.dumps timestamp raw₁ (signedFieldsOf header) =
      signatureMessage primitives.dumps timestamp raw₂ (signedFieldsOf header)) :
    SignedAlike primitives settings timestamp header (signedRequest primitives settings timestamp header raw₁)
      (signedRequest primitives settings timestamp header raw₂) (selcomEvent raw₁) (selcomEvent raw₂) := by
  obtain ⟨hok₁, htime₁, hsigned₁, hdigest₁⟩ :=
    signedRequest_accepted hsound hstrict hkey hsecret htimestamp hfields raw₁
  obtain ⟨hok₂, htime₂, hsigned₂, hdigest₂⟩ :=
    signedRequest_accepted hsound hstrict hkey hsecret htimestamp hfields raw₂
  exact ⟨hok₁, hok₂, ⟨htime₁, htime₂⟩, ⟨hsigned₁, hsigned₂⟩, by rw [hdigest₁, hdigest₂, hmessage]⟩

/-- The message is made of the values of the signed fields. -/
theorem signatureMessage_congr {dumps : Json → String} {fields : List String} {raw₁ raw₂ : Dict}
    (h : ∀ field ∈ fields, signValue dumps (raw₁.value field) = signValue dumps (raw₂.value field)) :
    signatureMessage dumps timestamp raw₁ fields = signatureMessage dumps timestamp raw₂ fields := by
  unfold signatureMessage
  rw [List.map_congr_left fun field hfield => by rw [h field hfield]]

end

/-- A value of a deciding field that makes another event than the field's absence. -/
def tellingValue (field : String) : String :=
  if field = "result" ∨ field = "payment_status" then "FAILED" else "1"

theorem tellingValue_tells {field : String} (h : field ∈ decidingFields) :
    ¬SameDecision (selcomEvent []) (selcomEvent [(field, .string (tellingValue field))]) := by
  simp only [decidingFields, List.mem_cons, List.not_mem_nil, or_false] at h
  rcases h with rfl | rfl | rfl | rfl | rfl | rfl | rfl
  · exact fun h => absurd h.eventType (by decide)
  · exact fun h => absurd h.eventType (by decide)
  · exact fun h => absurd h.eventType (by decide)
  · exact fun h => by cases h.tenantId
  · exact fun h => by cases h.tenantId
  · exact fun h => by cases h.subscriptionId
  · exact fun h => by cases h.subscriptionId

/-- In strict mode with its credentials configured, the signature decides the event of plain payloads if the seven
deciding fields are signed, and only then; and whatever is signed, it does not decide the event of all payloads. -/
theorem signature_decides_iff (primitives : SelcomPrimitives) (settings : GatewaySettings)
    (hsound : primitives.Sound settings) (hstrict : settings.strictWebhookVerification = true)
    (hkey : settings.selcomApiKey ≠ "") (hsecret : settings.selcomApiSecret ≠ "") (timestamp header : String)
    (htimestamp : timestamp ≠ "") (hfields : signedFieldsOf header ≠ []) :
    ((∀ r₁ r₂ e₁ e₂, SignedAlike primitives settings timestamp header r₁ r₂ e₁ e₂ → r₁.PlainUnder header →
        r₂.PlainUnder header → SameDecision e₁ e₂) ↔ decidingFields ⊆ signedFieldsOf header) ∧
      ¬∀ r₁ r₂ e₁ e₂, SignedAlike primitives settings timestamp header r₁ r₂ e₁ e₂ → SameDecision e₁ e₂ := by
  refine ⟨⟨fun hdecides field hfield => ?_, fun hall => ?_⟩, fun hdecides => ?_⟩
  · by_contra hunsigned
    -- a field outside of the message is added to an empty payload
    have hsame : ∀ g ∈ signedFieldsOf header,
        Dict.value [(field, .string (tellingValue field))] g = Dict.value [] g := by
      intro g hg
      have hne : ¬field = g := by
        rintro rfl
        exact hunsigned hg
      simp [Dict.value, hne]
    have halike := signedRequest_alike hsound hstrict hkey hsecret htimestamp hfields
      [] [(field, .string (tellingValue field))]
      (signatureMessage_congr fun g hg => by rw [hsame g hg])
    refine tellingValue_tells hfield (hdecides _ _ _ _ halike ?_ ?_)
    · intro raw hraw g _
      rw [decodePayload_signedRequest] at hraw
      cases hraw
      exact Or.inl rfl
    · intro raw hraw g hg
      rw [decodePayload_signedRequest] at hraw
      cases hraw
      rw [hsame g hg]
      exact Or.inl rfl
  · intro r₁ r₂ e₁ e₂ halike hplain₁ hplain₂
    obtain ⟨raw₁, raw₂, hraw₁, hraw₂, rfl, rfl, hmessage⟩ := halike.message hstrict hsound.collisionFree
    have hsigned := signValue_of_message (hplain₁ raw₁ hraw₁) (hplain₂ raw₂ hraw₂) hmessage
    exact sameDecision_of_signed (fun f hf => hplain₁ raw₁ hraw₁ f (hall hf)) (fun f hf => hplain₂ raw₂ hraw₂ f (hall hf))
      fun f hf => hsigned f (hall hf)
  · -- a truth value is signed as the text `true` and read as the text `True`
    have halike := signedRequest_alike hsound hstrict hkey hsecret htimestamp hfields
      [("order_id", .bool true)] [("order_id", .string "true")] (signatureMessage_congr fun g _ => by
        by_cases hg : "order_id" = g
        · rw [← hg]
          rfl
        · simp [Dict.value, hg])
    have hdecision := hdecides _ _ _ _ halike
    have htenant := hdecision.tenantId
    have htexts : (Json.string "True") = Json.string "true" := htenant
    exact absurd (Json.string.inj htexts) (by decide)

namespace Small

/-- Digests that write every character of a message as a row of strokes. -/
def strokes (message : String) : String :=
  String.ofList ('d' :: message.toList.flatMap fun c => List.replicate c.toNat '|' ++ ['.'])

def selcom : SelcomPrimitives := ⟨fun _ message => strokes message, fun text => "b" ++ text, Json.str⟩

def selcomSettings : GatewaySettings := ⟨true, none, "key", "secret", "", "", ""⟩

private theorem strokes_injective : Function.Injective strokes := by
  have hrows : ∀ l l' : List Char, (l.flatMap fun c => List.replicate c.toNat '|' ++ ['.']) =
      (l'.flatMap fun c => List.replicate c.toNat '|' ++ ['.']) → l = l' := by
    intro l
    induction l with
    | nil =>
      intro l' h
      cases l' with
      | nil => rfl
      | cons c l' => simp at h
    | cons c l ih =>
      intro l' h
      cases l' with
      | nil => simp at h
      | cons c' l' =>
        simp only [List.flatMap_cons, List.append_assoc, List.singleton_append] at h
        obtain ⟨hrow, hrest⟩ := separated_inj (by simp [List.mem_replicate]) (by simp [List.mem_replicate]) h
        have hlength := congrArg List.length hrow
        simp only [List.length_replicate] at hlength
        rw [Char.toNat_inj.1 hlength, ih l' hrest]
  intro m m' h
  have hlists := congrArg String.toList h
  simp only [strokes, String.toList_ofList, List.cons.injEq, true_and] at hlists
  exact String.toList_inj.1 (hrows _ _ hlists)

theorem selcom_sound : selcom.Sound selcomSettings := by
  refine ⟨strokes_injective, fun message => ⟨?_, fun c hc => ?_⟩, by decide, noSpace_of_all (by decide)⟩
  · intro hempty
    have hlists := congrArg String.toList hempty
    simp [selcom, strokes] at hlists
  · simp only [selcom, strokes, String.toList_ofList, List.mem_cons, List.mem_flatMap, List.mem_append,
      List.mem_replicate, List.not_mem_nil, or_false] at hc
    rcases hc with rfl | ⟨_, _, ⟨-, rfl⟩ | rfl⟩ <;> decide

/-- A notification of a payment of the tenant's order. -/
def paidOrder (tenantId : String) : Dict :=
  [("result", .string "SUCCESS"), ("resultcode", .string "000"), ("payment_status", .string "COMPLETED"),
    ("order_id", .string tenantId), ("reference", .string "0281")]

end Small

theorem resultcode_signature_decides_iff :
    ((∀ r₁ r₂ e₁ e₂, SignedAlike Small.selcom Small.selcomSettings "2026-01-01T00:00:00+00:00" "resultcode" r₁ r₂ e₁ e₂ →
        r₁.PlainUnder "resultcode" → r₂.PlainUnder "resultcode" → SameDecision e₁ e₂) ↔
          decidingFields ⊆ signedFieldsOf "resultcode") ∧
      ¬∀ r₁ r₂ e₁ e₂, SignedAlike Small.selcom Small.selcomSettings "2026-01-01T00:00:00+00:00" "resultcode" r₁ r₂ e₁ e₂ →
        SameDecision e₁ e₂ :=
  signature_decides_iff Small.selcom Small.selcomSettings Small.selcom_sound rfl (by decide) (by decide)
    "2026-01-01T00:00:00+00:00" "resultcode" (by decide) (by decide)

/-- With the order not among the signed fields, one digest confirms a payment for either tenant. -/
theorem unsigned_order_decides_not :
    SignedAlike Small.selcom Small.selcomSettings "2026-01-01T00:00:00+00:00" "result,resultcode,payment_status,reference"
        (signedRequest Small.selcom Small.selcomSettings "2026-01-01T00:00:00+00:00"
          "result,resultcode,payment_status,reference" (Small.paidOrder "tenant-a"))
        (signedRequest Small.selcom Small.selcomSettings "2026-01-01T00:00:00+00:00"
          "result,resultcode,payment_status,reference" (Small.paidOrder "tenant-b"))
        (selcomEvent (Small.paidOrder "tenant-a")) (selcomEvent (Small.paidOrder "tenant-b")) ∧
      (selcomEvent (Small.paidOrder "tenant-a")).eventType = .paymentConfirmed ∧
      (selcomEvent (Small.paidOrder "tenant-a")).tenantId = .string "tenant-a" ∧
      (selcomEvent (Small.paidOrder "tenant-b")).tenantId = .string "tenant-b" := by
  refine ⟨signedRequest_alike Small.selcom_sound rfl (by decide) (by decide) (by decide) (by decide) _ _
    (signatureMessage_congr ?_), by decide, rfl, rfl⟩
  have hfields : signedFieldsOf "result,resultcode,payment_status,reference" =
      ["result", "resultcode", "payment_status", "reference"] := by decide
  rw [hfields]
  intro field hfield
  simp only [List.mem_cons, List.not_mem_nil, or_false] at hfield
  rcases hfield with rfl | rfl | rfl | rfl <;> rfl

end ControlPlane
