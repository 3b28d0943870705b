import ControlPlane.Base.Separated
import ControlPlane.Billing.WebhookService
import ControlPlane.System

/-!
# The keys of the outbox

A key joins four fields and a digest with colons.  Its first three fields hold no colon and its digest has a fixed
length, so the key can be taken apart again; but an absent field is rendered as a dash, and nothing bounds the whole.
-/

namespace ControlPlane

/-- The text of an optional field in a key. -/
def keyText (field : Option String) : String := (orText field none).getD "-"

/-- The fields that a key renders as a dash. -/
def dashed : List (Option String) := [none, some "", some "-"]

theorem keyText_some {text : String} (h : text ≠ "") : keyText (some text) = text := by
  simp [keyText, orText, h]

theorem keyText_eq_dash {field : Option String} (h : keyText field = "-") : field ∈ dashed := by
  cases field with
  | none => simp [dashed]
  | some text =>
    by_cases hempty : text = ""
    · simp [dashed, hempty]
    · rw [keyText_some hempty] at h
      simp [dashed, h]

theorem keyText_dashed {field : Option String} (h : field ∈ dashed) : keyText field = "-" := by
  simp only [dashed, List.mem_cons, List.not_mem_nil, or_false] at h
  rcases h with rfl | rfl | rfl
  · rfl
  · rfl
  · rfl

/-- Only what is rendered as a dash is rendered alike without being the same. -/
theorem keyText_inj {field field' : Option String} (h : keyText field = keyText field') :
    field = field' ∨ field ∈ dashed ∧ field' ∈ dashed := by
  by_cases hdash : keyText field = "-"
  · exact Or.inr ⟨keyText_eq_dash hdash, keyText_eq_dash (h ▸ hdash)⟩
  · left
    have hne : ∀ f : Option String, keyText f ≠ "-" → f = some (keyText f) := by
      intro f hf
      cases f with
      | none => exact absurd rfl hf
      | some text =>
        have hempty : text ≠ "" := by
          rintro rfl
          exact hf rfl
        rw [keyText_some hempty]
    rw [hne field hdash, hne field' (h ▸ hdash), h]

/-- The providers of the gateways. -/
def gatewayProviders : List String := ["azampay", "selcom", "stripe", "dpo"]

/-- The event types that the gateways produce. -/
def gatewayEventTypes : List WebhookEventType :=
  [.paymentConfirmed, .paymentFailed, .subscriptionCancelled, .other "ignored"]

/-- The text of a UUID: 36 hexadecimal digits and dashes. -/
def IsUuid (text : String) : Prop := text.length = 36 ∧ ∀ c ∈ text.toList, c ∈ "0123456789abcdef-".toList

theorem IsUuid.not_colon {text : String} (h : IsUuid text) : ':' ∉ text.toList := fun hm =>
  absurd (h.2 _ hm) (by decide)

theorem IsUuid.ne_empty {text : String} (h : IsUuid text) : text ≠ "" := by
  rintro rfl
  exact absurd h.1 (by decide)

theorem IsUuid.not_dashed {text : String} (h : IsUuid text) : some text ∉ dashed := by
  intro hm
  simp only [dashed, List.mem_cons, Option.some.injEq, List.not_mem_nil, or_false, reduceCtorEq, false_or] at hm
  rcases hm with rfl | rfl
  · exact absurd h.1 (by decide)
  · exact absurd h.1 (by decide)

/-- What the event of a delivery puts into its key in front of the digest. -/
def keyFields (settings : Settings) (provider : String) (event : WebhookEvent) : List String :=
  [provider, event.eventType.text, keyText (event.tenantId.map settings.idText), keyText event.subscriptionId]

/-- The characters of the fields of a key. -/
def keyFieldsLength (settings : Settings) (provider : String) (event : WebhookEvent) : Nat :=
  ((keyFields settings provider event).map String.length).sum

/-- The key fits its column. -/
def KeyStorable (settings : Settings) (provider : String) (event : WebhookEvent) : Prop :=
  fitsColumn 128 (some (buildOutboxDedupKey settings provider event)) = true

/-- Two events agree in all that their keys are made of, but for their subscriptions. -/
def SameButSubscription (settings : Settings) (dump : Json → String) (provider provider' : String)
    (event event' : WebhookEvent) : Prop :=
  provider = provider' ∧ event.eventType = event'.eventType ∧
    event.tenantId.map settings.idText = event'.tenantId.map settings.idText ∧ dump event.raw = dump event'.raw

theorem key_length (settings : Settings) (provider : String) (event : WebhookEvent) :
    (buildOutboxDedupKey settings provider event).length =
      keyFieldsLength settings provider event + 4 + (settings.payloadDigest event.raw).length := by
  have hcolon : ":".length = 1 := by decide
  simp only [buildOutboxDedupKey, outboxDedupKey, keyFieldsLength, keyFields, keyText, String.length_append, List.map,
    List.sum_cons, List.sum_nil, hcolon]
  omega

/-- A key as its first three fields, each with the colon that ends it, and the rest. -/
theorem key_toList (settings : Settings) (provider : String) (event : WebhookEvent) :
    (buildOutboxDedupKey settings provider event).toList =
      provider.toList ++ ':' :: (event.eventType.text.toList ++ ':' ::
        ((keyText (event.tenantId.map settings.idText)).toList ++ ':' ::
          ((keyText event.subscriptionId).toList ++ ':' :: (settings.payloadDigest event.raw).toList))) := by
  simp [buildOutboxDedupKey, outboxDedupKey, keyText]

theorem provider_not_colon {provider : String} (h : provider ∈ gatewayProviders) : ':' ∉ provider.toList := by
  simp only [gatewayProviders, List.mem_cons, List.not_mem_nil, or_false] at h
  rcases h with rfl | rfl | rfl | rfl
  · decide
  · decide
  · decide
  · decide

theorem eventType_not_colon {type : WebhookEventType} (h : type ∈ gatewayEventTypes) : ':' ∉ type.text.toList := by
  simp only [gatewayEventTypes, List.mem_cons, List.not_mem_nil, or_false] at h
  rcases h with rfl | rfl | rfl | rfl
  · decide
  · decide
  · decide
  · decide

theorem eventType_text_inj {type type' : WebhookEventType} (h : type ∈ gatewayEventTypes)
    (h' : type' ∈ gatewayEventTypes) (heq : type.text = type'.text) : type = type' := by
  simp only [gatewayEventTypes, List.mem_cons, List.not_mem_nil, or_false] at h h'
  revert heq
  rcases h with rfl | rfl | rfl | rfl
  all_goals rcases h' with rfl | rfl | rfl | rfl
  all_goals decide

theorem tenantText_not_colon {settings : Settings} {tenantId : Option Nat}
    (h : ∀ id ∈ tenantId, IsUuid (settings.idText id)) : ':' ∉ (keyText (tenantId.map settings.idText)).toList := by
  cases tenantId with
  | none => exact show ':' ∉ "-".toList by decide
  | some id =>
    have huuid := h id rfl
    rw [Option.map_some, keyText_some huuid.ne_empty]
    exact huuid.not_colon

theorem tenantText_inj {settings : Settings} {tenantId tenantId' : Option Nat}
    (h : ∀ id ∈ tenantId, IsUuid (settings.idText id)) (h' : ∀ id ∈ tenantId', IsUuid (settings.idText id))
    (heq : keyText (tenantId.map settings.idText) = keyText (tenantId'.map settings.idText)) :
    tenantId.map settings.idText = tenantId'.map settings.idText := by
  rcases keyText_inj heq with hsame | ⟨hdash, hdash'⟩
  · exact hsame
  · cases tenantId with
    | some id => exact absurd hdash (h id rfl).not_dashed
    | none =>
      cases tenantId' with
      | some id => exact absurd hdash' (h' id rfl).not_dashed
      | none => rfl

section Keys

variable {settings : Settings} {sha256 : String → String} {dump : Json → String} {provider provider' : String}
  {event event' : WebhookEvent} (hdigest : ∀ raw, settings.payloadDigest raw = sha256 (dump raw))
  (hlength : ∀ text, (sha256 text).length = 64)
  (hprovider : provider ∈ gatewayProviders) (hprovider' : provider' ∈ gatewayProviders)
  (htype : event.eventType ∈ gatewayEventTypes) (htype' : event'.eventType ∈ gatewayEventTypes)
  (htenant : ∀ id ∈ event.tenantId, IsUuid (settings.idText id))
  (htenant' : ∀ id ∈ event'.tenantId, IsUuid (settings.idText id))

include hdigest hlength

/-- The digest and the four colons leave 60 of the column's characters to the fields. -/
theorem keyStorable_iff : KeyStorable settings provider event ↔ keyFieldsLength settings provider event ≤ 60 := by
  have hdigestLength : (settings.payloadDigest event.raw).length = 64 := by
    rw [hdigest]
    exact hlength _
  have hkey := key_length settings provider event
  unfold KeyStorable fitsColumn
  simp only [Option.all_some, decide_eq_true_eq]
  omega

include hprovider hprovider' htype htype' htenant htenant'

/-- Equal keys are made of equal fields, as they are rendered. -/
theorem key_fields_eq
    (hfree : sha256 (dump event.raw) = sha256 (dump event'.raw) → dump event.raw = dump event'.raw)
    (hkey : buildOutboxDedupKey settings provider event = buildOutboxDedupKey settings provider' event') :
    SameButSubscription settings dump provider provider' event event' ∧
      keyText event.subscriptionId = keyText event'.subscriptionId := by
  have hlist := congrArg String.toList hkey
  rw [key_toList, key_toList] at hlist
  obtain ⟨hp, hrest⟩ := separated_inj (provider_not_colon hprovider) (provider_not_colon hprovider') hlist
  obtain ⟨ht, hrest⟩ := separated_inj (eventType_not_colon htype) (eventType_not_colon htype') hrest
  obtain ⟨hid, hrest⟩ := separated_inj (tenantText_not_colon htenant) (tenantText_not_colon htenant') hrest
  -- The subscription may hold colons, but the digest behind it has a fixed length.
  have hdigests : (settings.payloadDigest event.raw).length = (settings.payloadDigest event'.raw).length := by
    rw [hdigest, hdigest, hlength, hlength]
  obtain ⟨hsub, hend⟩ := List.append_inj' hrest
    (by rw [List.length_cons, List.length_cons, String.length_toList, String.length_toList, hdigests])
  have hsha : sha256 (dump event.raw) = sha256 (dump event'.raw) := by
    rw [← hdigest, ← hdigest]
    exact String.toList_injective (List.cons.inj hend).2
  have htypes := eventType_text_inj htype htype' (String.toList_injective ht)
  have htenants := tenantText_inj htenant htenant' (String.toList_injective hid)
  exact ⟨⟨String.toList_injective hp, htypes, htenants, hfree hsha⟩, String.toList_injective hsub⟩

/-- The keys of two events fit the column and tell the events apart if and only if their fields are short enough and
the events do not differ in a subscription alone that is rendered as a dash for both. -/
theorem dedup_keys_iff
    (hfree : sha256 (dump event.raw) = sha256 (dump event'.raw) → dump event.raw = dump event'.raw) :
    (KeyStorable settings provider event ∧ KeyStorable settings provider' event' ∧
      (buildOutboxDedupKey settings provider event = buildOutboxDedupKey settings provider' event' →
        SameButSubscription settings dump provider provider' event event' ∧
          event.subscriptionId = event'.subscriptionId)) ↔
      (keyFieldsLength settings provider event ≤ 60 ∧ keyFieldsLength settings provider' event' ≤ 60 ∧
        ¬(SameButSubscription settings dump provider provider' event event' ∧
          event.subscriptionId ≠ event'.subscriptionId ∧ event.subscriptionId ∈ dashed ∧
          event'.subscriptionId ∈ dashed)) := by
  rw [keyStorable_iff hdigest hlength, keyStorable_iff hdigest hlength]
  constructor
  · rintro ⟨hfits, hfits', hinj⟩
    refine ⟨hfits, hfits', ?_⟩
    rintro ⟨hsame, hne, hdash, hdash'⟩
    obtain ⟨hp, ht, hid, hdump⟩ := hsame
    have hkey : buildOutboxDedupKey settings provider event = buildOutboxDedupKey settings provider' event' := by
      have hsub : keyText event.subscriptionId = keyText event'.subscriptionId := by
        rw [keyText_dashed hdash, keyText_dashed hdash']
      have hend : settings.payloadDigest event.raw = settings.payloadDigest event'.raw := by
        rw [hdigest, hdigest, hdump]
      apply String.toList_injective
      rw [key_toList, key_toList, hp, ht, hid, hsub, hend]
    exact hne (hinj hkey).2
  · rintro ⟨hfits, hfits', hdiffer⟩
    refine ⟨hfits, hfits', fun hkey => ?_⟩
    obtain ⟨hsame, hsub⟩ := key_fields_eq hdigest hlength hprovider hprovider' htype htype' htenant htenant' hfree hkey
    refine ⟨hsame, ?_⟩
    rcases keyText_inj hsub with heq | ⟨hdash, hdash'⟩
    · exact heq
    · by_contra hne
      exact hdiffer ⟨hsame, hne, hdash, hdash'⟩

end Keys

namespace Small

/-- The canonical dump of a payload of which all but the state is fixed. -/
def payloadDump (raw : Json) : String := "\x7b\"provider\":\"azampay\",\"status\":\"" ++ (raw.get "status").str ++ "\"\x7d"

/-- The digests of the two payloads, and 64 characters for any other. -/
def payloadSha256 (text : String) : String :=
  if text = payloadDump (.object "" [("status", .string "failed")]) then
    "2b4d2c965347585a30891bd8f9f73494056c5c2dfe0935c12983bcbfb75b86da"
  else "759849e37f75c497efb7706456d43af205d1ba8d475cedffa693f70b9cb3b24a"

/-- The text of an id. -/
def uuid : String := "0b0e7a52-5c1f-4a53-9d53-2c8e2f0f6a11"

def keySettings : Settings :=
  { Small.env.settings with
    payloadDigest := fun raw => payloadSha256 (payloadDump raw)
    idText := fun _ => uuid }

set_option maxRecDepth 100000 in
theorem isUuid_uuid : IsUuid uuid := by
  have hall : uuid.toList.all (fun c => c ∈ "0123456789abcdef-".toList) = true := by decide
  exact ⟨by decide, fun c hc => of_decide_eq_true (List.all_eq_true.1 hall c hc)⟩

/-- A payload of AzamPay without a transaction, in a state, for a tenant or for none. -/
def azampayEvent (type : WebhookEventType) (tenantId : Option Nat) (status : String) : WebhookEvent :=
  ⟨type, tenantId, none, none, .object "" [("provider", .string "azampay"), ("status", .string status)]⟩

end Small

example : outboxDedupKey "azampay" "payment.failed" none (some "7") "" = "azampay:payment.failed:-:7:" := by decide +kernel

set_option maxRecDepth 100000 in
/-- The key of a tenant's confirmed payment is longer than its column, even without a transaction. -/
theorem azampay_key_too_long :
    ¬KeyStorable Small.keySettings "azampay" (Small.azampayEvent .paymentConfirmed (some 1) "success") ∧
      (buildOutboxDedupKey Small.keySettings "azampay"
        (Small.azampayEvent .paymentConfirmed (some 1) "success")).length = 129 := by
  unfold KeyStorable
  decide +kernel

set_option maxRecDepth 100000 in
theorem dedup_keys_iff_small :
    KeyStorable Small.keySettings "azampay" (Small.azampayEvent .paymentFailed (some 1) "failed") ∧
      KeyStorable Small.keySettings "azampay" (Small.azampayEvent .paymentConfirmed none "success") :=
  have h := (@dedup_keys_iff Small.keySettings Small.payloadSha256 Small.payloadDump "azampay" "azampay"
    (Small.azampayEvent .paymentFailed (some 1) "failed") (Small.azampayEvent .paymentConfirmed none "success")
    (fun _ => rfl) (fun text => by unfold Small.payloadSha256; split <;> decide) (by decide) (by decide) (by decide)
    (by decide) (fun _ _ => Small.isUuid_uuid) (fun _ _ => Small.isUuid_uuid)
    (fun h => absurd h (by decide +kernel))).2
      ⟨by decide +kernel, by decide +kernel, fun h => absurd h.1.2.1 (by decide)⟩
  ⟨h.1, h.2.1⟩

end ControlPlane
