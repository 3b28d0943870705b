import ControlPlane.Billing.Payment.Gateways

/-!
# Payments AzamPay misreads

The AzamPay gateway looks for words in a status text, and for the words of a success first.  A failure that is told with
such a word, as `unsuccessful` and `unpaid` are, is a confirmed payment to it, and so is one that an explicit field or
another word of the text denies.
-/

namespace ControlPlane

/-- The status text that the gateway reads of a payload. -/
def azampayStatusText (raw : Dict) : String :=
  lower (raw.first ["status", "transactionStatus", "transactionstatus", "message"]).textOrEmpty

/-- The words that mean a success. -/
def azampaySuccessTokens : List String := ["success", "complete", "approved", "paid"]

/-- The words that mean a failure. -/
def azampayFailureTokens : List String := ["fail", "cancel", "declin", "expired"]

/-- The values of the field `success` that mean one. -/
def azampayTruths : List String := ["true", "1", "yes"]

/-- The field `success` is there and says that there is none. -/
def Dict.deniesSuccess (raw : Dict) : Prop :=
  ∃ field ∈ raw.find? fun f => f.1 = "success", lower field.2.str ∉ azampayTruths

/-- The field `success` says that there is one. -/
def Dict.claimsSuccess (raw : Dict) : Prop :=
  raw.value "success" ≠ .null ∧ lower (raw.value "success").str ∈ azampayTruths

/-- A status text tells a failure: by a word for one. -/
def tellsFailure (text : String) : Prop := ∃ token ∈ azampayFailureTokens, textContains text token = true

/-- A status text tells a success, whatever else it tells. -/
def tellsSuccess (text : String) : Prop := ∃ token ∈ azampaySuccessTokens, textContains text token = true

/-- A status text negates a word for a success, by one of the given prefixes. -/
def negatesSuccess (negations : List String) (text : String) : Prop :=
  ∃ negation ∈ negations, ∃ token ∈ azampaySuccessTokens, textContains text (negation ++ token) = true

theorem textContains_of_append {text negation token : String} (h : textContains text (negation ++ token) = true) :
    textContains text token = true := by
  unfold textContains at h ⊢
  rw [decide_eq_true_eq, String.toList_append] at h
  rw [decide_eq_true_eq]
  exact (List.suffix_append _ _).isInfix.trans h

/-- A text that negates a success tells one. -/
theorem tellsSuccess_of_negates {negations : List String} {text : String} (h : negatesSuccess negations text) :
    tellsSuccess text := by
  obtain ⟨negation, -, token, htoken, hcontains⟩ := h
  exact ⟨token, htoken, textContains_of_append hcontains⟩

theorem Dict.not_claims_of_denies {raw : Dict} (h : raw.deniesSuccess) : ¬raw.claimsSuccess := by
  obtain ⟨field, hfield, hdenied⟩ := h
  rintro ⟨-, hclaimed⟩
  unfold Dict.value at hclaimed
  rw [Option.mem_def.1 hfield] at hclaimed
  exact hdenied hclaimed

theorem confirmed_of_success_iff (success : Bool) (text : String) :
    (if success || azampaySuccessTokens.any (textContains text) then WebhookEventType.paymentConfirmed
      else if azampayFailureTokens.any (textContains text) then .paymentFailed
      else .other "ignored") = .paymentConfirmed ↔ success = true ∨ tellsSuccess text := by
  have htoken : azampaySuccessTokens.any (textContains text) = true ↔ tellsSuccess text := List.any_eq_true
  rw [← htoken, ← Bool.or_eq_true]
  constructor
  · intro h
    split_ifs at h with hyes hfailed
    exact hyes
  · intro h
    exact if_pos h

/-- The gateway takes a payload for a confirmed payment by its field `success` or by its status text. -/
theorem azampayEventType_confirmed_iff (raw : Dict) :
    azampayEventType raw = .paymentConfirmed ↔ raw.claimsSuccess ∨ tellsSuccess (azampayStatusText raw) := by
  refine (confirmed_of_success_iff _ (azampayStatusText raw)).trans (or_congr_left ?_)
  unfold Dict.claimsSuccess azampayTruths
  cases raw.value "success" <;> simp

/-- A payload that tells a failure is not taken for a confirmed payment exactly when nothing else in it tells a success:
where its field denies the success its status text does not tell one, where the text tells a failure neither does, and
no word for a success is negated. -/
theorem azampay_failure_unconfirmed_iff (negations : List String) (request : WebhookRequest) (raw : Dict)
    (event : ParsedWebhook) (hraw : decodePayload request = .ok raw) (hevent : azampayParseWebhook request = .ok event) :
    (raw.deniesSuccess ∨ tellsFailure (azampayStatusText raw) ∨ negatesSuccess negations (azampayStatusText raw) →
        event.eventType ≠ .paymentConfirmed) ↔
      (raw.deniesSuccess → ¬tellsSuccess (azampayStatusText raw)) ∧
        (tellsFailure (azampayStatusText raw) → ¬raw.claimsSuccess ∧ ¬tellsSuccess (azampayStatusText raw)) ∧
        ¬negatesSuccess negations (azampayStatusText raw) := by
  have htype : event.eventType = azampayEventType raw := by
    unfold azampayParseWebhook at hevent
    rw [hraw] at hevent
    cases hevent
    rfl
  rw [htype, ne_eq, azampayEventType_confirmed_iff, not_or]
  constructor
  · intro h
    exact ⟨fun hdenies => (h (Or.inl hdenies)).2, fun hfails => h (Or.inr (Or.inl hfails)), fun hnegates =>
      (h (Or.inr (Or.inr hnegates))).2 (tellsSuccess_of_negates hnegates)⟩
  · rintro ⟨hdenies, hfails, hnegates⟩ (h | h | h)
    · exact ⟨Dict.not_claims_of_denies h, hdenies h⟩
    · exact hfails h
    · exact absurd h hnegates

/-- A callback with a JSON payload. -/
def Small.callback (fields : Dict) : WebhookRequest :=
  ⟨[("content-type", "application/json")], .ok ⟨false, .ok (.object "callback" fields), []⟩⟩

/-- The texts of the examples that negate a success. -/
def Small.negations : List String := ["un", "in", "dis", "not "]

def Small.failedCallback : Dict := [("status", .string "Failed"), ("success", .bool false)]

set_option maxRecDepth 100000 in
/-- A callback that says no more than that the payment failed does not confirm it. -/
theorem failed_callback_unconfirmed :
    ∃ event, azampayParseWebhook (Small.callback Small.failedCallback) = .ok event ∧
      event.eventType ≠ .paymentConfirmed :=
  have htext : ¬tellsSuccess (azampayStatusText Small.failedCallback) := by
    unfold tellsSuccess
    decide
  have hdenied : Small.failedCallback.deniesSuccess := ⟨("success", .bool false), rfl, by decide⟩
  ⟨_, rfl, (azampay_failure_unconfirmed_iff Small.negations (Small.callback Small.failedCallback) Small.failedCallback _
    rfl rfl).2 ⟨fun _ => htext, fun _ => ⟨Dict.not_claims_of_denies hdenied, htext⟩,
      fun h => htext (tellsSuccess_of_negates h)⟩ (Or.inl hdenied)⟩

/-- A callback that says that the payment was unsuccessful. -/
def Small.unsuccessfulCallback : Dict := [("status", .string "Unsuccessful"), ("success", .bool false)]

set_option maxRecDepth 100000 in
/-- It confirms the payment. -/
theorem unsuccessful_callback_confirms :
    (azampayParseWebhook (Small.callback Small.unsuccessfulCallback)).map ParsedWebhook.eventType =
        .ok .paymentConfirmed ∧
      Small.unsuccessfulCallback.deniesSuccess ∧
      negatesSuccess Small.negations (azampayStatusText Small.unsuccessfulCallback) :=
  ⟨rfl, ⟨("success", .bool false), rfl, by decide⟩,
    ⟨"un", by decide, "success", by decide, by decide⟩⟩

end ControlPlane
