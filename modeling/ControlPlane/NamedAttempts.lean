import ControlPlane.Entitlement
import ControlPlane.LateFailures

/-!
# The attempt a webhook names

An event about a payment carries references, and the attempt it is about is the latest one of its provider and tenant
that has one of them.  Where there is none, the handlers take the tenant's latest active attempt, or else its latest,
whatever reference that has: the event then changes a checkout it does not name.
-/

namespace ControlPlane

open Table

/-- The attempts of an event's provider and tenant that have one of its references. -/
def namedAttempts (provider : String) (event : WebhookEvent) (db : Db) : List PaymentAttempt :=
  (attemptsFor db provider event.tenantId).filter fun a =>
    ∃ reference ∈ providerReferenceCandidates event.raw event.subscriptionId, a.providerReference = some reference

/-- The attempt that stands in where an event names none. -/
def fallbackAttempt (provider : String) (event : WebhookEvent) (db : Db) : Option PaymentAttempt :=
  event.tenantId.bind fun id => latestPaymentAttemptForTenant db id provider

/-- An attempt as an event leaves it. -/
def eventMark (provider : String) (event : WebhookEvent) (now : Time) (attempt : PaymentAttempt) : PaymentAttempt :=
  if event.eventType = .paymentConfirmed then paidAttempt attempt provider now
  else failedAttempt attempt provider event.raw now

/-- An event changes the attempt it names only: if it names some, then one of them and no other; and if it carries
references that no attempt has, then none that has another reference. -/
structure ChangesNamedOnly (provider : String) (event : WebhookEvent) (now : Time) (db db' : Db) : Prop where
  named : namedAttempts provider event db ≠ [] →
    ∃ attempt ∈ namedAttempts provider event db, db'.attempts = put db.attempts (eventMark provider event now attempt)
  unnamed : providerReferenceCandidates event.raw event.subscriptionId ≠ [] → namedAttempts provider event db = [] →
    ∀ attempt ∈ db.attempts, ∀ reference ∈ attempt.providerReference, reference ≠ "" →
      reference ∉ providerReferenceCandidates event.raw event.subscriptionId → attempt ∈ db'.attempts

theorem eventAttempt_eq (provider : String) (event : WebhookEvent) (db : Db) :
    eventAttempt provider event db =
      (latestPaymentAttempt (namedAttempts provider event db)).or (fallbackAttempt provider event db) := rfl

theorem eventMark_id (provider : String) (event : WebhookEvent) (now : Time) (attempt : PaymentAttempt) :
    (eventMark provider event now attempt).id = attempt.id := by
  unfold eventMark
  split <;> rfl

theorem mem_attemptsFor_of_fallback {provider : String} {event : WebhookEvent} {db : Db} {attempt : PaymentAttempt}
    (h : fallbackAttempt provider event db = some attempt) : attempt ∈ attemptsFor db provider event.tenantId := by
  obtain ⟨id, hid, h⟩ := Option.bind_eq_some_iff.1 h
  rw [hid]
  unfold latestPaymentAttemptForTenant at h
  rcases Option.or_eq_some_iff.1 h with h | ⟨-, h⟩
  · exact (List.mem_filter.1 (mem_of_latestBy h)).1
  · exact mem_of_latestBy h

/-- A failed payment of no attempt leaves the attempts. -/
theorem eventBody_failed_none {provider : String} {event : WebhookEvent} {now : Time} {client : PlatformErpClient}
    {db db' : Db} {handled : Handled} (htype : event.eventType = .paymentFailed)
    (h : eventBody provider event now client db = .ok (handled, db'))
    (hattempt : eventAttempt provider event db = none) : db'.attempts = db.attempts := by
  unfold eventBody at h
  rw [htype] at h
  rcases failPayment_ok h with ⟨m, -, rfl, -⟩ | ⟨_, _, paying, failed, s, pastDue, ensured, -, hf⟩
  · rfl
  · obtain ⟨plans, subscriptions, hensured⟩ := hf.ensured_eq
    unfold eventAttempt at hattempt
    rw [hf.rows, hattempt, hensured]
    rfl

/-- What a payment event does to the attempts: it marks the one it is about. -/
theorem eventBody_attempts {provider : String} {event : WebhookEvent} {now : Time} {client : PlatformErpClient}
    {db db' : Db} {tenantId : Nat} {email : Option String}
    (htype : event.eventType ∈ [WebhookEventType.paymentConfirmed, .paymentFailed])
    (h : eventBody provider event now client db = .ok (.changed tenantId email, db')) :
    db'.attempts = ((eventAttempt provider event db).map fun attempt =>
      put db.attempts (eventMark provider event now attempt)).getD db.attempts := by
  rw [List.mem_cons, List.mem_singleton] at htype
  cases hattempt : eventAttempt provider event db with
  | none =>
    rcases htype with htype | htype
    · exact eventBody_confirmed_none htype h hattempt
    · exact eventBody_failed_none htype h hattempt
  | some attempt =>
    dsimp only [Option.map_some, Option.getD_some]
    unfold eventMark
    rcases htype with htype | htype
    · rw [if_pos htype]
      exact (eventBody_confirmed htype h hattempt).1
    · rw [if_neg (by rw [htype]; decide)]
      exact eventBody_failed htype h hattempt

/-- A row whose key is written stays only if it is what is written. -/
theorem mem_put_key_iff {rows : List PaymentAttempt} {r a : PaymentAttempt} (ha : a ∈ rows) (hkey : a.id = r.id) :
    a ∈ put rows r ↔ a = r := by
  unfold put
  rw [List.mem_map]
  constructor
  · rintro ⟨b, -, hb⟩
    split at hb
    · exact hb.symm
    · rename_i hne
      subst hb
      exact absurd hkey hne
  · rintro rfl
    exact ⟨a, ha, if_pos rfl⟩

/-- Any other row stays. -/
theorem mem_put_of_ne {rows : List PaymentAttempt} {r a : PaymentAttempt} (ha : a ∈ rows) (hkey : a.id ≠ r.id) :
    a ∈ put rows r := List.mem_map.2 ⟨a, ha, if_neg hkey⟩

/-- A payment event that is handled changes the attempt it names only, exactly if, where it carries references that no
attempt has, the tenant's latest active attempt, or else its latest, has no reference or already is as the event leaves
it. -/
theorem changes_named_only_iff {provider : String} {event : WebhookEvent} {now : Time} {client : PlatformErpClient}
    {db db' : Db} {tenantId : Nat} {email : Option String} (hids : (db.attempts.map PaymentAttempt.id).Nodup)
    (htype : event.eventType ∈ [WebhookEventType.paymentConfirmed, .paymentFailed])
    (h : eventBody provider event now client db = .ok (.changed tenantId email, db')) :
    ChangesNamedOnly provider event now db db' ↔
      (providerReferenceCandidates event.raw event.subscriptionId ≠ [] → namedAttempts provider event db = [] →
        ∀ attempt ∈ fallbackAttempt provider event db,
          (∀ reference ∈ attempt.providerReference, reference = "") ∨
            eventMark provider event now attempt = attempt) := by
  have hattempts := eventBody_attempts htype h
  rw [eventAttempt_eq] at hattempts
  by_cases hnamed : namedAttempts provider event db = []
  · rw [hnamed, show latestPaymentAttempt [] = none from rfl, Option.none_or] at hattempts
    by_cases hreferences : providerReferenceCandidates event.raw event.subscriptionId = []
    · exact iff_of_true ⟨fun h => absurd hnamed h, fun h => absurd hreferences h⟩ fun h => absurd hreferences h
    cases hfallback : fallbackAttempt provider event db with
    | none =>
      rw [hfallback] at hattempts
      refine iff_of_true ⟨fun h => absurd hnamed h, fun _ _ attempt hmem _ _ _ _ => ?_⟩ fun _ _ attempt hmem => by cases hmem
      rw [hattempts]
      exact hmem
    | some fallback =>
      rw [hfallback, Option.map_some, Option.getD_some] at hattempts
      have hfor := mem_attemptsFor_of_fallback hfallback
      have hmem : fallback ∈ db.attempts := (List.mem_filter.1 hfor).1
      -- the row that stands in is kept only if the event writes it as it is
      have hkept : fallback ∈ db'.attempts ↔ eventMark provider event now fallback = fallback := by
        rw [hattempts, mem_put_key_iff hmem (eventMark_id provider event now fallback).symm]
        exact eq_comm
      constructor
      · intro hall _ _ attempt hattempt
        obtain rfl : fallback = attempt := Option.some.inj hattempt
        refine or_iff_not_imp_left.2 fun hreference => hkept.1 ?_
        push Not at hreference
        obtain ⟨reference, hset, hnonempty⟩ := hreference
        refine hall.unnamed hreferences hnamed fallback hmem reference hset hnonempty fun hcandidate => ?_
        have : fallback ∈ namedAttempts provider event db :=
          List.mem_filter.2 ⟨hfor, decide_eq_true ⟨reference, hcandidate, hset⟩⟩
        rw [hnamed] at this
        cases this
      · intro hharmless
        refine ⟨fun h => absurd hnamed h, fun _ _ attempt hattempt reference hset hnonempty _ => ?_⟩
        by_cases hid : attempt.id = fallback.id
        · obtain rfl : attempt = fallback := List.inj_on_of_nodup_map hids hattempt hmem hid
          exact hkept.2 ((hharmless hreferences hnamed attempt rfl).resolve_left fun hnone =>
            hnonempty (hnone reference hset))
        · rw [hattempts]
          exact mem_put_of_ne hattempt (by rw [eventMark_id]; exact hid)
  · obtain ⟨attempt, hlatest⟩ := Option.ne_none_iff_exists'.1 fun h => hnamed (latestBy_eq_none.1 h)
    refine iff_of_true ⟨fun _ => ⟨attempt, mem_of_latestBy hlatest, ?_⟩, fun _ h => absurd h hnamed⟩
      fun _ h => absurd h hnamed
    rw [hattempts]
    unfold latestPaymentAttempt
    rw [hlatest]
    rfl

/-- A ledger with an open checkout `cs_1` of the invoice, whose tenant has an owner. -/
def Small.openCheckout : Db :=
  { Small.ledger .pending [Small.invoice] [Small.tried .checkoutStarted] with
    users := [⟨1, "owner@example.com", false, true⟩] }

/-- An event about a checkout of the tenant. -/
def Small.eventOf (eventType : WebhookEventType) (reference : String) : WebhookEvent :=
  ⟨eventType, some 1, some reference, none, .object "evt" []⟩

/-- The confirmation of the checkout changes that checkout. -/
theorem open_checkout_confirmed :
    ∃ db', eventBody "stripe" (Small.eventOf .paymentConfirmed "cs_1") 2000 Small.erp Small.openCheckout =
        .ok (.changed 1 (some "owner@example.com"), db') ∧
      ChangesNamedOnly "stripe" (Small.eventOf .paymentConfirmed "cs_1") 2000 Small.openCheckout db' :=
  ⟨_, rfl, (@changes_named_only_iff "stripe" _ 2000 Small.erp Small.openCheckout _ 1 _ (by decide) (by decide) rfl).2
    fun _ h => absurd h (by decide)⟩

/-- The failure of a checkout that the tenant has not made fails the one it has. -/
theorem strange_failure_fails_checkout :
    ∃ db', eventBody "stripe" (Small.eventOf .paymentFailed "cs_9") 2000 Small.erp Small.openCheckout =
        .ok (.changed 1 (some "owner@example.com"), db') ∧
      providerReferenceCandidates (.object "evt" []) (some "cs_9") = ["cs_9"] ∧
      Small.openCheckout.attempts.map PaymentAttempt.providerReference = [some "cs_1"] ∧
      db'.attempts.map PaymentAttempt.status = [.failed] ∧
      ¬ChangesNamedOnly "stripe" (Small.eventOf .paymentFailed "cs_9") 2000 Small.openCheckout db' := by
  refine ⟨_, rfl, rfl, rfl, rfl, fun h => ?_⟩
  have hkept := h.unnamed (by decide) (by decide) (Small.tried .checkoutStarted) (by decide) "cs_1" rfl (by decide)
    (by decide)
  revert hkept
  decide

end ControlPlane
