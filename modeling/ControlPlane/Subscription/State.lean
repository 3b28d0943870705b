import ControlPlane.Basic

/-!
# Subscription statuses, their checked transitions and the trial lifecycle

`Subscription.status` is checked on every assignment (`validateSubscriptionStatusTransition`), so the table
`ALLOWED_SUBSCRIPTION_TRANSITIONS` bounds every writer.  `resolveTrialSubscriptionStatus` says which status a billing
event asks for; it does not ask the table.
-/

namespace ControlPlane

inductive SubscriptionStatus where
  | pending | trialing | active | pastDue | paused | cancelled
  deriving DecidableEq, Repr

namespace SubscriptionStatus

def text : SubscriptionStatus → String
  | pending => "pending"
  | trialing => "trialing"
  | active => "active"
  | pastDue => "past_due"
  | paused => "paused"
  | cancelled => "cancelled"

end SubscriptionStatus

open SubscriptionStatus in
/-- The table `ALLOWED_SUBSCRIPTION_TRANSITIONS`. -/
def allowedSubscriptionTransitions : SubscriptionStatus → List SubscriptionStatus
  | pending => [trialing, active, pastDue, cancelled]
  | trialing => [active, pastDue, cancelled]
  | active => [pastDue, cancelled, paused]
  | pastDue => [active, cancelled]
  | paused => [active, cancelled]
  | cancelled => []

/-- The check made when `Subscription.status` is assigned; a new row has no current status. -/
def validateSubscriptionStatusTransition (current : Option SubscriptionStatus) (new : SubscriptionStatus) :
    Except PyError Unit :=
  match current with
  | none => .ok ()
  | some current =>
    if current = new then
      .ok ()
    else if new ∈ allowedSubscriptionTransitions current then
      .ok ()
    else
      .error (.invalidSubscriptionStatusTransition current.text new.text)

/-- The events of `TRIAL_LIFECYCLE_EVENTS`. -/
inductive TrialLifecycleEvent where
  | trialStarted | trialExpired | paymentConfirmed | paymentFailed | subscriptionCancelled
  deriving DecidableEq, Repr

def isTrialExpired (trialEndsAt : Option Time) (now : Time) : Bool :=
  match trialEndsAt with
  | none => false
  | some ends => ends ≤ now

/-- The status an event asks for. -/
def resolveTrialSubscriptionStatus (current : SubscriptionStatus) (event : TrialLifecycleEvent)
    (trialEndsAt : Option Time) (now : Time) : SubscriptionStatus :=
  match event with
  | .trialStarted => .trialing
  | .paymentConfirmed => .active
  | .paymentFailed => .pastDue
  | .subscriptionCancelled => .cancelled
  | .trialExpired => if current = .trialing ∧ isTrialExpired trialEndsAt now then .pastDue else current

theorem validateSubscriptionStatusTransition_eq_ok {current new : SubscriptionStatus} :
    validateSubscriptionStatusTransition (some current) new = .ok () ↔
      current = new ∨ new ∈ allowedSubscriptionTransitions current := by
  unfold validateSubscriptionStatusTransition
  by_cases h : current = new
  · simp [h]
  · by_cases hm : new ∈ allowedSubscriptionTransitions current <;> simp [h, hm]

end ControlPlane
