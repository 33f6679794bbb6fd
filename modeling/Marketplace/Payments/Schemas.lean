import Marketplace.Payments.Model

/-!
# Payments: request bodies and what Stripe sends
-/

namespace Marketplace
namespace Payments

open Base

structure PaymentCreate where
  orderId : UUID

structure RefundCreate where
  amount : Option ℚ
  reason : Option String
  amount_valid : ∀ a ∈ amount, 0 < a
  reason_valid : ∀ r ∈ reason, r.length ≤ 120

/-- An `Idempotency-Key` header, stripped. -/
structure PaymentKey where
  text : String
  length_valid : 8 ≤ text.length ∧ text.length ≤ 100

structure RefundResponse where
  id : UUID
  paymentId : UUID
  providerRefundId : Option String
  amount : ℚ
  reason : Option String
  status : RefundStatus

/-- A refund as it is read back from its row. -/
def Refund.response (refund : Refund) : RefundResponse where
  id := refund.id
  paymentId := refund.paymentId
  providerRefundId := refund.providerRefundId
  amount := ofHundredths refund.amount
  reason := refund.reason
  status := refund.status

/-! ## Stripe -/

structure StripePaymentIntent where
  id : String
  clientSecret : Option String

inductive EventType
  | paymentIntentSucceeded
  | paymentIntentPaymentFailed
  | other (name : String)
  deriving DecidableEq

def EventType.text : EventType → String
  | .paymentIntentSucceeded => "payment_intent.succeeded"
  | .paymentIntentPaymentFailed => "payment_intent.payment_failed"
  | .other name => name

/-- The object of an event: an intent, with the message of its last error. -/
structure Intent where
  id : String
  lastPaymentError : Option String := none
  deriving DecidableEq

/-- An event whose signature has been verified. -/
structure StripeEvent where
  id : String
  type : EventType
  object : Intent
  deriving DecidableEq

/-- `_decline_reason` -/
def declineReason (intent : Intent) : String :=
  (intent.lastPaymentError.filter fun message => message ≠ "").getD "payment_failed"

/-- What a Stripe call returns, or the text of the error it raises. -/
abbrev StripeReply (α : Type) := Except String α

def stripeError (text : String) : Failure := raise 502 "stripe_error" text

structure Env where
  uuid4 : Supply
  paymentHash : PaymentCreate → String
  refundHash : UUID → RefundCreate → String

end Payments
end Marketplace
