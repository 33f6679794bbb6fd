import Marketplace.Orders.Routes

/-!
# Payments: the tables

The rows of the Payment Service.  Amounts are `numeric(14, 2)` columns, kept as
whole hundredths.  The provider is always Stripe, and the timestamps are left
out; no operation reads them.
-/

namespace Marketplace
namespace Payments

open Base

inductive PaymentStatus
  | pending
  | requiresAction
  | succeeded
  | failed
  | refunded
  | partiallyRefunded
  deriving DecidableEq

inductive RefundStatus
  | pending
  | succeeded
  | failed
  deriving DecidableEq

structure Payment where
  id : UUID
  orderId : UUID
  customerId : UUID
  amount : Int
  currencyCode : String
  providerPaymentIntentId : String
  status : PaymentStatus := .pending
  failureReason : Option String := none
  version : Nat := 1
  deriving DecidableEq

structure Refund where
  id : UUID
  paymentId : UUID
  providerRefundId : Option String
  amount : Int
  reason : Option String
  status : RefundStatus := .pending
  deriving DecidableEq

structure IdempotencyRecord where
  actorId : UUID
  idempotencyKey : String
  requestHash : String
  resourceType : String
  resourceId : Option UUID
  deriving DecidableEq

/-- The unique index `uq_idempotency_actor_key`. -/
def IdempotencyRecord.key (record : IdempotencyRecord) : UUID × String :=
  (record.actorId, record.idempotencyKey)

structure WebhookEvent where
  providerEventId : String
  eventType : String
  deriving DecidableEq

structure Store where
  payments : Table Payment.id
  refunds : Table Refund.id
  idempotency : Table IdempotencyRecord.key
  webhookEvents : Table WebhookEvent.providerEventId
  drawn : Nat

def Store.empty : Store := ⟨Table.empty, Table.empty, Table.empty, Table.empty, 0⟩

namespace Store

/-! ## Queries -/

def getPaymentByOrder (s : Store) (orderId : UUID) : Option Payment :=
  s.payments.rows.find? fun p => p.orderId = orderId

def getPaymentByIntent (s : Store) (intentId : String) : Option Payment :=
  s.payments.rows.find? fun p => p.providerPaymentIntentId = intentId

/-- `Payment.refunded_amount`, in hundredths. -/
def refundedAmount (s : Store) (paymentId : UUID) : Int :=
  ((s.refunds.rows.filter fun r => r.paymentId = paymentId ∧ r.status = .succeeded).map
    Refund.amount).sum

/-! ## Row writes -/

/-- A new payment, under the constraints of `payments`. -/
def addPayment (s : Store) (payment : Payment) : Except Failure Store := do
  require (0 < payment.amount) (.integrity "amount_positive")
  require (∀ p ∈ s.payments.rows, p.orderId ≠ payment.orderId) (.integrity "uq_payments_order_id")
  require (∀ p ∈ s.payments.rows, p.providerPaymentIntentId ≠ payment.providerPaymentIntentId)
    (.integrity "uq_payments_provider_payment_intent_id")
  let payments ← orRaise (s.payments.insert? payment) (.integrity "pk_payments")
  return { s with payments := payments }

/-- A new refund, under the constraints of `refunds`. -/
def addRefund (s : Store) (refund : Refund) : Except Failure Store := do
  require (0 < refund.amount) (.integrity "refund_amount_positive")
  let refunds ← orRaise (s.refunds.insert? refund) (.integrity "pk_refunds")
  return { s with refunds := refunds }

def putPayment (s : Store) (payment : Payment) : Store :=
  { s with payments := s.payments.put payment }

def addIdempotencyRecord (s : Store) (record : IdempotencyRecord) : Except Failure Store := do
  let idempotency ← orRaise (s.idempotency.insert? record) (.integrity "uq_idempotency_actor_key")
  return { s with idempotency := idempotency }

def addWebhookEvent (s : Store) (event : WebhookEvent) : Except Failure Store := do
  let providerEventId ← textColumn "provider_event_id" 255 event.providerEventId
  let eventType ← textColumn "event_type" 120 event.eventType
  let webhookEvents ← orRaise (s.webhookEvents.insert? ⟨providerEventId, eventType⟩)
    (.integrity "uq_webhook_events_provider_event_id")
  return { s with webhookEvents := webhookEvents }

end Store
end Payments
end Marketplace
