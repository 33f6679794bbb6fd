import Marketplace.Inventory.Atomicity

/-!
# Orders: the tables

The rows of the Order Service.  Amounts are `numeric(14, 2)` columns, kept as
whole hundredths.  The audit log and the timestamps are left out; no operation
reads them.
-/

namespace Marketplace
namespace Orders

open Base

inductive OrderStatus
  | pendingPayment
  | paymentAuthorized
  | confirmed
  | processing
  | shipped
  | delivered
  | cancelled
  | paymentFailed
  deriving DecidableEq

def OrderStatus.value : OrderStatus → String
  | .pendingPayment => "pending_payment"
  | .paymentAuthorized => "payment_authorized"
  | .confirmed => "confirmed"
  | .processing => "processing"
  | .shipped => "shipped"
  | .delivered => "delivered"
  | .cancelled => "cancelled"
  | .paymentFailed => "payment_failed"

inductive PaymentStatus
  | pending
  | authorized
  | captured
  | failed
  | refunded
  | partiallyRefunded
  deriving DecidableEq

structure AddressSnapshot where
  fullName : String
  line1 : String
  line2 : Option String
  city : String
  stateOrRegion : String
  postalCode : String
  countryCode : String
  phone : Option String
  deriving DecidableEq

structure OrderItem where
  productId : UUID
  variantId : UUID
  sellerId : UUID
  sku : String
  productName : String
  variantName : String
  quantity : Int
  unitPrice : Int
  lineTotal : Int
  productVersion : Int
  deriving DecidableEq

structure Order where
  id : UUID
  orderNumber : String
  customerId : UUID
  cartId : UUID
  status : OrderStatus := .pendingPayment
  paymentStatus : PaymentStatus := .pending
  currencyCode : String
  subtotal : Int
  grandTotal : Int
  shippingAddress : AddressSnapshot
  billingAddress : AddressSnapshot
  reservationGroupId : Option UUID
  paymentReference : Option String := none
  cancellationReason : Option String := none
  version : Nat := 1
  items : List OrderItem
  deriving DecidableEq

/-- `_TERMINAL_ORDER_STATUSES`: an order that no longer occupies its cart. -/
def OrderStatus.Terminal (status : OrderStatus) : Prop :=
  status = .cancelled ∨ status = .paymentFailed

instance (status : OrderStatus) : Decidable status.Terminal :=
  inferInstanceAs (Decidable (_ ∨ _))

structure OrderStatusHistory where
  orderId : UUID
  fromStatus : Option OrderStatus
  toStatus : OrderStatus
  actorId : UUID
  reason : Option String
  deriving DecidableEq

/-- An outbox row; the payload is taken from the order. -/
structure OutboxEvent where
  eventType : String
  order : Order
  deriving DecidableEq

structure IdempotencyRecord where
  actorId : UUID
  key : String
  requestHash : String
  resourceId : UUID
  deriving DecidableEq

/-- The unique constraint `uq_order_idempotency_actor_key`. -/
def IdempotencyRecord.actorKey (record : IdempotencyRecord) : UUID × String :=
  (record.actorId, record.key)

structure Store where
  orders : Table Order.id
  history : List OrderStatusHistory
  outbox : List OutboxEvent
  idempotency : Table IdempotencyRecord.actorKey
  drawn : Nat

def Store.empty : Store := ⟨Table.empty, [], [], Table.empty, 0⟩

end Orders
end Marketplace
