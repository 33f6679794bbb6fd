import Marketplace.Payments.Clients

/-!
# Payments: the service

`PaymentService`, one definition for each method, over the databases of all
three services.  A webhook handler changes its payment, calls the Order Service
and commits: when the callback fails, the payment is rolled back and the event
is not recorded, whatever the Order Service did.  A refund is committed before
its callback, whose failure is ignored.
-/

namespace Marketplace
namespace Payments

open Base
open Orders (Shop)

structure Platform where
  shop : Shop
  payments : Store

def Platform.empty : Platform := ⟨Shop.empty, Store.empty⟩

structure PlatformEnv where
  shop : Orders.ShopEnv
  payments : Env

/-! ## Idempotency keys -/

def idempotencyConflict : Failure :=
  raise 409 "idempotency_conflict" "Idempotency key was reused with another request"

/-- What was stored when the key was first used, if it still is. -/
def replayed {α : Type} (s : Store) (actorId : UUID) (idempotencyKey : Option PaymentKey)
    (requestHash : String) (resource : UUID → Option α) : Except Failure (Option α) := do
  match idempotencyKey with
  | none => return none
  | some key =>
    let existing := s.idempotency.get? (actorId, key.text)
    require (∀ r ∈ existing, r.requestHash = requestHash) idempotencyConflict
    return (existing.bind fun r => r.resourceId).bind resource

/-- Record what was stored under the key, when there is one. -/
def recordKey (s : Store) (actorId : UUID) (idempotencyKey : Option PaymentKey)
    (requestHash resourceType : String) (resourceId : UUID) : Except Failure Store :=
  match idempotencyKey with
  | none => return s
  | some key => s.addIdempotencyRecord ⟨actorId, key.text, requestHash, resourceType, resourceId⟩

/-! ## Payments -/

/-- The transaction that stores a new payment. -/
def storePayment (env : Env) (s : Store) (data : PaymentCreate) (principal : Principal)
    (idempotencyKey : Option PaymentKey) (order : OrderSnapshot) (intent : StripePaymentIntent) :
    Except Failure (Store × Payment) := do
  let amount ← numericColumn "amount" order.grandTotal
  let currencyCode ← textColumn "currency_code" 3 order.currencyCode
  let intentId ← textColumn "provider_payment_intent_id" 255 intent.id
  let payment : Payment := {
    id := env.uuid4.value s.drawn
    orderId := data.orderId
    customerId := principal.subject
    amount := amount
    currencyCode := currencyCode
    providerPaymentIntentId := intentId }
  let s ← s.addPayment payment
  let s ← recordKey s principal.subject idempotencyKey (env.paymentHash data) "payment" payment.id
  return ({ s with drawn := s.drawn + 1 }, payment)

def createPayment (env : Env) (link : Link) (p : Platform) (data : PaymentCreate)
    (principal : Principal) (idempotencyKey : Option PaymentKey)
    (stripe : StripeReply StripePaymentIntent) :
    Except Failure (Store × Payment × Option String) := do
  let s := p.payments
  match ← replayed s principal.subject idempotencyKey (env.paymentHash data) s.payments.get? with
  | some payment => return (s, payment, none)
  | none => do
    require (s.getPaymentByOrder data.orderId = none)
      (raise 409 "payment_already_exists" "A payment already exists for this order")
    let order ← (getOrder link p.shop data.orderId principal).mapError .service
    require (order.status = .pendingPayment)
      (raise 409 "order_not_payable" "Order is not awaiting payment")
    let intent ← stripe.mapError stripeError
    let (s, payment) ← storePayment env s data principal idempotencyKey order intent
    return (s, payment, intent.clientSecret)

def paymentNotFound : Failure := raise 404 "payment_not_found" "Payment was not found"

def getPayment (s : Store) (paymentId : UUID) (principal : Principal) : Except Failure Payment := do
  let payment ← orRaise (s.payments.get? paymentId) paymentNotFound
  require (payment.customerId = principal.subject ∨ principal.hasRole [.admin]) paymentNotFound
  return payment

/-! ## Refunds -/

/-- The statuses a refund can follow. -/
def PaymentStatus.Refundable (status : PaymentStatus) : Prop :=
  status = .succeeded ∨ status = .partiallyRefunded

instance (status : PaymentStatus) : Decidable status.Refundable :=
  inferInstanceAs (Decidable (_ ∨ _))

/-- What is left to refund, in hundredths. -/
def remaining (s : Store) (payment : Payment) : Int :=
  payment.amount - s.refundedAmount payment.id

/-- `str` of so many hundredths. -/
def hundredthsText (n : Int) : String :=
  String.ofList (Orders.padded 1 (n / 100) ++ ['.'] ++ Orders.padded 2 (n % 100))

/-- The locked read of `create_refund` and its checks: the payment, and the
amount to refund. -/
def refundRead (s : Store) (paymentId : UUID) (data : RefundCreate) (principal : Principal) :
    Except Failure (Payment × ℚ) := do
  let payment ← getPayment s paymentId principal
  require payment.status.Refundable
    (raise 409 "payment_not_refundable" "Only a succeeded payment can be refunded")
  let left := remaining s payment
  let amount := data.amount.getD (ofHundredths left)
  let text := hundredthsText left
  require (amount ≤ ofHundredths left)
    (raise 422 "refund_exceeds_remaining" s!"Only {text} remains available to refund")
  return (payment, amount)

/-- The transaction that stores a refund.  The new status is taken from the
amount as it was requested, the row keeps it rounded. -/
def refundWrite (env : Env) (s : Store) (payment : Payment) (amount : ℚ) (data : RefundCreate)
    (principal : Principal) (idempotencyKey : Option PaymentKey) (providerRefundId : String) :
    Except Failure (Store × Refund) := do
  let stored ← numericColumn "amount" amount
  let providerRefundId ← textColumn "provider_refund_id" 255 providerRefundId
  let refund : Refund := {
    id := env.uuid4.value s.drawn
    paymentId := payment.id
    providerRefundId := providerRefundId
    amount := stored
    reason := data.reason
    status := .succeeded }
  let status : PaymentStatus :=
    if amount = ofHundredths (remaining s payment) then .refunded else .partiallyRefunded
  let s ← s.addRefund refund
  let s := s.putPayment { payment with status := status, version := payment.version + 1 }
  let s ← recordKey s principal.subject idempotencyKey (env.refundHash payment.id data) "refund"
    refund.id
  return ({ s with drawn := s.drawn + 1 }, refund)

def createRefund (env : Env) (link : Link) (p : Platform) (paymentId : UUID) (data : RefundCreate)
    (principal : Principal) (idempotencyKey : Option PaymentKey) (stripe : StripeReply String) :
    Platform × Except Failure RefundResponse :=
  let s := p.payments
  match replayed s principal.subject idempotencyKey (env.refundHash paymentId data)
      s.refunds.get? with
  | .error e => (p, .error e)
  | .ok (some refund) => (p, .ok refund.response)
  | .ok none =>
    match refundRead s paymentId data principal with
    | .error e => (p, .error e)
    | .ok (payment, amount) =>
      match stripe with
      | .error text => (p, .error (stripeError text))
      | .ok providerRefundId =>
        match refundWrite env s payment amount data principal idempotencyKey providerRefundId with
        | .error e => (p, .error e)
        | .ok (payments, refund) =>
          let total := contextRound 28 (ofHundredths (s.refundedAmount payment.id) + amount)
          let shop := (paymentRefunded link p.shop payment.orderId total payment.currencyCode
            data.reason paymentService).1
          (⟨shop, payments⟩, .ok { refund.response with amount := amount })

/-! ## Webhooks -/

/-- The end of a handler that called the Order Service: it commits `payments`,
or raises what the client raised. -/
def conclude (p : Platform) (call : Shop × Except ServiceError Unit) (payments : Store) :
    Platform × Except Failure Unit :=
  match call with
  | (shop, .ok ()) => (⟨shop, payments⟩, .ok ())
  | (shop, .error e) => ({ p with shop := shop }, .error (.service e))

/-- Both handlers move the payment of an intent to a status and tell the Order
Service; `recorded` has the event added.  Without such a payment, or when the
payment is there already, they only commit the event. -/
def settle (p : Platform) (recorded : Store) (intentId : String) (status : PaymentStatus)
    (columns : Payment → Payment) (call : Payment → Shop × Except ServiceError Unit) :
    Platform × Except Failure Unit :=
  match recorded.getPaymentByIntent intentId with
  | none => ({ p with payments := recorded }, .ok ())
  | some payment =>
    if payment.status = status then ({ p with payments := recorded }, .ok ())
    else
      let moved : Payment :=
        { columns payment with status := status, version := payment.version + 1 }
      conclude p (call payment) (recorded.putPayment moved)

def onPaymentSucceeded (link : Link) (now : DateTime) (p : Platform) (recorded : Store)
    (intent : Intent) : Platform × Except Failure Unit :=
  settle p recorded intent.id .succeeded id fun payment =>
    paymentAuthorized link now p.shop payment.orderId payment.providerPaymentIntentId
      (ofHundredths payment.amount) payment.currencyCode paymentService

def onPaymentFailed (link : Link) (p : Platform) (recorded : Store) (intent : Intent) :
    Platform × Except Failure Unit :=
  let reason := declineReason intent
  settle p recorded intent.id .failed (fun payment => { payment with failureReason := some reason })
    fun payment =>
      paymentFailed link p.shop payment.orderId (some payment.providerPaymentIntentId) reason
        paymentService

def handleWebhookEvent (link : Link) (now : DateTime) (p : Platform) (event : StripeEvent) :
    Platform × Except Failure Unit :=
  match p.payments.webhookEvents.get? event.id with
  | some _ => (p, .ok ())
  | none =>
    match p.payments.addWebhookEvent ⟨event.id, event.type.text⟩ with
    | .error e => (p, .error e)
    | .ok recorded =>
      match event.type with
      | .paymentIntentSucceeded => onPaymentSucceeded link now p recorded event.object
      | .paymentIntentPaymentFailed => onPaymentFailed link p recorded event.object
      | .other _ => ({ p with payments := recorded }, .ok ())

/-! ## Requests -/

inductive Request
  | shop (request : Orders.Request)
  | createPayment (data : PaymentCreate) (principal : Principal)
      (idempotencyKey : Option PaymentKey) (stripe : StripeReply StripePaymentIntent)
  | createRefund (paymentId : UUID) (data : RefundCreate) (principal : Principal)
      (idempotencyKey : Option PaymentKey) (stripe : StripeReply String)
  | webhook (event : StripeEvent)

/-- A request, with the clock it is served by and what becomes of its call to
the Order Service. -/
structure Call where
  now : DateTime
  link : Link
  request : Request

def Platform.commit {α : Type} (p : Platform) (result : Except Failure (Store × α)) : Platform :=
  match result with
  | .ok (payments, _) => { p with payments := payments }
  | .error _ => p

/-- The three services, one request at a time. -/
def step (env : PlatformEnv) (p : Platform) (call : Call) : Platform :=
  match call.request with
  | .shop request => { p with shop := Orders.step env.shop p.shop (call.now, request) }
  | .createPayment data principal key stripe =>
    p.commit (createPayment env.payments call.link p data principal key stripe)
  | .createRefund paymentId data principal key stripe =>
    (createRefund env.payments call.link p paymentId data principal key stripe).1
  | .webhook event => (handleWebhookEvent call.link call.now p event).1

end Payments
end Marketplace
