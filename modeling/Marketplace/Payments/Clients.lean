import Marketplace.Payments.Schemas

/-!
# Payments: the client of the Order Service

What `OrderClient` makes of an answer.  A callback commits in the Order Service
whatever becomes of the payment, so it returns the new shop in every case.  A
call may also fail on the way: before it is served, or after.
-/

namespace Marketplace
namespace Payments

open Base
open Orders (Shop Order)

/-- What becomes of a call to the Order Service: it is served and answered, it
is served and its answer is lost, or it never arrives. -/
inductive Link
  | up
  | lost
  | down
  deriving DecidableEq

/-- `OrderClient._request`: `served` is what the Order Service does with it. -/
def request (link : Link) (shop : Shop) (served : Shop × Reply Order) :
    Shop × Except ServiceError (Reply Order) :=
  let unavailable : ServiceError := ⟨503, "order_unavailable", "Order Service is unavailable"⟩
  match link with
  | .up => (served.1, .ok served.2)
  | .lost => (served.1, .error unavailable)
  | .down => (shop, .error unavailable)

structure OrderSnapshot where
  orderId : UUID
  status : Orders.OrderStatus
  grandTotal : ℚ
  currencyCode : String

/-- `OrderClient.get_order` -/
def getOrder (link : Link) (shop : Shop) (orderId : UUID) (buyerToken : Principal) :
    Except ServiceError OrderSnapshot := do
  match ← (request link shop (shop, Orders.getOrder shop orderId buyerToken)).2 with
  | .refused code =>
    if code = 404 then throw ⟨404, "order_not_found", "Order was not found"⟩
    else throw ⟨502, "order_error", "Could not load order"⟩
  | .ok order =>
    return { orderId := orderId, status := order.status
             grandTotal := ofHundredths order.grandTotal, currencyCode := order.currencyCode }

/-- What the three callbacks make of an answer. -/
def callback (link : Link) (shop : Shop) (served : Shop × Reply Order) :
    Shop × Except ServiceError Unit :=
  match request link shop served with
  | (shop, .ok (.ok _)) => (shop, .ok ())
  | (shop, .ok (.refused _)) =>
    (shop, .error ⟨502, "order_callback_failed", "Order Service callback failed"⟩)
  | (shop, .error e) => (shop, .error e)

/-- `OrderClient.payment_authorized`; `now` is the clock of the Order Service. -/
def paymentAuthorized (link : Link) (now : DateTime) (shop : Shop) (orderId : UUID)
    (paymentReference : String) (amount : ℚ) (currencyCode : String) (serviceToken : Principal) :
    Shop × Except ServiceError Unit :=
  callback link shop (Orders.postPaymentAuthorized now shop orderId
    (Orders.PaymentAuthorized.parse paymentReference amount currencyCode) serviceToken)

/-- `OrderClient.payment_failed` -/
def paymentFailed (link : Link) (shop : Shop) (orderId : UUID) (paymentReference : Option String)
    (reason : String) (serviceToken : Principal) : Shop × Except ServiceError Unit :=
  callback link shop (Orders.postPaymentFailed shop orderId
    (Orders.PaymentFailed.parse paymentReference reason) serviceToken)

/-- `OrderClient.payment_refunded` -/
def paymentRefunded (link : Link) (shop : Shop) (orderId : UUID) (refundedAmount : ℚ)
    (currencyCode : String) (reason : Option String) (serviceToken : Principal) :
    Shop × Except ServiceError Unit :=
  callback link shop (Orders.postPaymentRefunded shop orderId
    (Orders.PaymentRefunded.parse refundedAmount currencyCode reason) serviceToken)

end Payments
end Marketplace
