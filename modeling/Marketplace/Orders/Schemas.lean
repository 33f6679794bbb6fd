import Marketplace.Orders.Model

/-!
# Orders: request bodies and the answers of other services
-/

namespace Marketplace
namespace Orders

open Base

structure OrderCreate where
  cartId : UUID
  cartVersion : Nat
  shippingAddress : AddressSnapshot
  billingAddress : Option AddressSnapshot
  version_valid : 1 ≤ cartVersion

structure CancelOrder where
  reason : String
  reason_valid : 3 ≤ reason.length ∧ reason.length ≤ 1000

/-- The pattern `^[A-Z]{3}$`. -/
def ValidCurrency (code : String) : Prop :=
  code.length = 3 ∧ code.toList.all Char.isUpper = true

instance (code : String) : Decidable (ValidCurrency code) := inferInstanceAs (Decidable (_ ∧ _))

structure PaymentAuthorized where
  paymentReference : String
  authorizedAmount : ℚ
  currencyCode : String
  reference_valid : 1 ≤ paymentReference.length ∧ paymentReference.length ≤ 160
  amount_valid : 0 < authorizedAmount
  currency_valid : ValidCurrency currencyCode

def PaymentAuthorized.parse (paymentReference : String) (authorizedAmount : ℚ)
    (currencyCode : String) : Option PaymentAuthorized :=
  if h : (1 ≤ paymentReference.length ∧ paymentReference.length ≤ 160) ∧ 0 < authorizedAmount ∧
      ValidCurrency currencyCode then
    some ⟨paymentReference, authorizedAmount, currencyCode, h.1, h.2.1, h.2.2⟩
  else none

structure PaymentFailed where
  paymentReference : Option String
  reason : String
  reference_valid : ∀ r ∈ paymentReference, r.length ≤ 160
  reason_valid : 1 ≤ reason.length ∧ reason.length ≤ 1000

def PaymentFailed.parse (paymentReference : Option String) (reason : String) :
    Option PaymentFailed :=
  if h : (∀ r ∈ paymentReference, r.length ≤ 160) ∧ 1 ≤ reason.length ∧ reason.length ≤ 1000 then
    some ⟨paymentReference, reason, h.1, h.2⟩
  else none

/-- `refundedAmount` is the total refunded so far. -/
structure PaymentRefunded where
  refundedAmount : ℚ
  currencyCode : String
  reason : Option String
  amount_valid : 0 < refundedAmount
  currency_valid : ValidCurrency currencyCode
  reason_valid : ∀ r ∈ reason, r.length ≤ 120

def PaymentRefunded.parse (refundedAmount : ℚ) (currencyCode : String) (reason : Option String) :
    Option PaymentRefunded :=
  if h : 0 < refundedAmount ∧ ValidCurrency currencyCode ∧ ∀ r ∈ reason, r.length ≤ 120 then
    some ⟨refundedAmount, currencyCode, reason, h.1, h.2.1, h.2.2⟩
  else none

structure FulfillmentUpdate where
  status : OrderStatus
  shipmentReference : Option String
  status_valid : status = .processing ∨ status = .shipped ∨ status = .delivered
  reference_valid : ∀ r ∈ shipmentReference, r.length ≤ 160

/-- A field value of an HTTP header has no space around it. -/
structure OrderKey where
  text : String
  trimmed : strip text = text
  length_valid : 8 ≤ text.length ∧ text.length ≤ 200

structure CartItemSnapshot where
  productId : UUID
  variantId : UUID
  sku : String
  productName : String
  variantName : String
  quantity : Int
  unitPrice : ℚ
  currencyCode : String
  productVersion : Int
  quantity_valid : 0 < quantity
  price_valid : 0 ≤ unitPrice

structure CartSnapshot where
  id : UUID
  customerId : UUID
  currencyCode : String
  subtotal : ℚ
  version : Nat
  items : List CartItemSnapshot

/-- What the Cart Service answers to the two calls of a checkout. -/
structure CartReply where
  cartStatus : Nat
  cart : CartSnapshot
  readyStatus : Nat
  ready : Bool
  priceChanged : Bool

/-- What the services around a checkout answer: the cart, and the owner of each
product that is available. -/
structure CheckoutReplies where
  cart : CartReply
  owner : UUID → Option UUID

structure Settings where
  reservationMinutes : Nat
  orderNumberPrefix : String
  minutes_valid : 5 ≤ reservationMinutes ∧ reservationMinutes ≤ 60

structure Env where
  uuid4 : Supply
  settings : Settings
  requestHash : OrderCreate → String

end Orders
end Marketplace
