import Marketplace.Orders.Contest

/-!
# Orders: the payment and fulfillment endpoints

The endpoints the Payment and Shipping Services call, with the checks made before
the service is reached.
-/

namespace Marketplace
namespace Orders

open Base

def respond (result : Shop × Except Failure Order) : Shop × Reply Order :=
  match result with
  | (shop, .ok order) => (shop, .ok order)
  | (shop, .error e) => (shop, .refused e.statusCode)

/-- `require_scope("orders:payment")` and the validation of the body. -/
def paymentEndpoint {α : Type} (shop : Shop) (body : Option α) (principal : Principal)
    (operation : α → Shop × Except Failure Order) : Shop × Reply Order :=
  if principal.hasScope .ordersPayment then
    match body with
    | none => (shop, .refused 422)
    | some data => respond (operation data)
  else (shop, .refused 403)

/-- `GET /orders/{order_id}` -/
def getOrder (shop : Shop) (orderId : UUID) (principal : Principal) : Reply Order :=
  match customerOrder shop.orders orderId principal with
  | .ok order => .ok order
  | .error e => .refused e.statusCode

/-- `POST /internal/orders/{order_id}/payment-authorized` -/
def postPaymentAuthorized (now : DateTime) (shop : Shop) (orderId : UUID)
    (body : Option PaymentAuthorized) (principal : Principal) : Shop × Reply Order :=
  paymentEndpoint shop body principal fun data =>
    paymentAuthorized now shop orderId data principal

/-- `POST /internal/orders/{order_id}/payment-failed` -/
def postPaymentFailed (shop : Shop) (orderId : UUID) (body : Option PaymentFailed)
    (principal : Principal) : Shop × Reply Order :=
  paymentEndpoint shop body principal fun data => paymentFailed shop orderId data principal

/-- `POST /internal/orders/{order_id}/payment-refunded` -/
def postPaymentRefunded (shop : Shop) (orderId : UUID) (body : Option PaymentRefunded)
    (principal : Principal) : Shop × Reply Order :=
  paymentEndpoint shop body principal fun data =>
    match paymentRefunded shop.orders orderId data with
    | .ok (orders, order) => ({ shop with orders := orders }, .ok order)
    | .error e => (shop, .error e)

/-- `POST /internal/orders/{order_id}/fulfillment` -/
def postFulfillment (shop : Shop) (orderId : UUID) (data : FulfillmentUpdate)
    (principal : Principal) : Shop × Reply Order :=
  if principal.hasScope .ordersFulfillment then
    match fulfillment shop.orders orderId data principal with
    | .ok (orders, order) => ({ shop with orders := orders }, .ok order)
    | .error e => (shop, .refused e.statusCode)
  else (shop, .refused 403)

/-! ## What an endpoint leaves behind -/

section Effects

variable {env : ShopEnv} {shop : Shop} {now : DateTime} {orderId : UUID} {principal : Principal}

theorem respond_fst (result : Shop × Except Failure Order) : (respond result).1 = result.1 := by
  obtain ⟨shop, e | o⟩ := result
  · rfl
  · rfl

theorem paymentEndpoint_effect {α : Type} {operation : α → Shop × Except Failure Order}
    (h : Inventory.Inv shop.inventory) (hop : ∀ data, Effect env shop (operation data).1)
    (body : Option α) : Effect env shop (paymentEndpoint shop body principal operation).1 := by
  unfold paymentEndpoint
  split
  · cases body with
    | none => exact .refl h
    | some data =>
      show Effect env shop (respond (operation data)).1
      rw [respond_fst]
      exact hop data
  · exact .refl h

theorem postPaymentAuthorized_effect (h : Inventory.Inv shop.inventory)
    (body : Option PaymentAuthorized) :
    Effect env shop (postPaymentAuthorized now shop orderId body principal).1 :=
  paymentEndpoint_effect h (fun data => paymentAuthorized_effect h now orderId data principal) body

theorem postPaymentFailed_effect (h : Inventory.Inv shop.inventory) (body : Option PaymentFailed) :
    Effect env shop (postPaymentFailed shop orderId body principal).1 :=
  paymentEndpoint_effect h (fun data => paymentFailed_effect h orderId data principal) body

theorem postPaymentRefunded_effect (h : Inventory.Inv shop.inventory)
    (body : Option PaymentRefunded) :
    Effect env shop (postPaymentRefunded shop orderId body principal).1 := by
  refine paymentEndpoint_effect h (fun data => ?_) body
  have he := @paymentRefunded_effect env shop h orderId data
  unfold Shop.commit at he
  split at he <;> next hrun => simpa only [hrun] using he

end Effects

end Orders
end Marketplace
