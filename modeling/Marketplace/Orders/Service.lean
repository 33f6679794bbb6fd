import Marketplace.Orders.Clients

/-!
# Orders: the service

`OrderService`, one definition for each method.  An operation that calls
Inventory is written in the stages between which another request can come in:
what it reads, the call, and what it writes.  The sequential operations below
put the stages together, and an interleaved run steps through the same ones.

A write is the `UPDATE` the session flushes: it changes the columns the
operation assigned, on whatever row is stored by then.
-/

namespace Marketplace
namespace Orders

open Base

/-- The databases of the two services. -/
structure Shop where
  inventory : Inventory.Store
  orders : Store

def Shop.empty : Shop := ⟨Inventory.Store.empty, Store.empty⟩

structure ShopEnv where
  inventory : Inventory.Env
  orders : Env

/-! ## Rows -/

namespace Store

/-- Change the assigned columns of an order. -/
def update (s : Store) (orderId : UUID) (columns : Order → Order) : Store :=
  match s.orders.get? orderId with
  | some row => { s with orders := s.orders.put (columns row) }
  | none => s

def event (s : Store) (eventType : String) (order : Order) : Store :=
  { s with outbox := s.outbox ++ [⟨eventType, order⟩] }

/-- `_transition` and the flush after it: `columns` are the columns assigned
besides the status and the version. -/
def transition (s : Store) (order : Order) (newStatus : OrderStatus) (actor : UUID)
    (reason : Option String) (columns : Order → Order) : Store :=
  let moved (row : Order) : Order := { row with status := newStatus, version := order.version + 1 }
  let s := s.update order.id fun row => moved (columns row)
  let entry : OrderStatusHistory := ⟨order.id, some order.status, newStatus, actor, reason⟩
  let s := { s with history := s.history ++ [entry] }
  let name := newStatus.value
  s.event s!"order.{name}" (moved order)

def byCustomerCart (s : Store) (customerId cartId : UUID) : Option Order :=
  s.orders.rows.find? fun o => o.customerId = customerId ∧ o.cartId = cartId ∧ ¬o.status.Terminal

end Store

def notFound : Failure := raise 404 "order_not_found" "Order was not found"

def customerOrder (s : Store) (orderId : UUID) (principal : Principal) : Except Failure Order := do
  let order ← orRaise (s.orders.get? orderId) notFound
  require (order.customerId = principal.subject ∨ principal.hasRole [.admin]) notFound
  return order

def locked (s : Store) (orderId : UUID) : Except Failure Order :=
  orRaise (s.orders.get? orderId) notFound

/-- What a callback finds: nothing left to do, or an order to act on. -/
inductive Finding
  | done (order : Order)
  | act (order : Order)

/-- The end of an operation that called Inventory: it raises what the client
raised, or commits `orders`. -/
def finish (shop : Shop) (call : Inventory.Store × Except ServiceError Unit) (orders : Store)
    (order : Order) : Shop × Except Failure Order :=
  match call with
  | (inventory, .error e) => ({ shop with inventory := inventory }, .error (.service e))
  | (inventory, .ok ()) => (⟨inventory, orders⟩, .ok ((orders.orders.get? order.id).getD order))

/-- Release the group of an order, when it has one. -/
def releaseOrder (inventory : Inventory.Store) (order : Order) (reason : String)
    (token : Principal) : Inventory.Store × Except ServiceError Unit :=
  match order.reservationGroupId with
  | some groupId => releaseGroup inventory groupId reason token
  | none => (inventory, .ok ())

/-- Commit the group of an order, when it has one. -/
def commitOrder (now : DateTime) (inventory : Inventory.Store) (order : Order)
    (token : Principal) : Inventory.Store × Except ServiceError Unit :=
  match order.reservationGroupId with
  | some groupId => commitGroup now inventory groupId token
  | none => (inventory, .ok ())

/-! ## Cancelling -/

/-- The statuses an order can be cancelled in. -/
def OrderStatus.Cancellable (status : OrderStatus) : Prop :=
  status = .pendingPayment ∨ status = .paymentAuthorized ∨ status = .confirmed

instance (status : OrderStatus) : Decidable status.Cancellable :=
  inferInstanceAs (Decidable (_ ∨ _ ∨ _))

/-- The unlocked read of `cancel` and its checks. -/
def cancelRead (s : Store) (orderId : UUID) (principal : Principal) (expectedVersion : Nat) :
    Except Failure Order := do
  let order ← customerOrder s orderId principal
  require (order.version = expectedVersion) (raise 409 "version_conflict" "Order has changed")
  require order.status.Cancellable (raise 409 "order_not_cancellable" "Order cannot be cancelled")
  return order

def cancelWrite (s : Store) (order : Order) (data : CancelOrder) (principal : Principal) : Store :=
  s.transition order .cancelled principal.subject (some data.reason) fun row =>
    { row with cancellationReason := some data.reason }

def cancel (shop : Shop) (orderId : UUID) (data : CancelOrder) (principal : Principal)
    (expectedVersion : Nat) : Shop × Except Failure Order :=
  match cancelRead shop.orders orderId principal expectedVersion with
  | .error e => (shop, .error e)
  | .ok order =>
    finish shop (releaseOrder shop.inventory order data.reason principal)
      (cancelWrite shop.orders order data principal) order

/-! ## Payment callbacks -/

def invalidOrderState : Failure :=
  raise 409 "invalid_order_state" "Order is not awaiting payment"

/-- The locked read of `payment_authorized` and its checks. -/
def authorizeRead (s : Store) (orderId : UUID) (data : PaymentAuthorized) :
    Except Failure Finding := do
  let order ← locked s orderId
  if order.status = .confirmed then return .done order
  else do
    require (order.status = .pendingPayment) invalidOrderState
    require (data.currencyCode = order.currencyCode ∧
        data.authorizedAmount = ofHundredths order.grandTotal)
      (raise 422 "payment_amount_mismatch" "Payment amount does not match order")
    return .act order

def authorizeWrite (s : Store) (order : Order) (data : PaymentAuthorized) (principal : Principal) :
    Store :=
  s.transition order .confirmed principal.subject (some "payment_authorized") fun row =>
    { row with paymentStatus := .authorized, paymentReference := some data.paymentReference }

def paymentAuthorized (now : DateTime) (shop : Shop) (orderId : UUID) (data : PaymentAuthorized)
    (principal : Principal) : Shop × Except Failure Order :=
  match authorizeRead shop.orders orderId data with
  | .error e => (shop, .error e)
  | .ok (.done order) => (shop, .ok order)
  | .ok (.act order) =>
    finish shop (commitOrder now shop.inventory order orderService)
      (authorizeWrite shop.orders order data principal) order

def failRead (s : Store) (orderId : UUID) : Except Failure Finding := do
  let order ← locked s orderId
  if order.status = .paymentFailed then return .done order
  else do
    require (order.status = .pendingPayment) invalidOrderState
    return .act order

def failWrite (s : Store) (order : Order) (data : PaymentFailed) (principal : Principal) : Store :=
  s.transition order .paymentFailed principal.subject (some data.reason) fun row =>
    { row with paymentStatus := .failed, paymentReference := data.paymentReference }

def paymentFailed (shop : Shop) (orderId : UUID) (data : PaymentFailed) (principal : Principal) :
    Shop × Except Failure Order :=
  match failRead shop.orders orderId with
  | .error e => (shop, .error e)
  | .ok (.done order) => (shop, .ok order)
  | .ok (.act order) =>
    finish shop (releaseOrder shop.inventory order data.reason orderService)
      (failWrite shop.orders order data principal) order

/-- The payment statuses a refund can follow. -/
def PaymentStatus.Refundable (status : PaymentStatus) : Prop :=
  status = .authorized ∨ status = .captured ∨ status = .refunded ∨ status = .partiallyRefunded

instance (status : PaymentStatus) : Decidable status.Refundable :=
  inferInstanceAs (Decidable (_ ∨ _ ∨ _ ∨ _))

def paymentRefunded (s : Store) (orderId : UUID) (data : PaymentRefunded) :
    Except Failure (Store × Order) := do
  let order ← locked s orderId
  require order.paymentStatus.Refundable
    (raise 409 "invalid_order_state" "Order has no successful payment to refund")
  require (data.currencyCode = order.currencyCode)
    (raise 422 "payment_amount_mismatch" "Refund currency does not match order")
  require (data.refundedAmount ≤ ofHundredths order.grandTotal)
    (raise 422 "payment_amount_mismatch" "Refunded amount exceeds the order's grand total")
  let paymentStatus : PaymentStatus :=
    if data.refundedAmount = ofHundredths order.grandTotal then .refunded else .partiallyRefunded
  let order := { order with paymentStatus := paymentStatus, version := order.version + 1 }
  let s := { s with orders := s.orders.put order }
  return (s.event "order.payment_refunded" order, order)

/-! ## Fulfillment -/

/-- The status that follows in the fulfillment of an order. -/
def OrderStatus.next : OrderStatus → Option OrderStatus
  | .confirmed => some .processing
  | .processing => some .shipped
  | .shipped => some .delivered
  | _ => none

def fulfillment (s : Store) (orderId : UUID) (data : FulfillmentUpdate) (principal : Principal) :
    Except Failure (Store × Order) := do
  let order ← locked s orderId
  require (order.status.next = some data.status)
    (raise 409 "invalid_order_transition" "Fulfillment status is out of sequence")
  let reason ← data.shipmentReference.mapM (requestText "reason")
  let s := s.transition order data.status principal.subject reason id
  return (s, (s.orders.get? orderId).getD order)

/-! ## Checkout -/

def padded (width : Nat) (n : Int) : List Char :=
  let ds := Nat.toDigits 10 n.toNat
  List.replicate (width - ds.length) '0' ++ ds

/-- `strftime("%Y%m%d")`: the civil date of a clock reading, counted in years
that start in March. -/
def dateString (now : DateTime) : List Char :=
  let z := now / 86400000000 + 719468
  let era := z / 146097
  let dayOfEra := z % 146097
  let yearOfEra := (dayOfEra - dayOfEra / 1460 + dayOfEra / 36524 - dayOfEra / 146096) / 365
  let dayOfYear := dayOfEra - (365 * yearOfEra + yearOfEra / 4 - yearOfEra / 100)
  let month := (5 * dayOfYear + 2) / 153
  let day := dayOfYear - (153 * month + 2) / 5 + 1
  let civil := if month < 10 then month + 3 else month - 9
  let year := yearOfEra + era * 400 + if civil ≤ 2 then 1 else 0
  padded 4 year ++ padded 2 civil ++ padded 2 day

def orderNumber (env : Env) (now : DateTime) (orderId : UUID) : String :=
  String.ofList (env.settings.orderNumberPrefix.toList ++ ['-'] ++ dateString now ++ ['-'] ++
    ((UUID.hex orderId).take 10).map Char.toUpper)

/-- What a checkout has gathered before it calls Inventory: the cart, each item
with the seller of its product. -/
structure Basket where
  cart : CartSnapshot
  items : List (CartItemSnapshot × UUID)

/-- The first half of `create`: an order the key was used for, or a basket. -/
def gather (env : Env) (s : Store) (data : OrderCreate) (principal : Principal) (key : OrderKey)
    (replies : CheckoutReplies) : Except Failure (Order ⊕ Basket) := do
  let requestHash := env.requestHash data
  let previous := s.idempotency.get? (principal.subject, key.text)
  require (∀ r ∈ previous, r.requestHash = requestHash)
    (raise 409 "idempotency_conflict" "Key was used for another request")
  match previous.bind fun r => s.orders.get? r.resourceId with
  | some order => return .inl order
  | none => do
    require (s.byCustomerCart principal.subject data.cartId = none)
      (raise 409 "order_already_exists" "An order already exists for this cart")
    let cart ← (replies.cart.snapshot data.cartId data.cartVersion).mapError .service
    require (cart.customerId = principal.subject ∧ cart.items ≠ [])
      (raise 403 "cart_ownership_error" "Cart does not belong to buyer")
    let items ← cart.items.mapM fun item => do
      let seller ← (replies.sellerForProduct item.productId).mapError .service
      return (item, seller)
    return .inr ⟨cart, items⟩

def batchRequest (env : Env) (now : DateTime) (principal : Principal) (basket : Basket)
    (orderId : UUID) : BatchReservationRequest where
  customerId := principal.subject
  cartReference := UUID.str basket.cart.id
  orderReference := orderNumber env now orderId
  expiresAt := now + minutes env.settings.reservationMinutes
  lines := basket.items.map fun (item, seller) => (item.sku, seller, item.quantity)

def storeItem (item : CartItemSnapshot) (seller : UUID) : Except Failure OrderItem := do
  let sku ← textColumn "sku" 80 item.sku
  let productName ← textColumn "product_name" 300 item.productName
  let variantName ← textColumn "variant_name" 200 item.variantName
  let quantity ← integerColumn "quantity" item.quantity
  let unitPrice ← numericColumn "unit_price" item.unitPrice
  let lineTotal ← numericColumn "line_total" (contextRound 28 (item.unitPrice * item.quantity))
  let productVersion ← integerColumn "product_version" item.productVersion
  return { productId := item.productId, variantId := item.variantId, sellerId := seller, sku := sku
           productName := productName, variantName := variantName, quantity := quantity
           unitPrice := unitPrice, lineTotal := lineTotal, productVersion := productVersion }

/-- The order row as the database stores it. -/
def storeOrder (env : Env) (now : DateTime) (data : OrderCreate) (principal : Principal)
    (basket : Basket) (orderId groupId : UUID) : Except Failure Order := do
  let orderNumber ← textColumn "order_number" 40 (orderNumber env now orderId)
  let currencyCode ← textColumn "currency_code" 3 basket.cart.currencyCode
  let subtotal ← numericColumn "subtotal" basket.cart.subtotal
  let grandTotal ← numericColumn "grand_total" basket.cart.subtotal
  let items ← basket.items.mapM fun (item, seller) => storeItem item seller
  return { id := orderId, orderNumber := orderNumber, customerId := principal.subject
           cartId := basket.cart.id, currencyCode := currencyCode, subtotal := subtotal
           grandTotal := grandTotal, shippingAddress := data.shippingAddress
           billingAddress := data.billingAddress.getD data.shippingAddress
           reservationGroupId := some groupId, items := items }

/-- The transaction that stores a new order, under the unique constraints of
`orders` and `order_idempotency`. -/
def persist (env : Env) (now : DateTime) (s : Store) (data : OrderCreate) (principal : Principal)
    (key : OrderKey) (basket : Basket) (orderId groupId : UUID) :
    Except Failure (Store × Order) := do
  let order ← storeOrder env now data principal basket orderId groupId
  require (∀ o ∈ s.orders.rows, o.orderNumber ≠ order.orderNumber)
    (.integrity "orders_order_number_key")
  require (s.byCustomerCart order.customerId order.cartId = none)
    (.integrity "uq_order_customer_cart")
  let orders ← orRaise (s.orders.insert? order) (.integrity "orders_pkey")
  let idempotency ← orRaise
    (s.idempotency.insert? ⟨principal.subject, key.text, env.requestHash data, order.id⟩)
    (.integrity "uq_order_idempotency_actor_key")
  let entry : OrderStatusHistory :=
    ⟨order.id, none, .pendingPayment, principal.subject, some "checkout_started"⟩
  let s := { s with
    orders := orders
    idempotency := idempotency
    history := s.history ++ [entry]
    drawn := s.drawn + 1 }
  return (s.event "order.created" order, order)

/-- What `create` raises when the order cannot be stored. -/
def persistenceError (failure : Failure) : Failure :=
  if failure = .integrity "uq_order_customer_cart" then
    raise 409 "order_already_exists" "An order already exists for this cart"
  else failure

def create (env : ShopEnv) (now : DateTime) (shop : Shop) (data : OrderCreate)
    (principal : Principal) (key : OrderKey) (replies : CheckoutReplies) :
    Shop × Except Failure Order :=
  match gather env.orders shop.orders data principal key replies with
  | .error e => (shop, .error e)
  | .ok (.inl order) => (shop, .ok order)
  | .ok (.inr basket) =>
    let orderId := env.orders.uuid4.value shop.orders.drawn
    match reserveBatch env.inventory now shop.inventory
        (batchRequest env.orders now principal basket orderId) orderService key.text with
    | (inventory, .error e) => ({ shop with inventory := inventory }, .error (.service e))
    | (inventory, .ok groupId) =>
      match persist env.orders now shop.orders data principal key basket orderId groupId with
      | .ok (orders, order) => (⟨inventory, orders⟩, .ok order)
      | .error failure =>
        -- The identifier was drawn, although no row keeps it.
        let orders := { shop.orders with drawn := shop.orders.drawn + 1 }
        match releaseGroup inventory groupId "Order persistence failed" principal with
        | (inventory, .error e) => (⟨inventory, orders⟩, .error (.service e))
        | (inventory, .ok ()) => (⟨inventory, orders⟩, .error (persistenceError failure))

/-! ## Requests -/

inductive Request
  | inventory (request : Inventory.Request)
  | checkout (data : OrderCreate) (principal : Principal) (key : OrderKey)
      (replies : CheckoutReplies)
  | cancel (orderId : UUID) (data : CancelOrder) (principal : Principal) (expectedVersion : Nat)
  | paymentAuthorized (orderId : UUID) (data : PaymentAuthorized) (principal : Principal)
  | paymentFailed (orderId : UUID) (data : PaymentFailed) (principal : Principal)
  | paymentRefunded (orderId : UUID) (data : PaymentRefunded) (principal : Principal)
  | fulfillment (orderId : UUID) (data : FulfillmentUpdate) (principal : Principal)

/-- Commit an operation that touches the orders only. -/
def Shop.commit {α : Type} (shop : Shop) (result : Except Failure (Store × α)) : Shop :=
  match result with
  | .ok (orders, _) => { shop with orders := orders }
  | .error _ => shop

/-- The two services, one request at a time. -/
def step (env : ShopEnv) (shop : Shop) (call : DateTime × Request) : Shop :=
  match call.2 with
  | .inventory request =>
    { shop with inventory := Inventory.step env.inventory shop.inventory (call.1, request) }
  | .checkout data principal key replies =>
    (create env call.1 shop data principal key replies).1
  | .cancel orderId data principal version => (cancel shop orderId data principal version).1
  | .paymentAuthorized orderId data principal =>
    (paymentAuthorized call.1 shop orderId data principal).1
  | .paymentFailed orderId data principal => (paymentFailed shop orderId data principal).1
  | .paymentRefunded orderId data _ => shop.commit (paymentRefunded shop.orders orderId data)
  | .fulfillment orderId data principal =>
    shop.commit (fulfillment shop.orders orderId data principal)

end Orders
end Marketplace
