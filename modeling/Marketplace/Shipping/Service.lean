import Marketplace.Payments.Clients
import Marketplace.Shipping.Model

/-!
# Shipping: the service

`ShipmentService`, one definition for each method, over the databases of all the
services.  An operation that moves an order asks the Order Service first and
writes its own rows afterwards, so a refusal leaves both as they were.  What the
Order Service has done it has done, though, even if its answer is lost on the way
back or the rows are then refused.
-/

namespace Marketplace
namespace Shipping

open Base
open Orders (Shop FulfillmentUpdate)
open Payments (Link)

structure Depot where
  shop : Shop
  shipments : Store

def Depot.empty : Depot := ⟨Shop.empty, Store.empty⟩

structure DepotEnv where
  shop : Orders.ShopEnv
  shipments : Env

/-! ## The clients -/

/-- The token the Shipping Service calls the Order Service with. -/
def shippingService : Principal := ⟨4, [], [.ordersFulfillment]⟩

/-- `OrderClient.advance_fulfillment` -/
def advanceFulfillment (link : Link) (shop : Shop) (orderId : UUID) (data : FulfillmentUpdate)
    (serviceToken : Principal) : Shop × Except ServiceError Unit :=
  match Payments.request link shop (Orders.postFulfillment shop orderId data serviceToken) with
  | (shop, .error e) => (shop, .error e)
  | (shop, .ok (.ok _)) => (shop, .ok ())
  | (shop, .ok (.refused code)) =>
    if code = 404 then (shop, .error ⟨404, "order_not_found", "Order was not found"⟩)
    else if code = 409 then
      (shop, .error ⟨409, "invalid_order_transition",
        "Order is not in a state that allows this fulfillment update"⟩)
    else (shop, .error ⟨502, "order_callback_failed", "Order Service callback failed"⟩)

/-- What becomes of the calls of one operation: the Auth Service grants a token or
does not, and then there is the link to the Order Service. -/
structure Connection where
  auth : Except ServiceError Unit
  link : Link

/-- `service_token` and the callback. -/
def Connection.callOrder (connection : Connection) (shop : Shop) (orderId : UUID)
    (data : FulfillmentUpdate) : Shop × Except ServiceError Unit :=
  match connection.auth with
  | .error e => (shop, .error e)
  | .ok () => advanceFulfillment connection.link shop orderId data shippingService

/-- The end of an operation that called the Order Service: it raises what the
client raised, or commits its rows. -/
def finish (depot : Depot) (call : Shop × Except ServiceError Unit)
    (write : Except Failure (Store × Shipment)) : Depot × Except Failure Shipment :=
  match call with
  | (shop, .error e) => ({ depot with shop := shop }, .error (.service e))
  | (shop, .ok ()) =>
    match write with
    | .error e => ({ depot with shop := shop }, .error e)
    | .ok (s, shipment) => (⟨shop, s⟩, .ok shipment)

/-! ## Booking -/

/-- The reads of `create_shipment` and their checks: the shipment the key was used
for, if any. -/
def createRead (env : Env) (s : Store) (data : ShipmentCreate) (principal : Principal)
    (key : ShipmentKey) : Except Failure (Option Shipment) := do
  let existing := s.idempotency.get? (principal.subject, key.text)
  require (∀ r ∈ existing, r.requestHash = env.requestHash data)
    (raise 409 "idempotency_conflict" "Idempotency key was reused with another request")
  match (existing.bind fun r => r.resourceId).bind s.shipments.get? with
  | some shipment => return some shipment
  | none => do
    require (s.getByOrder data.orderId = none)
      (raise 409 "shipment_already_exists" "A shipment already exists for this order")
    return none

def createWrite (env : Env) (now : DateTime) (s : Store) (data : ShipmentCreate)
    (principal : Principal) (key : ShipmentKey) : Except Failure (Store × Shipment) := do
  let carrier ← requestColumn "carrier" 80 data.carrier
  let serviceLevel ← data.serviceLevel.mapM (requestColumn "service_level" 80)
  let shipment : Shipment := {
    id := env.uuid4.value s.drawn
    orderId := data.orderId
    sellerId := principal.subject
    carrier := carrier
    serviceLevel := serviceLevel }
  let s ← s.addShipment shipment
  let s ← s.addEvent ⟨shipment.id, "created", some s!"Shipment booked with {carrier}", now⟩
  let s ← s.addIdempotencyRecord
    ⟨principal.subject, key.text, env.requestHash data, "shipment", some shipment.id⟩
  return ({ s with drawn := s.drawn + 1 }, shipment)

def createShipment (env : Env) (now : DateTime) (depot : Depot) (data : ShipmentCreate)
    (principal : Principal) (key : ShipmentKey) (connection : Connection) :
    Depot × Except Failure Shipment :=
  match createRead env depot.shipments data principal key with
  | .error e => (depot, .error e)
  | .ok (some shipment) => (depot, .ok shipment)
  | .ok none =>
    finish depot
      (connection.callOrder depot.shop data.orderId ⟨.processing, none, Or.inl rfl, nofun⟩)
      (createWrite env now depot.shipments data principal key)

/-! ## On the way -/

def shipmentNotFound : Failure := raise 404 "shipment_not_found" "Shipment was not found"

/-- `_owned_shipment` -/
def ownedShipment (s : Store) (shipmentId : UUID) (principal : Principal) :
    Except Failure Shipment := do
  let shipment ← orRaise (s.shipments.get? shipmentId) shipmentNotFound
  require (shipment.sellerId = principal.subject ∨ principal.hasRole [.admin]) shipmentNotFound
  return shipment

def shipRead (s : Store) (shipmentId : UUID) (principal : Principal) : Except Failure Shipment := do
  let shipment ← ownedShipment s shipmentId principal
  let status := shipment.status.value
  require (shipment.status = .pending)
    (raise 409 "shipment_not_pending" s!"Shipment is already {status}")
  return shipment

def shipWrite (now : DateTime) (s : Store) (shipment : Shipment) (data : ShipmentShip) :
    Except Failure (Store × Shipment) := do
  let occurredAt ← timestampColumn "shipped_at" (data.occurredAt.getD now)
  let trackingNumber ← requestColumn "tracking_number" 160 data.trackingNumber
  let carrier ← requestColumn "carrier" 80 (data.carrier.getD shipment.carrier)
  let shipment := { shipment with
    trackingNumber := some trackingNumber
    carrier := carrier
    status := .shipped
    shippedAt := some occurredAt
    version := shipment.version + 1 }
  let s ← (s.putShipment shipment).addEvent ⟨shipment.id, "shipped",
    some s!"Picked up by {carrier}, tracking {trackingNumber}", occurredAt⟩
  return (s, shipment)

def ship (now : DateTime) (depot : Depot) (shipmentId : UUID) (data : ShipmentShip)
    (principal : Principal) (connection : Connection) : Depot × Except Failure Shipment :=
  match shipRead depot.shipments shipmentId principal with
  | .error e => (depot, .error e)
  | .ok shipment =>
    finish depot
      (connection.callOrder depot.shop shipment.orderId
        ⟨.shipped, some data.trackingNumber, Or.inr (Or.inl rfl),
          fun _ hr => Option.some.inj hr ▸ data.tracking_valid.2⟩)
      (shipWrite now depot.shipments shipment data)

def deliverRead (s : Store) (shipmentId : UUID) (principal : Principal) :
    Except Failure Shipment := do
  let shipment ← ownedShipment s shipmentId principal
  let status := shipment.status.value
  require (shipment.status = .shipped)
    (raise 409 "shipment_not_shipped" s!"Shipment is {status}, not shipped")
  return shipment

def deliverWrite (now : DateTime) (s : Store) (shipment : Shipment) (data : ShipmentDeliver) :
    Except Failure (Store × Shipment) := do
  let occurredAt ← timestampColumn "delivered_at" (data.occurredAt.getD now)
  let shipment := { shipment with
    status := .delivered
    deliveredAt := some occurredAt
    version := shipment.version + 1 }
  let s ← (s.putShipment shipment).addEvent
    ⟨shipment.id, "delivered", some "Delivered", occurredAt⟩
  return (s, shipment)

def deliver (now : DateTime) (depot : Depot) (shipmentId : UUID) (data : ShipmentDeliver)
    (principal : Principal) (connection : Connection) : Depot × Except Failure Shipment :=
  match deliverRead depot.shipments shipmentId principal with
  | .error e => (depot, .error e)
  | .ok shipment =>
    finish depot
      (connection.callOrder depot.shop shipment.orderId
        ⟨.delivered, none, Or.inr (Or.inr rfl), nofun⟩)
      (deliverWrite now depot.shipments shipment data)

/-- An exception ends a shipment without a word to the Order Service. -/
def recordException (now : DateTime) (s : Store) (shipmentId : UUID) (data : ShipmentException)
    (principal : Principal) : Except Failure (Store × Shipment) := do
  let shipment ← ownedShipment s shipmentId principal
  let status := shipment.status.value
  require (shipment.status = .pending ∨ shipment.status = .shipped)
    (raise 409 "shipment_not_active" s!"Shipment is already {status}")
  let occurredAt := data.occurredAt.getD now
  let reason ← requestText "failure_reason" data.reason
  let shipment := { shipment with
    status := .failed
    failureReason := some reason
    version := shipment.version + 1 }
  let s ← (s.putShipment shipment).addEvent
    ⟨shipment.id, "exception", some reason, occurredAt⟩
  return (s, shipment)

/-! ## Requests -/

/-- Nobody but the Shipping Service is registered for the fulfillment endpoint. -/
def Routed : Orders.Request → Prop
  | .fulfillment _ _ _ => False
  | _ => True

inductive Request
  | shop (request : Orders.Request) (routed : Routed request)
  | createShipment (data : ShipmentCreate) (principal : Principal) (key : ShipmentKey)
      (connection : Connection)
  | ship (shipmentId : UUID) (data : ShipmentShip) (principal : Principal)
      (connection : Connection)
  | deliver (shipmentId : UUID) (data : ShipmentDeliver) (principal : Principal)
      (connection : Connection)
  | recordException (shipmentId : UUID) (data : ShipmentException) (principal : Principal)

/-- The services, one request at a time. -/
def step (env : DepotEnv) (depot : Depot) (call : DateTime × Request) : Depot :=
  match call.2 with
  | .shop request _ => { depot with shop := Orders.step env.shop depot.shop (call.1, request) }
  | .createShipment data principal key connection =>
    (createShipment env.shipments call.1 depot data principal key connection).1
  | .ship shipmentId data principal connection =>
    (ship call.1 depot shipmentId data principal connection).1
  | .deliver shipmentId data principal connection =>
    (deliver call.1 depot shipmentId data principal connection).1
  | .recordException shipmentId data principal =>
    match recordException call.1 depot.shipments shipmentId data principal with
    | .ok (s, _) => { depot with shipments := s }
    | .error _ => depot

end Shipping
end Marketplace
