import Marketplace.Base.Listings
import Marketplace.Orders.Routes

/-!
# Shipping: the tables and the request bodies

The rows of the Shipping Service.  There is one shipment for an order, and an
event for everything that happened to it.  The creation and update timestamps are
left out; no operation reads them.
-/

namespace Marketplace
namespace Shipping

open Base

inductive ShipmentStatus
  | pending
  | shipped
  | delivered
  | failed
  deriving DecidableEq

def ShipmentStatus.value : ShipmentStatus → String
  | .pending => "pending"
  | .shipped => "shipped"
  | .delivered => "delivered"
  | .failed => "failed"

structure Shipment where
  id : UUID
  orderId : UUID
  sellerId : UUID
  carrier : String
  serviceLevel : Option String
  trackingNumber : Option String := none
  status : ShipmentStatus := .pending
  failureReason : Option String := none
  shippedAt : Option DateTime := none
  deliveredAt : Option DateTime := none
  version : Nat := 1
  deriving DecidableEq

structure ShipmentEvent where
  shipmentId : UUID
  eventType : String
  description : Option String
  occurredAt : DateTime
  deriving DecidableEq

structure IdempotencyRecord where
  actorId : UUID
  idempotencyKey : String
  requestHash : String
  resourceType : String
  resourceId : Option UUID
  deriving DecidableEq

/-- The unique index `uq_idempotency_actor_key`. -/
def IdempotencyRecord.key (record : IdempotencyRecord) : UUID × String :=
  (record.actorId, record.idempotencyKey)

structure Store where
  shipments : Table Shipment.id
  events : List ShipmentEvent
  idempotency : Table IdempotencyRecord.key
  drawn : Nat

def Store.empty : Store := ⟨Table.empty, [], Table.empty, 0⟩

/-! ## Request bodies -/

structure ShipmentCreate where
  orderId : UUID
  carrier : String
  serviceLevel : Option String
  carrier_valid : 1 ≤ carrier.length ∧ carrier.length ≤ 80
  level_valid : ∀ l ∈ serviceLevel, l.length ≤ 80

structure ShipmentShip where
  trackingNumber : String
  carrier : Option String
  occurredAt : Option DateTime
  tracking_valid : 1 ≤ trackingNumber.length ∧ trackingNumber.length ≤ 160
  carrier_valid : ∀ c ∈ carrier, 1 ≤ c.length ∧ c.length ≤ 80

structure ShipmentDeliver where
  occurredAt : Option DateTime

structure ShipmentException where
  reason : String
  occurredAt : Option DateTime
  reason_valid : 1 ≤ reason.length ∧ reason.length ≤ 280

/-- `required_idempotency_key`: the header, stripped. -/
structure ShipmentKey where
  text : String
  length_valid : 8 ≤ text.length ∧ text.length ≤ 100

structure Env where
  uuid4 : Supply
  requestHash : ShipmentCreate → String

/-! ## Queries and row writes -/

namespace Store

def getByOrder (s : Store) (orderId : UUID) : Option Shipment :=
  s.shipments.rows.find? fun x => x.orderId = orderId

/-- A new shipment, under the constraints of `shipments`. -/
def addShipment (s : Store) (shipment : Shipment) : Except Failure Store := do
  require (∀ x ∈ s.shipments.rows, x.orderId ≠ shipment.orderId)
    (.integrity "uq_shipments_order_id")
  let shipments ← orRaise (s.shipments.insert? shipment) (.integrity "pk_shipments")
  return { s with shipments := shipments }

/-- The events of a shipment, in the order in which they were written. -/
def eventsOf (s : Store) (shipmentId : UUID) : List ShipmentEvent :=
  s.events.filter fun e => e.shipmentId = shipmentId

/-- What `Shipment.events` may load: it is ordered by the times given for the
events, and no column keeps the order in which they were written. -/
def Reads (s : Store) (shipmentId : UUID) (events : List ShipmentEvent) : Prop :=
  Listing ShipmentEvent.occurredAt (s.eventsOf shipmentId) events

def putShipment (s : Store) (shipment : Shipment) : Store :=
  { s with shipments := s.shipments.put shipment }

def addEvent (s : Store) (event : ShipmentEvent) : Except Failure Store := do
  let eventType ← textColumn "event_type" 40 event.eventType
  let description ← event.description.mapM (requestColumn "description" 280)
  let occurredAt ← timestampColumn "occurred_at" event.occurredAt
  return { s with events := s.events ++ [⟨event.shipmentId, eventType, description, occurredAt⟩] }

def addIdempotencyRecord (s : Store) (record : IdempotencyRecord) : Except Failure Store := do
  let idempotency ← orRaise (s.idempotency.insert? record) (.integrity "uq_idempotency_actor_key")
  return { s with idempotency := idempotency }

end Store
end Shipping
end Marketplace
