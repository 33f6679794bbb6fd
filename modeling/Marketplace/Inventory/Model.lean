import Marketplace.Common

/-!
# Inventory: the tables

The rows of the Inventory Service and the store that holds them.  Every table is
keyed by the column the database keeps unique; the remaining constraints are
checked where a row is written.  Columns that no operation reads back, such as
the timestamps, are left out, and so is the audit log.
-/

namespace Marketplace
namespace Inventory

open Base

inductive ReservationStatus
  | active
  | committed
  | released
  | expired
  deriving DecidableEq

def ReservationStatus.value : ReservationStatus → String
  | .active => "active"
  | .committed => "committed"
  | .released => "released"
  | .expired => "expired"

inductive MovementType
  | receipt
  | adjustment
  | reservation
  | release
  | commitment
  | returned
  deriving DecidableEq

inductive MovementReason
  | purchaseReceipt
  | cycleCount
  | damage
  | customerOrder
  | reservationExpired
  | customerCancelled
  | customerReturn
  | adminCorrection
  deriving DecidableEq

structure CatalogSku where
  variantId : UUID
  productId : UUID
  sellerId : UUID
  sku : String
  isActive : Bool
  version : Nat := 1
  deriving DecidableEq

structure Warehouse where
  id : UUID
  code : String
  name : String
  addressReference : Option String
  isActive : Bool
  version : Nat := 1
  deriving DecidableEq

structure InventoryItem where
  id : UUID
  warehouseId : UUID
  productId : UUID
  variantId : UUID
  sellerId : UUID
  sku : String
  onHandQuantity : Int
  reservedQuantity : Int
  lowStockThreshold : Int
  isActive : Bool
  version : Nat := 1
  deriving DecidableEq

namespace InventoryItem

def availableQuantity (item : InventoryItem) : Int :=
  item.onHandQuantity - item.reservedQuantity

/-- The check constraints of `inventory_items`. -/
def Checks (item : InventoryItem) : Prop :=
  0 ≤ item.onHandQuantity ∧ 0 ≤ item.reservedQuantity ∧
    item.reservedQuantity ≤ item.onHandQuantity ∧ 0 ≤ item.lowStockThreshold

instance (item : InventoryItem) : Decidable item.Checks :=
  inferInstanceAs (Decidable (_ ∧ _ ∧ _ ∧ _))

/-- The counts of the item fit their columns and pass the checks.  The threshold is
bounded where a request gives it. -/
def Storable (item : InventoryItem) : Prop := item.onHandQuantity < 2 ^ 31 ∧ item.Checks

end InventoryItem

structure InventoryReservation where
  id : UUID
  inventoryItemId : UUID
  customerId : UUID
  cartReference : Option String
  orderReference : Option String
  reservationGroupId : Option UUID
  quantity : Int
  status : ReservationStatus := .active
  expiresAt : DateTime
  version : Nat := 1
  deriving DecidableEq

structure InventoryMovement where
  inventoryItemId : UUID
  movementType : MovementType
  reason : MovementReason
  onHandDelta : Int
  reservedDelta : Int
  resultingOnHand : Int
  resultingReserved : Int
  referenceType : Option String
  referenceId : Option String
  actorId : UUID
  note : Option String
  deriving DecidableEq

/-- The quantities of the movement fit their columns, and it moves something. -/
structure InventoryMovement.Storable (m : InventoryMovement) : Prop where
  onHandDelta : -2 ^ 31 ≤ m.onHandDelta ∧ m.onHandDelta < 2 ^ 31
  reservedDelta : -2 ^ 31 ≤ m.reservedDelta ∧ m.reservedDelta < 2 ^ 31
  resultingOnHand : -2 ^ 31 ≤ m.resultingOnHand ∧ m.resultingOnHand < 2 ^ 31
  resultingReserved : -2 ^ 31 ≤ m.resultingReserved ∧ m.resultingReserved < 2 ^ 31
  moves : m.onHandDelta ≠ 0 ∨ m.reservedDelta ≠ 0

/-- An outbox row; the payload is the item, and the reservation when the event
is about one. -/
structure OutboxEvent where
  eventType : String
  item : InventoryItem
  reservation : Option InventoryReservation
  deriving DecidableEq

structure IdempotencyRecord where
  actorId : UUID
  idempotencyKey : String
  requestHash : String
  resourceType : String
  resourceId : Option UUID
  deriving DecidableEq

/-- The unique index `uq_idempotency_actor_key`. -/
def IdempotencyRecord.key (record : IdempotencyRecord) : UUID × String :=
  (record.actorId, record.idempotencyKey)

/-- The database of the Inventory Service.  `drawn` counts the identifiers its
committed transactions have taken from the supply. -/
structure Store where
  warehouses : Table Warehouse.id
  catalogSkus : Table CatalogSku.variantId
  items : Table InventoryItem.id
  reservations : Table InventoryReservation.id
  movements : List InventoryMovement
  outbox : List OutboxEvent
  idempotency : Table IdempotencyRecord.key
  drawn : Nat

def Store.empty : Store :=
  ⟨Table.empty, Table.empty, Table.empty, Table.empty, [], [], Table.empty, 0⟩

end Inventory
end Marketplace
