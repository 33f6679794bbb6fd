import Marketplace.Inventory.Schemas

/-!
# Inventory: queries and row writes

The queries of `InventoryRepository` and the row writes the service flushes.  A
write that violates a constraint of the table fails, which rolls the whole
transaction back.
-/

namespace Marketplace
namespace Inventory

open Base

namespace Store

/-! ## Queries -/

/-- `list_expired_active`: expired active reservations in the order of their
expiry, at most `limit` of them.  The query leaves the order of rows with the
same expiry open; `tie` is the order the database happens to choose. -/
def listExpiredActive (s : Store) (now : DateTime) (limit : Nat) (tie : UUID → Nat) :
    List InventoryReservation :=
  ((s.reservations.rows.filter fun r => r.status = .active ∧ r.expiresAt ≤ now).insertionSort
    fun a b => a.expiresAt < b.expiresAt ∨ (a.expiresAt = b.expiresAt ∧ tie a.id ≤ tie b.id)).take
      limit

def getItemsForReservation (s : Store) (pairs : List (UUID × String)) : List InventoryItem :=
  (s.items.rows.filter fun i => (i.sellerId, i.sku) ∈ pairs ∧ i.isActive).insertionSort
    fun a b => a.id ≤ b.id

def listReservationsByGroup (s : Store) (groupId : UUID) : List InventoryReservation :=
  (s.reservations.rows.filter fun r => r.reservationGroupId = some groupId).insertionSort
    fun a b => a.id ≤ b.id

theorem mem_listExpiredActive {s : Store} {now : DateTime} {limit : Nat} {tie : UUID → Nat}
    {r : InventoryReservation} (h : r ∈ s.listExpiredActive now limit tie) :
    r ∈ s.reservations ∧ r.status = .active ∧ r.expiresAt ≤ now := by
  have h' := List.mem_of_mem_take h
  rw [List.mem_insertionSort, List.mem_filter] at h'
  simpa [Table.mem_def] using h'

theorem mem_listReservationsByGroup {s : Store} {g : UUID} {r : InventoryReservation} :
    r ∈ s.listReservationsByGroup g ↔ r ∈ s.reservations ∧ r.reservationGroupId = some g := by
  simp [listReservationsByGroup, List.mem_insertionSort, Table.mem_def]

theorem nodup_listReservationsByGroup (s : Store) (g : UUID) :
    ((s.listReservationsByGroup g).map InventoryReservation.id).Nodup := by
  refine ((List.perm_insertionSort _ _).map _).nodup_iff.mpr ?_
  exact s.reservations.nodup.sublist (List.filter_sublist.map _)

theorem nodup_listExpiredActive (s : Store) (now : DateTime) (limit : Nat) (tie : UUID → Nat) :
    ((s.listExpiredActive now limit tie).map InventoryReservation.id).Nodup := by
  refine List.Nodup.sublist ((List.take_sublist _ _).map _) ?_
  refine ((List.perm_insertionSort _ _).map _).nodup_iff.mpr ?_
  exact s.reservations.nodup.sublist (List.filter_sublist.map _)

/-! ## Row writes -/

/-- The columns of an item that no request bounds, and the checks of the table. -/
def itemRow (item : InventoryItem) : Except Failure InventoryItem := do
  let onHandQuantity ← integerColumn "on_hand_quantity" item.onHandQuantity
  let reservedQuantity ← integerColumn "reserved_quantity" item.reservedQuantity
  require item.Checks (.integrity "inventory_items")
  return { item with onHandQuantity := onHandQuantity, reservedQuantity := reservedQuantity }

def putItem (s : Store) (item : InventoryItem) : Except Failure Store := do
  let item ← itemRow item
  return { s with items := s.items.put item }

/-- A new item, under the unique constraint `uq_inventory_items_warehouse_sku`. -/
def addItem (s : Store) (item : InventoryItem) : Except Failure Store := do
  let item ← itemRow item
  require (∀ i ∈ s.items.rows, ¬(i.warehouseId = item.warehouseId ∧ i.sku = item.sku))
    (.integrity "uq_inventory_items_warehouse_sku")
  let items ← orRaise (s.items.insert? item) (.integrity "inventory_items_pkey")
  return { s with items := items }

def putReservation (s : Store) (reservation : InventoryReservation) : Store :=
  { s with reservations := s.reservations.put reservation }

def addReservation (s : Store) (reservation : InventoryReservation) : Except Failure Store := do
  require (0 < reservation.quantity) (.integrity "reservation_quantity_positive")
  let reservations ← orRaise (s.reservations.insert? reservation)
    (.integrity "inventory_reservations_pkey")
  return { s with reservations := reservations }

def addMovement (s : Store) (movement : InventoryMovement) : Except Failure Store := do
  let onHandDelta ← integerColumn "on_hand_delta" movement.onHandDelta
  let reservedDelta ← integerColumn "reserved_delta" movement.reservedDelta
  let resultingOnHand ← integerColumn "resulting_on_hand" movement.resultingOnHand
  let resultingReserved ← integerColumn "resulting_reserved" movement.resultingReserved
  require (onHandDelta ≠ 0 ∨ reservedDelta ≠ 0) (.integrity "movement_has_delta")
  let movement := { movement with
    onHandDelta := onHandDelta
    reservedDelta := reservedDelta
    resultingOnHand := resultingOnHand
    resultingReserved := resultingReserved }
  return { s with movements := s.movements ++ [movement] }

def addEvent (s : Store) (event : OutboxEvent) : Store :=
  { s with outbox := s.outbox ++ [event] }

def addIdempotencyRecord (s : Store) (record : IdempotencyRecord) : Except Failure Store := do
  let idempotency ← orRaise (s.idempotency.insert? record) (.integrity "uq_idempotency_actor_key")
  return { s with idempotency := idempotency }

/-- The next value of `uuid4()`. -/
def draw (env : Env) (s : Store) : UUID × Store :=
  (env.uuid4.value s.drawn, { s with drawn := s.drawn + 1 })

section Writes

variable {s s' : Store}

theorem itemRow_eq_ok {item row : InventoryItem} :
    itemRow item = .ok row ↔ item.Storable ∧ item = row := by
  simp only [itemRow, bind_eq_ok, integerColumn_eq_ok, require_eq_ok, pure_eq_ok]
  constructor
  · rintro ⟨_, ⟨rfl, -, hfits⟩, _, ⟨rfl, -⟩, _, hchecks, rfl⟩
    exact ⟨⟨hfits, hchecks⟩, rfl⟩
  · rintro ⟨⟨hfits, hchecks⟩, rfl⟩
    obtain ⟨honHand, hreserved, hcovered, -⟩ := id hchecks
    exact ⟨_, ⟨rfl, by omega, hfits⟩, _, ⟨rfl, by omega, by omega⟩, (), hchecks, rfl⟩

@[simp] theorem putItem_eq_ok {item : InventoryItem} :
    s.putItem item = .ok s' ↔ item.Storable ∧ { s with items := s.items.put item } = s' := by
  simp only [putItem, bind_eq_ok, itemRow_eq_ok, pure_eq_ok]
  constructor
  · rintro ⟨_, ⟨hstorable, rfl⟩, rfl⟩
    exact ⟨hstorable, rfl⟩
  · rintro ⟨hstorable, rfl⟩
    exact ⟨item, ⟨hstorable, rfl⟩, rfl⟩

@[simp] theorem addItem_eq_ok {item : InventoryItem} :
    s.addItem item = .ok s' ↔ item.Storable ∧
      (∀ i ∈ s.items.rows, ¬(i.warehouseId = item.warehouseId ∧ i.sku = item.sku)) ∧
      ∃ items, s.items.insert? item = some items ∧ { s with items := items } = s' := by
  simp only [addItem, bind_eq_ok, itemRow_eq_ok, require_eq_ok, orRaise_eq_ok, pure_eq_ok]
  constructor
  · rintro ⟨_, ⟨hstorable, rfl⟩, _, hunique, items, hinsert, rfl⟩
    exact ⟨hstorable, hunique, items, hinsert, rfl⟩
  · rintro ⟨hstorable, hunique, items, hinsert, rfl⟩
    exact ⟨item, ⟨hstorable, rfl⟩, (), hunique, items, hinsert, rfl⟩

@[simp] theorem addReservation_eq_ok {r : InventoryReservation} :
    s.addReservation r = .ok s' ↔ 0 < r.quantity ∧
      ∃ rs, s.reservations.insert? r = some rs ∧ { s with reservations := rs } = s' := by
  simp [addReservation]

@[simp] theorem addMovement_eq_ok {m : InventoryMovement} :
    s.addMovement m = .ok s' ↔ m.Storable ∧ { s with movements := s.movements ++ [m] } = s' := by
  simp only [addMovement, bind_eq_ok, integerColumn_eq_ok, require_eq_ok, pure_eq_ok]
  constructor
  · rintro ⟨_, ⟨rfl, h₁⟩, _, ⟨rfl, h₂⟩, _, ⟨rfl, h₃⟩, _, ⟨rfl, h₄⟩, _, hmoves, rfl⟩
    exact ⟨⟨h₁, h₂, h₃, h₄, hmoves⟩, rfl⟩
  · rintro ⟨⟨h₁, h₂, h₃, h₄, hmoves⟩, rfl⟩
    exact ⟨_, ⟨rfl, h₁⟩, _, ⟨rfl, h₂⟩, _, ⟨rfl, h₃⟩, _, ⟨rfl, h₄⟩, (), hmoves, rfl⟩

@[simp] theorem addIdempotencyRecord_eq_ok {r : IdempotencyRecord} :
    s.addIdempotencyRecord r = .ok s' ↔
      ∃ rs, s.idempotency.insert? r = some rs ∧ { s with idempotency := rs } = s' := by
  simp [addIdempotencyRecord]

end Writes

end Store
end Inventory
end Marketplace
