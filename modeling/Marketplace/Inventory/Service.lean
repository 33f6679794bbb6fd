import Marketplace.Inventory.Repository

/-!
# Inventory: the service

`InventoryService`, one definition for each method.  An operation is one
transaction: it returns the store it commits, or the failure that rolls it back.
An expiry found while committing is committed first and raised afterwards, so
the commit operations return the store together with the answer.

Every operation reads the clock once, as `now`.
-/

namespace Marketplace
namespace Inventory

open Base

/-! ## Helpers -/

def isExpired (expiresAt now : DateTime) : Bool := expiresAt ≤ now

def canManage (item : InventoryItem) (principal : Principal) : Bool :=
  principal.hasRole [.admin] || item.sellerId == principal.subject

/-- Who may commit or release a customer's reservation. -/
def canResolve (customerId : UUID) (principal : Principal) : Bool :=
  principal.hasRole [.admin, .seller] || customerId == principal.subject ||
    principal.hasScope .inventoryCommit

def checkVersion (version expected : Nat) : Except Failure Unit :=
  require (version = expected) (raise 412 "version_conflict" "Resource version has changed")

namespace Store

def event (s : Store) (eventType : String) (item : InventoryItem)
    (reservation : Option InventoryReservation) : Store :=
  s.addEvent ⟨eventType, item, reservation⟩

def movement (s : Store) (item : InventoryItem) (principal : Principal)
    (movementType : MovementType) (reason : MovementReason) (onHandDelta reservedDelta : Int)
    (referenceType referenceId note : Option String) : Except Failure Store :=
  s.addMovement ⟨item.id, movementType, reason, onHandDelta, reservedDelta, item.onHandQuantity,
    item.reservedQuantity, referenceType, referenceId, principal.subject, note⟩

def addLowStockEventIfNeeded (s : Store) (item : InventoryItem) : Store :=
  if item.availableQuantity ≤ item.lowStockThreshold then
    s.event "inventory.stock.low.v1" item none
  else s

def idempotencyLookup (s : Store) (actorId : UUID) (idempotencyKey : Option String)
    (requestHash : String) : Except Failure (Option IdempotencyRecord) :=
  match givenKey idempotencyKey with
  | none => .ok none
  | some key =>
    match s.idempotency.get? (actorId, key) with
    | none => .ok none
    | some existing => do
      require (existing.requestHash = requestHash) (raise 409 "idempotency_conflict"
        "Idempotency key was reused with another request")
      return some existing

def recordIdempotency (s : Store) (actorId : UUID) (idempotencyKey : Option String)
    (requestHash resourceType : String) (resourceId : UUID) : Except Failure Store :=
  match givenKey idempotencyKey with
  | none => .ok s
  | some key => s.addIdempotencyRecord ⟨actorId, key, requestHash, resourceType, some resourceId⟩

end Store

def managedItem (s : Store) (itemId : UUID) (principal : Principal) :
    Except Failure InventoryItem := do
  let item ← orRaise (s.items.get? itemId)
    (raise 404 "inventory_item_not_found" "Inventory item was not found")
  require (canManage item principal)
    (raise 403 "inventory_forbidden" "Inventory item belongs to another seller")
  return item

/-! ## Warehouses and the catalogue -/

def createWarehouse (env : Env) (s : Store) (data : WarehouseCreate) :
    Except Failure (Store × Warehouse) := do
  let (id, s) := s.draw env
  let warehouse : Warehouse :=
    { id := id, code := data.code, name := data.name, addressReference := data.addressReference,
      isActive := data.isActive }
  require (∀ w ∈ s.warehouses.rows, w.code ≠ warehouse.code) (.integrity "uq_warehouses_code")
  let warehouses ← orRaise (s.warehouses.insert? warehouse) (.integrity "warehouses_pkey")
  return ({ s with warehouses := warehouses }, warehouse)

def updateWarehouse (s : Store) (warehouseId : UUID) (data : WarehouseUpdate)
    (expectedVersion : Nat) : Except Failure (Store × Warehouse) := do
  let warehouse ← orRaise (s.warehouses.get? warehouseId)
    (raise 404 "warehouse_not_found" "Warehouse was not found")
  checkVersion warehouse.version expectedVersion
  let name ← data.name.apply "name" warehouse.name
  let isActive ← data.isActive.apply "is_active" warehouse.isActive
  let warehouse := { warehouse with
    name := name
    addressReference := data.addressReference.applyNullable warehouse.addressReference
    isActive := isActive
    version := warehouse.version + 1 }
  return ({ s with warehouses := s.warehouses.put warehouse }, warehouse)

def syncCatalogSku (s : Store) (data : CatalogSkuSync) : Except Failure (Store × CatalogSku) := do
  require (∀ c ∈ s.catalogSkus.rows, c.sku = data.sku.val → c.variantId = data.variantId)
    (.integrity "uq_catalog_skus_sku")
  match s.catalogSkus.get? data.variantId with
  | some projection =>
    let projection := { projection with
      productId := data.productId
      sellerId := data.sellerId
      sku := data.sku
      isActive := data.isActive
      version := projection.version + 1 }
    return ({ s with catalogSkus := s.catalogSkus.put projection }, projection)
  | none => do
    let projection : CatalogSku :=
      { variantId := data.variantId, productId := data.productId, sellerId := data.sellerId,
        sku := data.sku, isActive := data.isActive }
    let catalogSkus ← orRaise (s.catalogSkus.insert? projection) (.integrity "catalog_skus_pkey")
    return ({ s with catalogSkus := catalogSkus }, projection)

/-! ## Items -/

/-- The item a creation request asks for; it belongs to the caller. -/
def InventoryItemCreate.item (data : InventoryItemCreate) (id sellerId : UUID) : InventoryItem :=
  { id := id, warehouseId := data.warehouseId, productId := data.productId
    variantId := data.variantId, sellerId := sellerId, sku := data.sku
    onHandQuantity := data.initialQuantity, reservedQuantity := 0
    lowStockThreshold := data.lowStockThreshold, isActive := data.isActive }

def recordInitialStock (s : Store) (item : InventoryItem) (principal : Principal) :
    Except Failure Store :=
  if item.onHandQuantity ≠ 0 then
    s.movement item principal .receipt .purchaseReceipt item.onHandQuantity 0
      (some "inventory_item") (some (UUID.str item.id)) (some "Initial stock")
  else .ok s

def createItem (env : Env) (s : Store) (data : InventoryItemCreate) (principal : Principal)
    (idempotencyKey : Option String) : Except Failure (Store × InventoryItem) := do
  let requestHash := env.requestHash (.createItem data)
  let existing ← s.idempotencyLookup principal.subject idempotencyKey requestHash
  match (existing.bind IdempotencyRecord.resourceId).bind s.items.get? with
  | some item => return (s, item)
  | none => do
    let invalidWarehouse := raise 422 "invalid_warehouse" "An active warehouse was not found"
    let warehouse ← orRaise (s.warehouses.get? data.warehouseId) invalidWarehouse
    require warehouse.isActive invalidWarehouse
    let invalidSku := raise 422 "invalid_catalog_sku"
      "An active matching Product Service SKU projection was not found"
    let catalogSku ← orRaise (s.catalogSkus.get? data.variantId) invalidSku
    require (catalogSku.isActive ∧ catalogSku.productId = data.productId ∧
      catalogSku.sku = data.sku.val) invalidSku
    require (principal.hasRole [.admin] ∨ catalogSku.sellerId = principal.subject)
      (raise 403 "catalog_sku_forbidden" "SKU belongs to another seller")
    let (id, s) := s.draw env
    let item := data.item id principal.subject
    let s ← s.addItem item
    let s ← recordInitialStock s item principal
    let s := s.event "inventory.item.created.v1" item none
    let s ← s.recordIdempotency principal.subject idempotencyKey requestHash "inventory_item" item.id
    return (s, item)

/-- The item with new settings. -/
def InventoryItem.edit (item : InventoryItem) (lowStockThreshold : Int) (isActive : Bool) :
    InventoryItem :=
  { item with
    lowStockThreshold := lowStockThreshold, isActive := isActive, version := item.version + 1 }

def updateItem (s : Store) (itemId : UUID) (data : InventoryItemUpdate) (expectedVersion : Nat)
    (principal : Principal) : Except Failure (Store × InventoryItem) := do
  let item ← managedItem s itemId principal
  checkVersion item.version expectedVersion
  let lowStockThreshold ← data.lowStockThreshold.apply "low_stock_threshold" item.lowStockThreshold
  let isActive ← data.isActive.apply "is_active" item.isActive
  let item := item.edit lowStockThreshold isActive
  let s ← s.putItem item
  return (s.event "inventory.item.updated.v1" item none, item)

/-- The item at a new stock level. -/
def InventoryItem.restock (item : InventoryItem) (onHandQuantity : Int) : InventoryItem :=
  { item with onHandQuantity := onHandQuantity, version := item.version + 1 }

def adjustStock (env : Env) (s : Store) (itemId : UUID) (data : StockAdjustment)
    (expectedVersion : Nat) (principal : Principal) (idempotencyKey : Option String) :
    Except Failure (Store × InventoryItem) := do
  let requestHash := env.requestHash (.adjustStock itemId data expectedVersion)
  let existing ← s.idempotencyLookup principal.subject idempotencyKey requestHash
  match existing.bind fun _ => s.items.get? itemId with
  | some item => return (s, item)
  | none => do
    let item ← managedItem s itemId principal
    checkVersion item.version expectedVersion
    let resultingOnHand := item.onHandQuantity + data.quantityDelta
    require (item.reservedQuantity ≤ resultingOnHand) (raise 409 "insufficient_unreserved_stock"
      "Adjustment would reduce stock below the reserved quantity")
    let item := item.restock resultingOnHand
    let s ← s.putItem item
    let s ← s.movement item principal .adjustment data.reason data.quantityDelta 0
      data.referenceType data.referenceId data.note
    let s := s.event "inventory.stock.adjusted.v1" item none
    let s := s.addLowStockEventIfNeeded item
    let s ← s.recordIdempotency principal.subject idempotencyKey requestHash "stock_adjustment"
      item.id
    return (s, item)

/-! ## Making reservations -/

/-- The expiry asked for, or the default, inside the configured window. -/
def reservationExpiry (env : Env) (now : DateTime) (asked : Option DateTime) :
    Except Failure DateTime := do
  let expiresAt := asked.getD (now + minutes env.settings.defaultReservationMinutes)
  require (now < expiresAt)
    (raise 422 "invalid_expiration" "Reservation expiration must be in the future")
  require (expiresAt ≤ now + minutes env.settings.maxReservationMinutes)
    (raise 422 "invalid_expiration" "Reservation expiration exceeds the configured maximum")
  return expiresAt

def ReservationCreate.reservation (data : ReservationCreate) (id itemId customerId : UUID)
    (expiresAt : DateTime) : InventoryReservation :=
  { id := id, inventoryItemId := itemId, customerId := customerId
    cartReference := data.cartReference, orderReference := none, reservationGroupId := none
    quantity := data.quantity, expiresAt := expiresAt }

/-- The item with `quantity` more of its units held back. -/
def InventoryItem.holdBack (item : InventoryItem) (quantity : Int) : InventoryItem :=
  { item with
    reservedQuantity := item.reservedQuantity + quantity, version := item.version + 1 }

def createReservation (env : Env) (now : DateTime) (s : Store) (data : ReservationCreate)
    (principal : Principal) (idempotencyKey : Option String) :
    Except Failure (Store × InventoryReservation) := do
  let requestHash := env.requestHash (.createReservation data)
  let existing ← s.idempotencyLookup principal.subject idempotencyKey requestHash
  match (existing.bind IdempotencyRecord.resourceId).bind s.reservations.get? with
  | some reservation => return (s, reservation)
  | none => do
    let notFound := raise 404 "inventory_item_not_found" "Active inventory item was not found"
    let item ← orRaise (s.items.get? data.inventoryItemId) notFound
    require item.isActive notFound
    let available := item.availableQuantity
    require (data.quantity ≤ available)
      (raise 409 "insufficient_stock" s!"Only {available} units are available")
    let expiresAt ← reservationExpiry env now data.expiresAt
    let item := item.holdBack data.quantity
    let s ← s.putItem item
    let (id, s) := s.draw env
    let reservation := data.reservation id item.id principal.subject expiresAt
    let s ← s.addReservation reservation
    let s ← s.movement item principal .reservation .customerOrder 0 data.quantity
      (some "reservation") (some (UUID.str reservation.id)) none
    let s := s.event "inventory.reservation.created.v1" item (some reservation)
    let s := s.addLowStockEventIfNeeded item
    let s ← s.recordIdempotency principal.subject idempotencyKey requestHash
      "inventory_reservation" reservation.id
    return (s, reservation)

/-- What every reservation of one batch has in common. -/
structure BatchTerms where
  customerId : UUID
  cartReference : Option String
  orderReference : Option String
  expiresAt : DateTime
  groupId : UUID

def BatchTerms.reservation (terms : BatchTerms) (id itemId : UUID) (quantity : Int) :
    InventoryReservation :=
  { id := id, inventoryItemId := itemId, customerId := terms.customerId
    cartReference := terms.cartReference, orderReference := terms.orderReference
    reservationGroupId := some terms.groupId, quantity := quantity, expiresAt := terms.expiresAt }

/-- Take up to `remaining` units from each item in turn. -/
def takeFromItems (env : Env) (terms : BatchTerms) :
    List UUID → Int → Store × List InventoryReservation →
      Except Failure (Store × List InventoryReservation)
  | [], _, st => .ok st
  | itemId :: rest, remaining, (s, taken) =>
    if remaining ≤ 0 then .ok (s, taken)
    else
      match s.items.get? itemId with
      | none => takeFromItems env terms rest remaining (s, taken)
      | some item =>
        let take := min item.availableQuantity remaining
        if take ≤ 0 then takeFromItems env terms rest remaining (s, taken)
        else do
          let s ← s.putItem (item.holdBack take)
          let (id, s) := s.draw env
          let reservation := terms.reservation id item.id take
          let s ← s.addReservation reservation
          takeFromItems env terms rest (remaining - take) (s, taken ++ [reservation])

/-- One line of a batch: the items of its seller and SKU, in the order of their
identifiers, have to cover its quantity between them. -/
def reserveLine (env : Env) (terms : BatchTerms) (candidates : List InventoryItem)
    (st : Store × List InventoryReservation) (line : BatchReservationLine) :
    Except Failure (Store × List InventoryReservation) := do
  let items := candidates.filter fun i => (i.sellerId, i.sku) = line.pair
  let seller := UUID.str line.sellerId
  let sku := line.sku.val
  require (items ≠ []) (raise 422 "invalid_sku"
    s!"No active inventory was found for seller {seller} SKU {sku}")
  let available := ((items.filterMap fun i => st.1.items.get? i.id).map
    InventoryItem.availableQuantity).sum
  require (line.quantity ≤ available)
    (raise 409 "insufficient_stock" s!"Only {available} units are available for SKU {sku}")
  takeFromItems env terms (items.map InventoryItem.id) line.quantity st

/-- The movement of one item touched by a batch: `before` is the store the batch
started from. -/
def recordTouched (before : Store) (principal : Principal) (groupId : UUID) (s : Store)
    (itemId : UUID) : Except Failure Store :=
  match before.items.get? itemId, s.items.get? itemId with
  | some old, some item => do
    let s ← s.movement item principal .reservation .customerOrder 0
      (item.reservedQuantity - old.reservedQuantity) (some "reservation_group")
      (some (UUID.str groupId)) none
    return s.addLowStockEventIfNeeded item
  | _, _ => .ok s

def recordCreated (s : Store) (reservation : InventoryReservation) : Store :=
  match s.items.get? reservation.inventoryItemId with
  | some item => s.event "inventory.reservation.created.v1" item (some reservation)
  | none => s

def createBatchReservation (env : Env) (now : DateTime) (s : Store)
    (data : BatchReservationCreate) (principal : Principal) (idempotencyKey : Option String) :
    Except Failure (Store × UUID × List InventoryReservation) := do
  let requestHash := env.requestHash (.createBatchReservation data)
  let existing ← s.idempotencyLookup data.customerId idempotencyKey requestHash
  match (existing.bind IdempotencyRecord.resourceId).map fun g =>
      (g, s.listReservationsByGroup g) with
  | some (groupId, r :: rs) => return (s, groupId, r :: rs)
  | _ => do
    let expiresAt ← reservationExpiry env now data.expiresAt
    let candidates := s.getItemsForReservation (data.lines.map BatchReservationLine.pair)
    let before := s
    let (groupId, s) := s.draw env
    let terms : BatchTerms :=
      { customerId := data.customerId, cartReference := data.cartReference
        orderReference := data.orderReference, expiresAt := expiresAt, groupId := groupId }
    let (s, reservations) ← data.lines.foldlM (reserveLine env terms candidates) (s, [])
    let touched := (reservations.map InventoryReservation.inventoryItemId).eraseDups
    let s ← touched.foldlM (recordTouched before principal groupId) s
    let s := reservations.foldl recordCreated s
    let s ← s.recordIdempotency data.customerId idempotencyKey requestHash "reservation_group"
      groupId
    return (s, groupId, reservations)

/-! ## Resolving reservations -/

/-- `_resolve_reservation`: give the units back and close the reservation. -/
def resolveReservation (s : Store) (reservation : InventoryReservation) (item : InventoryItem)
    (principal : Principal) (target : ReservationStatus) (reason : MovementReason)
    (note : Option String) : Except Failure Store := do
  let item := { item with
    reservedQuantity := item.reservedQuantity - reservation.quantity
    version := item.version + 1 }
  let closed := { reservation with status := target, version := reservation.version + 1 }
  let s ← s.putItem item
  let s := s.putReservation closed
  let s ← s.movement item principal .release reason 0 (-reservation.quantity)
    (some "reservation") (some (UUID.str reservation.id)) note
  let outcome := target.value
  return s.event s!"inventory.reservation.{outcome}.v1" item (some closed)

/-- The statements `commit_reservation` and `commit_reservation_group` share:
the units leave the stock.  They differ in the order reference the reservation
keeps and in what the movement refers to. -/
def commitUnits (s : Store) (reservation : InventoryReservation) (item : InventoryItem)
    (principal : Principal) (orderReference : Option String) (referenceType referenceId : String) :
    Except Failure Store := do
  let item := { item with
    reservedQuantity := item.reservedQuantity - reservation.quantity
    onHandQuantity := item.onHandQuantity - reservation.quantity
    version := item.version + 1 }
  let closed := { reservation with
    status := .committed, orderReference := orderReference, version := reservation.version + 1 }
  let s ← s.putItem item
  let s := s.putReservation closed
  let s ← s.movement item principal .commitment .customerOrder (-reservation.quantity)
    (-reservation.quantity) (some referenceType) (some referenceId) none
  return s.event "inventory.reservation.committed.v1" item (some closed)

def itemMissing : Failure :=
  raise 409 "inventory_item_missing" "Reserved inventory item no longer exists"

def activeReservationWithItem (s : Store) (reservationId : UUID) (principal : Principal) :
    Except Failure (InventoryReservation × InventoryItem) := do
  let reservation ← orRaise (s.reservations.get? reservationId)
    (raise 404 "reservation_not_found" "Reservation was not found")
  require (canResolve reservation.customerId principal)
    (raise 403 "reservation_forbidden" "Reservation belongs to another customer")
  let status := reservation.status.value
  require (reservation.status = .active)
    (raise 409 "reservation_not_active" s!"Reservation is already {status}")
  let item ← orRaise (s.items.get? reservation.inventoryItemId) itemMissing
  return (reservation, item)

def commitReservation (now : DateTime) (s : Store) (reservationId : UUID) (orderReference : String)
    (principal : Principal) : Except Failure (Store × Except ServiceError InventoryReservation) := do
  let (reservation, item) ← activeReservationWithItem s reservationId principal
  if isExpired reservation.expiresAt now then do
    let s ← resolveReservation s reservation item principal .expired .reservationExpired none
    return (s, .error ⟨409, "reservation_expired",
      "Reservation expired before it could be committed"⟩)
  else do
    let s ← commitUnits s reservation item principal (some orderReference) "order" orderReference
    return (s, .ok ((s.reservations.get? reservationId).getD reservation))

def releaseReservation (s : Store) (reservationId : UUID) (reason : MovementReason)
    (note : Option String) (principal : Principal) :
    Except Failure (Store × InventoryReservation) := do
  let (reservation, item) ← activeReservationWithItem s reservationId principal
  let s ← resolveReservation s reservation item principal .released reason note
  return (s, (s.reservations.get? reservationId).getD reservation)

def lockedGroup (s : Store) (groupId : UUID) (principal : Principal) :
    Except Failure (List InventoryReservation) :=
  match s.listReservationsByGroup groupId with
  | [] => .error (raise 404 "reservation_group_not_found" "Reservation group was not found")
  | r :: rs => do
    require (canResolve r.customerId principal)
      (raise 403 "reservation_forbidden" "Reservation group belongs to another customer")
    return r :: rs

/-- One member of a group that turned out to be expired; a missing item is
passed over. -/
def expireMember (principal : Principal) (s : Store) (reservation : InventoryReservation) :
    Except Failure Store :=
  match s.items.get? reservation.inventoryItemId with
  | none => .ok s
  | some item => resolveReservation s reservation item principal .expired .reservationExpired none

def commitMember (principal : Principal) (groupId : UUID) (s : Store)
    (reservation : InventoryReservation) : Except Failure Store := do
  let item ← orRaise (s.items.get? reservation.inventoryItemId) itemMissing
  commitUnits s reservation item principal reservation.orderReference "reservation_group"
    (UUID.str groupId)

def releaseMember (principal : Principal) (reason : MovementReason) (note : Option String)
    (s : Store) (reservation : InventoryReservation) : Except Failure Store := do
  let item ← orRaise (s.items.get? reservation.inventoryItemId) itemMissing
  resolveReservation s reservation item principal .released reason note

def commitReservationGroup (now : DateTime) (s : Store) (groupId : UUID) (principal : Principal) :
    Except Failure (Store × Except ServiceError (List InventoryReservation)) := do
  let reservations ← lockedGroup s groupId principal
  if ∀ r ∈ reservations, r.status = .committed then return (s, .ok reservations)
  else do
    require (∀ r ∈ reservations, r.status = .active) (raise 409 "reservation_group_not_active"
      "Reservation group is not fully active and cannot be committed")
    if reservations.any fun r => isExpired r.expiresAt now then do
      let s ← reservations.foldlM (expireMember principal) s
      return (s, .error ⟨409, "reservation_expired",
        "Reservation group expired before it could be committed"⟩)
    else do
      let s ← reservations.foldlM (commitMember principal groupId) s
      return (s, .ok (s.listReservationsByGroup groupId))

def releaseReservationGroup (s : Store) (groupId : UUID) (reason : MovementReason)
    (note : Option String) (principal : Principal) :
    Except Failure (Store × List InventoryReservation) := do
  let reservations ← lockedGroup s groupId principal
  if ∀ r ∈ reservations, r.status = .released then return (s, reservations)
  else do
    require (∀ r ∈ reservations, r.status = .active) (raise 409 "reservation_group_not_active"
      "Reservation group is not fully active and cannot be released")
    let s ← reservations.foldlM (releaseMember principal reason note) s
    return (s, s.listReservationsByGroup groupId)

/-- One reservation of the sweep, inside its savepoint: whatever goes wrong with
it, the sweep goes on with the next. -/
def sweepReservation (principal : Principal) (st : Store × Nat)
    (reservation : InventoryReservation) : Store × Nat :=
  match st.1.items.get? reservation.inventoryItemId with
  | none => st
  | some item =>
    match resolveReservation st.1 reservation item principal .expired .reservationExpired none with
    | .ok s => (s, st.2 + 1)
    | .error _ => st

def expireReservations (now : DateTime) (s : Store) (principal : Principal) (limit : Nat)
    (tie : UUID → Nat) : Store × Nat :=
  (s.listExpiredActive now limit tie).foldl (sweepReservation principal) (s, 0)

/-! ## Requests -/

inductive Request
  | createWarehouse (data : WarehouseCreate)
  | updateWarehouse (warehouseId : UUID) (data : WarehouseUpdate) (expectedVersion : Nat)
  | syncCatalogSku (data : CatalogSkuSync)
  | createItem (data : InventoryItemCreate) (principal : Principal)
      (idempotencyKey : Option String)
  | updateItem (itemId : UUID) (data : InventoryItemUpdate) (expectedVersion : Nat)
      (principal : Principal)
  | adjustStock (itemId : UUID) (data : StockAdjustment) (expectedVersion : Nat)
      (principal : Principal) (idempotencyKey : Option String)
  | createReservation (data : ReservationCreate) (principal : Principal)
      (idempotencyKey : Option String)
  | createBatchReservation (data : BatchReservationCreate) (principal : Principal)
      (idempotencyKey : Option String)
  | commitReservation (reservationId : UUID) (data : ReservationCommit) (principal : Principal)
  | releaseReservation (reservationId : UUID) (data : ReservationRelease) (principal : Principal)
  | commitReservationGroup (groupId : UUID) (principal : Principal)
  | releaseReservationGroup (groupId : UUID) (data : ReservationRelease) (principal : Principal)
  | expireReservations (principal : Principal) (limit : Nat) (tie : UUID → Nat)

/-- The batch a request is about. -/
def Request.batch : Request → Option BatchReservationCreate
  | .createBatchReservation data _ _ => some data
  | _ => none

/-- The store a request commits. -/
def execute (env : Env) (now : DateTime) (s : Store) : Request → Except Failure Store
  | .createWarehouse data => Prod.fst <$> createWarehouse env s data
  | .updateWarehouse id data version => Prod.fst <$> updateWarehouse s id data version
  | .syncCatalogSku data => Prod.fst <$> syncCatalogSku s data
  | .createItem data principal key => Prod.fst <$> createItem env s data principal key
  | .updateItem id data version principal => Prod.fst <$> updateItem s id data version principal
  | .adjustStock id data version principal key =>
    Prod.fst <$> adjustStock env s id data version principal key
  | .createReservation data principal key =>
    Prod.fst <$> createReservation env now s data principal key
  | .createBatchReservation data principal key =>
    Prod.fst <$> createBatchReservation env now s data principal key
  | .commitReservation id data principal =>
    Prod.fst <$> commitReservation now s id data.orderReference principal
  | .releaseReservation id data principal =>
    Prod.fst <$> releaseReservation s id data.reason data.note principal
  | .commitReservationGroup id principal => Prod.fst <$> commitReservationGroup now s id principal
  | .releaseReservationGroup id data principal =>
    Prod.fst <$> releaseReservationGroup s id data.reason data.note principal
  | .expireReservations principal limit tie =>
    .ok (expireReservations now s principal limit tie).1

/-- A request at a time.  One that fails leaves the store as it was. -/
def step (env : Env) (s : Store) (call : DateTime × Request) : Store :=
  match execute env call.1 s call.2 with
  | .ok s' => s'
  | .error _ => s

end Inventory
end Marketplace
