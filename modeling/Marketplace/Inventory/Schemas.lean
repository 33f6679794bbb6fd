import Marketplace.Inventory.Model

/-!
# Inventory: the request bodies

A request body that passed validation carries the bounds it was checked against,
so the service never meets a non-positive quantity or a repeated batch line.
-/

namespace Marketplace
namespace Inventory

/-- `str.upper()` on one character.  The pattern of an SKU keeps ASCII only, so
of the characters outside ASCII only those whose upper-case form is ASCII are
told apart; any other is refused whichever form it takes. -/
def upperChar (c : Char) : List Char :=
  match c with
  | 'ß' => ['S', 'S']
  | 'ı' => ['I']
  | 'ſ' => ['S']
  | 'ﬀ' => ['F', 'F']
  | 'ﬁ' => ['F', 'I']
  | 'ﬂ' => ['F', 'L']
  | 'ﬃ' => ['F', 'F', 'I']
  | 'ﬄ' => ['F', 'F', 'L']
  | 'ﬅ' => ['S', 'T']
  | 'ﬆ' => ['S', 'T']
  | c => [c.toUpper]

def normalizeUpper (value : String) : String :=
  String.ofList ((strip value).toList.flatMap upperChar)

/-- `SKU_PATTERN`, one character at a time. -/
def skuChar (c : Char) : Bool := c.isAlphanum || c == '.' || c == '_' || c == '-'

def ValidSku (s : String) : Prop :=
  2 ≤ s.length ∧ s.length ≤ 80 ∧ s.toList.all skuChar = true

instance (s : String) : Decidable (ValidSku s) := inferInstanceAs (Decidable (_ ∧ _ ∧ _))

abbrev Sku := { s : String // ValidSku s }

def Sku.parse (value : String) : Option Sku :=
  let s := normalizeUpper value
  if h : ValidSku s then some ⟨s, h⟩ else none

/-- `WAREHOUSE_CODE_PATTERN`, one character at a time. -/
def codeChar (c : Char) : Bool := c.isAlphanum || c == '_' || c == '-'

structure WarehouseCreate where
  code : String
  name : String
  addressReference : Option String
  isActive : Bool
  code_valid : 2 ≤ code.length ∧ code.length ≤ 40 ∧ code.toList.all codeChar = true
  name_valid : 2 ≤ name.length ∧ name.length ≤ 160
  address_valid : ∀ a ∈ addressReference, a.length ≤ 200

structure WarehouseUpdate where
  name : Patch String
  addressReference : Patch String
  isActive : Patch Bool
  name_valid : ∀ n, name = .set n → 2 ≤ n.length ∧ n.length ≤ 160
  address_valid : ∀ a, addressReference = .set a → a.length ≤ 200
  non_empty : ¬(name.isUnset ∧ addressReference.isUnset ∧ isActive.isUnset)

structure CatalogSkuSync where
  productId : UUID
  variantId : UUID
  sellerId : UUID
  sku : Sku
  isActive : Bool

structure InventoryItemCreate where
  warehouseId : UUID
  productId : UUID
  variantId : UUID
  sku : Sku
  initialQuantity : Int
  lowStockThreshold : Int
  isActive : Bool
  initial_valid : 0 ≤ initialQuantity ∧ initialQuantity ≤ 1000000000
  threshold_valid : 0 ≤ lowStockThreshold ∧ lowStockThreshold ≤ 1000000

structure InventoryItemUpdate where
  lowStockThreshold : Patch Int
  isActive : Patch Bool
  threshold_valid : ∀ n, lowStockThreshold = .set n → 0 ≤ n ∧ n ≤ 1000000
  non_empty : ¬(lowStockThreshold.isUnset ∧ isActive.isUnset)

structure StockAdjustment where
  quantityDelta : Int
  reason : MovementReason
  referenceType : Option String
  referenceId : Option String
  note : Option String
  delta_valid : -1000000000 ≤ quantityDelta ∧ quantityDelta ≤ 1000000000
  non_zero : quantityDelta ≠ 0

structure ReservationCreate where
  inventoryItemId : UUID
  quantity : Int
  cartReference : Option String
  expiresAt : Option DateTime
  quantity_valid : 0 < quantity ∧ quantity ≤ 1000000

structure ReservationCommit where
  orderReference : String
  reference_valid : 1 ≤ orderReference.length ∧ orderReference.length ≤ 120

structure ReservationRelease where
  reason : MovementReason := .customerCancelled
  note : Option String := none
  note_valid : ∀ n ∈ note, n.length ≤ 2000

structure BatchReservationLine where
  sku : Sku
  sellerId : UUID
  quantity : Int
  quantity_valid : 0 < quantity ∧ quantity ≤ 1000000
  deriving DecidableEq

def BatchReservationLine.pair (line : BatchReservationLine) : UUID × String :=
  (line.sellerId, line.sku)

structure BatchReservationCreate where
  customerId : UUID
  cartReference : Option String
  orderReference : Option String
  expiresAt : Option DateTime
  lines : List BatchReservationLine
  lines_valid : 1 ≤ lines.length ∧ lines.length ≤ 100
  unique_lines : (lines.map BatchReservationLine.pair).Nodup

def BatchReservationLine.parse (sku : String) (sellerId : UUID) (quantity : Int) :
    Option BatchReservationLine := do
  let sku ← Sku.parse sku
  if h : 0 < quantity ∧ quantity ≤ 1000000 then some ⟨sku, sellerId, quantity, h⟩ else none

def BatchReservationCreate.parse (customerId : UUID) (cartReference orderReference : Option String)
    (expiresAt : Option DateTime) (lines : List (String × UUID × Int)) :
    Option BatchReservationCreate := do
  let lines ← lines.mapM fun (sku, sellerId, quantity) =>
    BatchReservationLine.parse sku sellerId quantity
  if (∃ r ∈ cartReference, 120 < r.length) ∨ ∃ r ∈ orderReference, 120 < r.length then none
  else if h : (1 ≤ lines.length ∧ lines.length ≤ 100) ∧
      (lines.map BatchReservationLine.pair).Nodup then
    some ⟨customerId, cartReference, orderReference, expiresAt, lines, h.1, h.2⟩
  else none

/-- `optional_idempotency_key`: the header without its surrounding space. -/
def idempotencyHeader (value : String) : Option String :=
  let value := strip value
  if 8 ≤ value.length ∧ value.length ≤ 100 then some value else none

/-- The text a request hash is taken of. -/
inductive RequestBody
  | createItem (data : InventoryItemCreate)
  | adjustStock (itemId : UUID) (data : StockAdjustment) (expectedVersion : Nat)
  | createReservation (data : ReservationCreate)
  | createBatchReservation (data : BatchReservationCreate)

structure Settings where
  defaultReservationMinutes : Nat
  maxReservationMinutes : Nat
  default_valid : 1 ≤ defaultReservationMinutes ∧ defaultReservationMinutes ≤ 60
  max_valid : 1 ≤ maxReservationMinutes ∧ maxReservationMinutes ≤ 1440

/-- What the service reads from outside its database: the identifiers `uuid4`
returns, its settings, and the digest of a request body. -/
structure Env where
  uuid4 : Supply
  settings : Settings
  requestHash : RequestBody → String

end Inventory
end Marketplace
