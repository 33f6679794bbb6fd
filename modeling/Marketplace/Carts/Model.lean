import Marketplace.Common

/-!
# Carts: the tables

The rows of the Cart Service.  A cart belongs to a customer or to whoever holds
its guest token, of which only the hash is stored.  Its items and saved items are
kept with it, at most one of each for a variant.  Prices are `numeric(12, 2)`
columns, kept as whole hundredths.  The audit log, the outbox and the timestamps
are left out; no operation reads them.
-/

namespace Marketplace
namespace Carts

open Base

inductive CartStatus
  | active
  | checkedOut
  | abandoned
  | expired
  | merged
  deriving DecidableEq

/-- The columns an item and a saved item copy from the product. -/
structure ProductColumns where
  productId : UUID
  variantId : UUID
  sku : String
  productName : String
  variantName : String
  imageUrl : Option String
  unitPrice : Int
  currencyCode : String
  unit_price_non_negative : 0 ≤ unitPrice
  deriving DecidableEq

structure CartItem extends ProductColumns where
  id : UUID
  quantity : Int
  productVersion : Int
  version : Nat := 1
  quantity_positive : 0 < quantity
  deriving DecidableEq

structure SavedItem extends ProductColumns where
  id : UUID
  deriving DecidableEq

/-- The unique constraint `uq_cart_items_variant`. -/
def CartItem.variant (item : CartItem) : UUID := item.variantId

/-- The unique constraint `uq_saved_items_variant`. -/
def SavedItem.variant (item : SavedItem) : UUID := item.variantId

structure Cart where
  id : UUID
  customerId : Option UUID := none
  guestTokenHash : Option String := none
  status : CartStatus := .active
  currencyCode : String := "USD"
  expiresAt : DateTime
  mergedIntoCartId : Option UUID := none
  items : Table CartItem.variant := .empty
  savedItems : Table SavedItem.variant := .empty
  version : Nat := 1

/-- Who sent a request, as its idempotency record names them. -/
inductive Actor
  | customer (id : UUID)
  | guest (tokenHash : String)
  deriving DecidableEq

structure IdempotencyRecord where
  actor : Actor
  idempotencyKey : String
  requestHash : String
  resourceId : Option UUID
  deriving DecidableEq

/-- The unique constraint `uq_idempotency_actor_key`. -/
def IdempotencyRecord.actorKey (record : IdempotencyRecord) : Actor × String :=
  (record.actor, record.idempotencyKey)

/-- The database, how many identifiers and guest tokens have been drawn, and the
expiry sweeps that have read the carts they will close: each with its version. -/
structure Store where
  carts : Table Cart.id
  idempotency : Table IdempotencyRecord.actorKey
  drawn : Nat
  tokens : Nat
  sweeps : List (List (UUID × Nat))

namespace Store

def empty : Store := ⟨Table.empty, Table.empty, 0, 0, []⟩

/-! ## The repository -/

/-- `get_active_customer_cart` -/
def activeCustomerCart (s : Store) (customerId : UUID) : Option Cart :=
  s.carts.rows.find? fun cart => cart.customerId = some customerId ∧ cart.status = .active

/-- `get_guest_cart` -/
def guestCart (s : Store) (tokenHash : String) : Option Cart :=
  s.carts.rows.find? fun cart => cart.guestTokenHash = some tokenHash ∧ cart.status = .active

/-- `get_idempotency` -/
def getIdempotency (s : Store) (actor : Actor) (key : String) : Option IdempotencyRecord :=
  s.idempotency.get? (actor, key)

/-- Insert a cart, under the unique indexes of the table. -/
def addCart (s : Store) (cart : Cart) : Except Failure Store := do
  require (∀ c ∈ s.carts.rows, c.customerId = cart.customerId → c.customerId = none ∨
    c.status ≠ .active) (.integrity "uq_active_cart_customer")
  require (∀ c ∈ s.carts.rows, c.guestTokenHash = cart.guestTokenHash → c.guestTokenHash = none)
    (.integrity "ix_carts_guest_token")
  let carts ← orRaise (s.carts.insert? cart) (.integrity "pk_carts")
  return { s with carts := carts, drawn := s.drawn + 1 }

/-- The first half of `expire_due`: the carts to close. -/
def due (s : Store) (now : DateTime) : List (UUID × Nat) :=
  (s.carts.rows.filter fun cart => cart.status = .active ∧ cart.expiresAt ≤ now).map fun cart =>
    (cart.id, cart.version)

/-- Its second half writes the columns it assigned, on whatever row is stored by
then. -/
def expire (s : Store) (read : UUID × Nat) : Store :=
  match s.carts.get? read.1 with
  | some row => { s with carts := s.carts.put { row with status := .expired, version := read.2 + 1 } }
  | none => s

end Store

/-! ## Columns -/

/-- The `unit_price` column: `numeric(12, 2)`, under its check constraint. -/
def priceColumn (x : ℚ) : Except Failure { n : Int // 0 ≤ n } :=
  let n := toHundredths x
  if -10 ^ 12 < n ∧ n < 10 ^ 12 then
    if h : 0 ≤ n then .ok ⟨n, h⟩ else .error (.integrity "ck_cart_items_unit_price_non_negative")
  else .error (.data "unit_price")

end Carts
end Marketplace
