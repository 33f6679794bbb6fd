import Marketplace.Orders.Schemas

/-!
# Orders: clients of the other services

What `CartClient`, `ProductClient` and `InventoryClient` make of an answer.  A
call to Inventory commits there whatever becomes of the order, so it returns
the new inventory store in every case.
-/

namespace Marketplace
namespace Orders

open Base

/-- `CartClient.snapshot` -/
def CartReply.snapshot (reply : CartReply) (cartId : UUID) (version : Nat) :
    Except ServiceError CartSnapshot := do
  require (reply.cartStatus < 400) ⟨422, "cart_not_available", "Cart could not be loaded"⟩
  require (reply.cart.id = cartId) ⟨409, "cart_mismatch", "Requested cart is not the active cart"⟩
  require (reply.cart.version = version) ⟨409, "cart_version_conflict", "Cart has changed"⟩
  require (reply.readyStatus < 400) ⟨422, "cart_not_ready", "Cart readiness check failed"⟩
  require (reply.ready ∧ ¬reply.priceChanged)
    ⟨409, "cart_not_ready", "Cart price or availability changed"⟩
  return reply.cart

/-- `ProductClient.seller_for_product` -/
def CheckoutReplies.sellerForProduct (replies : CheckoutReplies) (productId : UUID) :
    Except ServiceError UUID :=
  orRaise (replies.owner productId) ⟨422, "product_not_available", "Product is not available"⟩

structure BatchReservationRequest where
  customerId : UUID
  cartReference : String
  orderReference : String
  expiresAt : DateTime
  lines : List (String × UUID × Int)

/-- The body as Inventory validates it. -/
def BatchReservationRequest.validate (data : BatchReservationRequest) :
    Option Inventory.BatchReservationCreate :=
  Inventory.BatchReservationCreate.parse data.customerId (some data.cartReference)
    (some data.orderReference) (some data.expiresAt) data.lines

/-- `InventoryClient.reserve_batch` -/
def reserveBatch (env : Inventory.Env) (now : DateTime) (inventory : Inventory.Store)
    (data : BatchReservationRequest) (token : Principal) (idempotencyKey : String) :
    Inventory.Store × Except ServiceError UUID :=
  match Inventory.createReservationBatch env now inventory data.validate token idempotencyKey with
  | (inventory, .ok groupId) => (inventory, .ok groupId)
  | (inventory, .refused code) =>
    if code = 409 ∨ code = 422 then
      (inventory, .error ⟨409, "inventory_unavailable", "Stock could not be reserved"⟩)
    else (inventory, .error ⟨502, "inventory_error", "Inventory reservation failed"⟩)

/-- `InventoryClient.commit_group` -/
def commitGroup (now : DateTime) (inventory : Inventory.Store) (groupId : UUID)
    (token : Principal) : Inventory.Store × Except ServiceError Unit :=
  match Inventory.commitReservationBatch now inventory groupId token with
  | (inventory, .ok _) => (inventory, .ok ())
  | (inventory, .refused _) =>
    (inventory, .error ⟨502, "inventory_commit_failed", "Inventory commit failed"⟩)

/-- `InventoryClient.release_group`: a conflict counts as released. -/
def releaseGroup (inventory : Inventory.Store) (groupId : UUID) (reason : String)
    (token : Principal) : Inventory.Store × Except ServiceError Unit :=
  match Inventory.releaseReservationBatch inventory groupId .customerCancelled reason token with
  | (inventory, .ok _) => (inventory, .ok ())
  | (inventory, .refused code) =>
    if code = 409 then (inventory, .ok ())
    else (inventory, .error ⟨502, "inventory_release_failed", "Inventory release failed"⟩)

end Orders
end Marketplace
