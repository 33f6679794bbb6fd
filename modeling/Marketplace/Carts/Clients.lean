import Marketplace.Carts.Schemas

/-!
# Carts: clients of the other services

What `ProductClient` and `InventoryClient` make of an answer.
-/

namespace Marketplace
namespace Carts

open Base

/-- The image the Product Service sorts first. -/
def Product.cover (product : Product) : Option String :=
  (product.images.insertionSort fun a b => a.sortOrder ≤ b.sortOrder).head?.map ProductImage.url

/-- `ProductClient.get_snapshot` -/
def Peers.getSnapshot (peers : Peers) (productId variantId : UUID) :
    Except Failure ProductSnapshot := do
  match peers.product productId variantId with
  | none =>
    throw (raise 503 "product_service_unavailable" "Product Service is unavailable")
  | some (.refused code) =>
    if code = 404 then throw (raise 422 "product_not_available" "Product is not active")
    else throw (raise 502 "product_service_error" "Product lookup failed")
  | some (.ok product) =>
    let unavailable := raise 422 "variant_not_available" "Variant is not active"
    let variant ← orRaise (product.variants.find? fun v => v.id = variantId) unavailable
    require (variant.isActive = true) unavailable
    return { productId := productId, variantId := variantId, sku := variant.sku
             productName := product.name, variantName := variant.name
             imageUrl := product.cover, unitPrice := variant.priceAmount
             currencyCode := variant.currencyCode, productVersion := variant.version }

/-- `InventoryClient.availability` -/
def Peers.getAvailability (peers : Peers) (sku : String) (quantity : Int) :
    Except Failure Availability :=
  match peers.availability sku quantity with
  | none =>
    .error (raise 503 "inventory_service_unavailable" "Inventory Service is unavailable")
  | some (.refused _) => .error (raise 502 "inventory_service_error" "Availability lookup failed")
  | some (.ok data) => .ok data

/-! ## Storing a snapshot -/

/-- The columns of a snapshot, as the database stores them. -/
def ProductSnapshot.columns (snapshot : ProductSnapshot) : Except Failure ProductColumns := do
  let sku ← textColumn "sku" 80 snapshot.sku
  let productName ← textColumn "product_name" 240 snapshot.productName
  let variantName ← textColumn "variant_name" 200 snapshot.variantName
  let imageUrl ← snapshot.imageUrl.mapM (textColumn "image_url" 1000)
  let currencyCode ← textColumn "currency_code" 3 snapshot.currencyCode
  let unitPrice ← priceColumn snapshot.unitPrice
  return { productId := snapshot.productId, variantId := snapshot.variantId, sku := sku
           productName := productName, variantName := variantName, imageUrl := imageUrl
           unitPrice := unitPrice.1, currencyCode := currencyCode
           unit_price_non_negative := unitPrice.2 }

/-- `_apply_snapshot` -/
def applySnapshot (item : CartItem) (snapshot : ProductSnapshot) : Except Failure CartItem := do
  let columns ← snapshot.columns
  let productVersion ← integerColumn "product_version" snapshot.productVersion
  return { item with toProductColumns := columns, productVersion := productVersion }

/-- A new item with the columns of a snapshot. -/
def newItem (id : UUID) (quantity : Int) (positive : 0 < quantity) (snapshot : ProductSnapshot) :
    Except Failure CartItem := do
  let columns ← snapshot.columns
  let productVersion ← integerColumn "product_version" snapshot.productVersion
  return { toProductColumns := columns, id := id, quantity := quantity
           productVersion := productVersion, quantity_positive := positive }

end Carts
end Marketplace
