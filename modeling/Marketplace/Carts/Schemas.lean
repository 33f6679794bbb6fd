import Marketplace.Carts.Model

/-!
# Carts: headers, request bodies and the answers of other services
-/

namespace Marketplace
namespace Carts

open Base

/-! ## Headers -/

/-- The header `X-Cart-Token`, and the field `guest_cart_token` of a merge. -/
structure GuestToken where
  text : String
  length_valid : 32 ≤ text.length ∧ text.length ≤ 200

structure IdempotencyKey where
  text : String
  length_valid : 8 ≤ text.length ∧ text.length ≤ 100

/-- The header `If-Match-Version`. -/
structure Version where
  value : Nat
  positive : 1 ≤ value

/-- Who a request comes from; an access token counts before a guest token. -/
structure Caller where
  principal : Option Principal
  guestToken : Option GuestToken

/-! ## Bodies -/

structure CartItemCreate where
  productId : UUID
  variantId : UUID
  quantity : Int
  quantity_valid : 1 ≤ quantity ∧ quantity ≤ 1000

structure CartItemUpdate where
  quantity : Int
  quantity_valid : 1 ≤ quantity ∧ quantity ≤ 1000

structure MarkCheckedOutRequest where
  orderId : UUID
  customerId : UUID

/-! ## Answers of the other services -/

structure ProductVariant where
  id : UUID
  isActive : Bool
  sku : String
  name : String
  priceAmount : ℚ
  currencyCode : String
  version : Int

structure ProductImage where
  url : String
  sortOrder : Int

structure Product where
  name : String
  variants : List ProductVariant
  images : List ProductImage

structure Availability where
  availableQuantity : Int
  isAvailable : Bool

/-- What the Product and the Inventory Service answer while a request is served,
or nothing: the product, asked for on behalf of a variant, and the availability of
some units of a SKU. -/
structure Peers where
  product : UUID → UUID → Option (Reply Product)
  availability : String → Int → Option (Reply Availability)

structure ProductSnapshot where
  productId : UUID
  variantId : UUID
  sku : String
  productName : String
  variantName : String
  imageUrl : Option String
  unitPrice : ℚ
  currencyCode : String
  productVersion : Int

/-! ## Responses -/

structure AvailabilityLine where
  itemId : UUID
  sku : String
  requestedQuantity : Int
  availableQuantity : Int
  isAvailable : Bool

structure CheckoutReadinessResponse where
  cartId : UUID
  ready : Bool
  priceChanged : Bool
  unavailableItems : List AvailabilityLine
  items : List AvailabilityLine
  subtotal : ℚ
  currencyCode : String

/-- `line_total`; the context of Python is wide enough for it to be exact. -/
def CartItem.lineTotal (item : CartItem) : ℚ := ofHundredths item.unitPrice * item.quantity

/-- `CartResponse.subtotal` -/
def Cart.subtotal (cart : Cart) : ℚ := (cart.items.rows.map CartItem.lineTotal).sum

/-! ## Settings -/

structure Settings where
  cartTtlDays : Nat
  guestCartTtlDays : Nat
  maxDistinctItems : Nat
  maxItemQuantity : Nat
  ttl_valid : 1 ≤ cartTtlDays ∧ cartTtlDays ≤ 365
  guest_ttl_valid : 1 ≤ guestCartTtlDays ∧ guestCartTtlDays ≤ 30
  distinct_valid : 1 ≤ maxDistinctItems ∧ maxDistinctItems ≤ 500
  quantity_valid : 1 ≤ maxItemQuantity ∧ maxItemQuantity ≤ 1000

/-- The surroundings of the service.  `tokenUrlsafe` are the guest tokens in the
order in which they are handed out; no two of them hash alike. -/
structure Env where
  uuid4 : Supply
  settings : Settings
  requestHash : CartItemCreate → String
  tokenUrlsafe : Nat → String
  tokenHash : String → String
  tokens_distinct : Function.Injective fun n => tokenHash (tokenUrlsafe n)

end Carts
end Marketplace
