import Marketplace.Carts.Clients

/-!
# Carts: the service

`CartService`, one definition for each method.  A request runs in one transaction,
and a request that fails leaves the database as it was.  A change locks the cart it
works on; a customer's first request, which finds no cart to lock, and `GET /cart`
lock nothing.  Requests are served one at a time here, so what two of these do to
each other when they overlap is left out.  Only the expiry sweep, which reads
without a lock, is cut in two, and other requests may come in between.
-/

namespace Marketplace
namespace Carts

open Base

/-! ## The cart of a request -/

def days (n : Nat) : Int := n * 86400000000

/-- `_expires_at` -/
def expiresAt (env : Env) (now : DateTime) (guest : Bool) : DateTime :=
  now + days (if guest then env.settings.guestCartTtlDays else env.settings.cartTtlDays)

/-- `_assert_active` -/
def assertActive (now : DateTime) (cart : Cart) : Except Failure Unit := do
  require (cart.status = .active) (raise 409 "cart_not_active" "Cart is not active")
  require (now < cart.expiresAt) (raise 410 "cart_expired" "Cart has expired")

/-- `_assert_version` -/
def assertVersion (cart : Cart) (expectedVersion : Nat) : Except Failure Unit :=
  let current := cart.version
  require (cart.version = expectedVersion) (raise 409 "version_conflict"
    s!"Expected cart version {expectedVersion}; current version is {current}")

def identityRequired : Failure :=
  raise 401 "cart_identity_required" "Sign in or provide X-Cart-Token"

/-- `_actor_key` -/
def actorKey (env : Env) (caller : Caller) : Except Failure Actor :=
  match caller.principal, caller.guestToken with
  | some principal, _ => .ok (.customer principal.subject)
  | none, some token => .ok (.guest (env.tokenHash token.text))
  | none, none => .error identityRequired

def createGuestCart (env : Env) (now : DateTime) (s : Store) :
    Except Failure (Store × String × Cart) := do
  let rawToken := env.tokenUrlsafe s.tokens
  let cart : Cart := {
    id := env.uuid4.value s.drawn
    guestTokenHash := some (env.tokenHash rawToken)
    expiresAt := expiresAt env now true }
  let s ← s.addCart cart
  return ({ s with tokens := s.tokens + 1 }, rawToken, cart)

/-- The cart a customer works on: the active one, or a new one. -/
def customerCart (env : Env) (now : DateTime) (s : Store) (customerId : UUID) :
    Except Failure (Store × Cart) :=
  match s.activeCustomerCart customerId with
  | some cart => .ok (s, cart)
  | none => do
    let cart : Cart := {
      id := env.uuid4.value s.drawn
      customerId := some customerId
      expiresAt := expiresAt env now false }
    let s ← s.addCart cart
    return (s, cart)

def guestCartNotFound : Failure := raise 404 "guest_cart_not_found" "Guest cart was not found"

/-- The cart a caller names. -/
def findCart (env : Env) (now : DateTime) (s : Store) (caller : Caller) :
    Except Failure (Store × Cart) :=
  match caller.principal, caller.guestToken with
  | some principal, _ => customerCart env now s principal.subject
  | none, some token => do
    let cart ← orRaise (s.guestCart (env.tokenHash token.text)) guestCartNotFound
    return (s, cart)
  | none, none => .error identityRequired

def resolveCart (env : Env) (now : DateTime) (s : Store) (caller : Caller) :
    Except Failure (Store × Cart) := do
  let (s, cart) ← findCart env now s caller
  assertActive now cart
  return (s, cart)

/-! ## Editing a cart -/

/-- What the operations on one cart share: find the cart, check that it is the
version the caller has seen, change it, and count the version up.  `change` is
given the number of identifiers drawn so far. -/
def editCart (env : Env) (now : DateTime) (s : Store) (caller : Caller) (expectedVersion : Version)
    (change : Nat → Cart → Except Failure (Nat × Cart)) : Except Failure (Store × Cart) := do
  let (s, cart) ← resolveCart env now s caller
  assertVersion cart expectedVersion.value
  let (drawn, cart) ← change s.drawn cart
  let cart := { cart with version := cart.version + 1 }
  return ({ s with carts := s.carts.put cart, drawn := drawn }, cart)

def quantityLimit : Failure :=
  raise 422 "quantity_limit" "Item quantity exceeds the cart limit"

def Cart.findItem (cart : Cart) (itemId : UUID) : Except Failure CartItem :=
  orRaise (cart.items.rows.find? fun item => item.id = itemId)
    (raise 404 "cart_item_not_found" "Cart item was not found")

def Cart.findSaved (cart : Cart) (savedItemId : UUID) : Except Failure SavedItem :=
  orRaise (cart.savedItems.rows.find? fun saved => saved.id = savedItemId)
    (raise 404 "saved_item_not_found" "Saved item was not found")

/-- The same item with another quantity and the next version. -/
def CartItem.setQuantity (item : CartItem) (quantity : Int) (positive : 0 < quantity) : CartItem :=
  { item with quantity := quantity, version := item.version + 1, quantity_positive := positive }

/-- More units of an item. -/
def CartItem.addUnits (item : CartItem) (units : Int) (positive : 0 < units) : CartItem :=
  item.setQuantity (item.quantity + units) (Int.add_pos item.quantity_positive positive)

/-- The rest of `add_item`, on the cart that was found. -/
def addToCart (env : Env) (now : DateTime) (data : CartItemCreate) (caller : Caller) (peers : Peers)
    (drawn : Nat) (cart : Cart) : Except Failure (Nat × Cart) := do
  require (data.quantity ≤ env.settings.maxItemQuantity) quantityLimit
  let snapshot ← peers.getSnapshot data.productId data.variantId
  let (drawn, cart) ← match cart.items.get? data.variantId with
    | some existing => do
      require (existing.quantity + data.quantity ≤ env.settings.maxItemQuantity) quantityLimit
      let item ← applySnapshot (existing.addUnits data.quantity data.quantity_valid.1) snapshot
      pure (drawn, { cart with items := cart.items.put item })
    | none => do
      require (cart.items.rows.length < env.settings.maxDistinctItems)
        (raise 422 "cart_item_limit" "Cart has too many distinct items")
      require (cart.items.rows = [] ∨ cart.currencyCode = snapshot.currencyCode)
        (raise 422 "currency_mismatch" "Cart cannot mix currencies")
      let item ← newItem (env.uuid4.value drawn) data.quantity data.quantity_valid.1 snapshot
      let items ← orRaise (cart.items.insert? item) (.integrity "uq_cart_items_variant")
      pure (drawn + 1, { cart with items := items, currencyCode := snapshot.currencyCode })
  return (drawn, { cart with expiresAt := expiresAt env now caller.principal.isNone })

/-- The cart an earlier request with the same key went to. -/
def replayed (env : Env) (s : Store) (actor : Actor) (key : Option IdempotencyKey)
    (data : CartItemCreate) : Except Failure (Option Cart) := do
  let previous := key.bind fun key => s.getIdempotency actor key.text
  require (∀ record ∈ previous, record.requestHash = env.requestHash data)
    (raise 409 "idempotency_conflict" "Key was used for another request")
  return (previous.bind fun record => record.resourceId).bind s.carts.get?

/-- Remember the key of a request, if it has one. -/
def remember (env : Env) (s : Store) (actor : Actor) (key : Option IdempotencyKey)
    (data : CartItemCreate) (cart : Cart) : Except Failure Store :=
  match key with
  | none => .ok s
  | some key => do
    let idempotency ← orRaise
      (s.idempotency.insert? ⟨actor, key.text, env.requestHash data, some cart.id⟩)
      (.integrity "uq_idempotency_actor_key")
    return { s with idempotency := idempotency }

def addItem (env : Env) (now : DateTime) (s : Store) (data : CartItemCreate) (caller : Caller)
    (expectedVersion : Version) (key : Option IdempotencyKey) (peers : Peers) :
    Except Failure (Store × Cart) := do
  let actor ← actorKey env caller
  match ← replayed env s actor key data with
  | some cart => return (s, cart)
  | none => do
    let (s, cart) ←
      editCart env now s caller expectedVersion (addToCart env now data caller peers)
    let s ← remember env s actor key data cart
    return (s, cart)

def updateQuantity (env : Env) (now : DateTime) (s : Store) (itemId : UUID) (data : CartItemUpdate)
    (caller : Caller) (expectedVersion : Version) : Except Failure (Store × Cart) :=
  editCart env now s caller expectedVersion fun drawn cart => do
    require (data.quantity ≤ env.settings.maxItemQuantity) quantityLimit
    let item ← cart.findItem itemId
    return (drawn, { cart with
      items := cart.items.put (item.setQuantity data.quantity data.quantity_valid.1) })

def removeItem (env : Env) (now : DateTime) (s : Store) (itemId : UUID) (caller : Caller)
    (expectedVersion : Version) : Except Failure (Store × Cart) :=
  editCart env now s caller expectedVersion fun drawn cart => do
    let item ← cart.findItem itemId
    return (drawn, { cart with items := cart.items.erase item.variantId })

def saveForLater (env : Env) (now : DateTime) (s : Store) (itemId : UUID) (caller : Caller)
    (expectedVersion : Version) : Except Failure (Store × Cart) :=
  editCart env now s caller expectedVersion fun drawn cart => do
    let item ← cart.findItem itemId
    let (drawn, savedItems) ← match cart.savedItems.get? item.variantId with
      | some _ => pure (drawn, cart.savedItems)
      | none => do
        let savedItems ← orRaise
          (cart.savedItems.insert? ⟨item.toProductColumns, env.uuid4.value drawn⟩)
          (.integrity "uq_saved_items_variant")
        pure (drawn + 1, savedItems)
    return (drawn, { cart with
      items := cart.items.erase item.variantId
      savedItems := savedItems })

def moveSavedToCart (env : Env) (now : DateTime) (s : Store) (savedItemId : UUID) (caller : Caller)
    (expectedVersion : Version) (peers : Peers) : Except Failure (Store × Cart) :=
  editCart env now s caller expectedVersion fun drawn cart => do
    let saved ← cart.findSaved savedItemId
    let snapshot ← peers.getSnapshot saved.productId saved.variantId
    let (drawn, items) ← match cart.items.get? saved.variantId with
      | some existing => do
        require (existing.quantity < env.settings.maxItemQuantity) quantityLimit
        let item ← applySnapshot (existing.addUnits 1 Int.one_pos) snapshot
        pure (drawn, cart.items.put item)
      | none => do
        let item ← newItem (env.uuid4.value drawn) 1 Int.one_pos snapshot
        let items ← orRaise (cart.items.insert? item) (.integrity "uq_cart_items_variant")
        pure (drawn + 1, items)
    return (drawn, { cart with
      items := items
      savedItems := cart.savedItems.erase saved.variantId })

def deleteSaved (env : Env) (now : DateTime) (s : Store) (savedItemId : UUID) (caller : Caller)
    (expectedVersion : Version) : Except Failure (Store × Cart) :=
  editCart env now s caller expectedVersion fun drawn cart => do
    let saved ← cart.findSaved savedItemId
    return (drawn, { cart with savedItems := cart.savedItems.erase saved.variantId })

def clear (env : Env) (now : DateTime) (s : Store) (caller : Caller) (expectedVersion : Version) :
    Except Failure (Store × Cart) :=
  editCart env now s caller expectedVersion fun drawn cart =>
    return (drawn, { cart with items := .empty })

/-! ## Checkout readiness -/

/-- What a readiness check finds out about an item. -/
structure ItemCheck where
  item : CartItem
  snapshot : ProductSnapshot
  line : AvailabilityLine

/-- The product has another price or version than the item has copied. -/
def ItemCheck.changed (check : ItemCheck) : Bool :=
  ofHundredths check.item.unitPrice ≠ check.snapshot.unitPrice ∨
    check.item.productVersion ≠ check.snapshot.productVersion

def checkItem (peers : Peers) (item : CartItem) : Except Failure ItemCheck := do
  let snapshot ← peers.getSnapshot item.productId item.variantId
  let changed := ofHundredths item.unitPrice ≠ snapshot.unitPrice ∨
    item.productVersion ≠ snapshot.productVersion
  -- The availability is asked for under the SKU the item has by then.
  let sku := if changed then snapshot.sku else item.sku
  let answer ← peers.getAvailability sku item.quantity
  return ⟨item, snapshot, ⟨item.id, sku, item.quantity, answer.availableQuantity,
    answer.isAvailable⟩⟩

/-- Copy the product again where it has changed. -/
def refreshItem (items : Table CartItem.variant) (check : ItemCheck) :
    Except Failure (Table CartItem.variant) :=
  if check.changed then do
    let item ← applySnapshot { check.item with version := check.item.version + 1 } check.snapshot
    return items.put item
  else .ok items

/-- A price that has not changed is the one the product has. -/
def ItemCheck.total (check : ItemCheck) : ℚ := check.snapshot.unitPrice * check.item.quantity

def readiness (env : Env) (now : DateTime) (s : Store) (caller : Caller)
    (expectedVersion : Version) (peers : Peers) :
    Except Failure (Store × CheckoutReadinessResponse) := do
  let (resolved, cart) ← resolveCart env now s caller
  assertVersion cart expectedVersion.value
  let checks ← cart.items.rows.mapM (checkItem peers)
  let priceChanged := checks.any ItemCheck.changed
  let items ← checks.foldlM refreshItem cart.items
  -- Without a refresh nothing is committed, not even a cart made on the way.
  let s := if priceChanged then
      { resolved with carts := resolved.carts.put { cart with
          items := items
          version := cart.version + 1 } }
    else s
  let lines := checks.map ItemCheck.line
  let unavailable := lines.filter fun line => !line.isAvailable
  return (s, {
    cartId := cart.id
    ready := !checks.isEmpty && unavailable.isEmpty
    priceChanged := priceChanged
    unavailableItems := unavailable
    items := lines
    subtotal := (checks.map ItemCheck.total).sum
    currencyCode := cart.currencyCode })

/-! ## Merging -/

def mergeLimit (source : CartItem) : Failure :=
  let sku := source.sku
  raise 422 "quantity_limit" s!"Merged quantity for {sku} exceeds the limit"

/-- One turn of the first loop of `merge_guest`. -/
def mergeItem (env : Env) (acc : Nat × Table CartItem.variant) (source : CartItem) :
    Except Failure (Nat × Table CartItem.variant) :=
  match acc.2.get? source.variantId with
  | some target => do
    require (target.quantity + source.quantity ≤ env.settings.maxItemQuantity) (mergeLimit source)
    return (acc.1, acc.2.put (target.addUnits source.quantity source.quantity_positive))
  | none => do
    let items ← orRaise
      (acc.2.insert? { source with id := env.uuid4.value acc.1, version := 1 })
      (.integrity "uq_cart_items_variant")
    return (acc.1 + 1, items)

/-- One turn of the second loop; `existing` is what the customer had saved. -/
def mergeSaved (env : Env) (existing : Table SavedItem.variant)
    (acc : Nat × Table SavedItem.variant) (source : SavedItem) :
    Except Failure (Nat × Table SavedItem.variant) :=
  match existing.get? source.variantId with
  | some _ => .ok acc
  | none => do
    let savedItems ← orRaise (acc.2.insert? { source with id := env.uuid4.value acc.1 })
      (.integrity "uq_saved_items_variant")
    return (acc.1 + 1, savedItems)

def mergeGuest (env : Env) (now : DateTime) (s : Store) (principal : Principal)
    (token : GuestToken) : Except Failure (Store × Cart) := do
  let guest ← orRaise (s.guestCart (env.tokenHash token.text)) guestCartNotFound
  let (s, customer) ← resolveCart env now s ⟨some principal, none⟩
  let (drawn, items) ← guest.items.rows.foldlM (mergeItem env) (s.drawn, customer.items)
  let (drawn, savedItems) ←
    guest.savedItems.rows.foldlM (mergeSaved env customer.savedItems) (drawn, customer.savedItems)
  let guest := { guest with
    status := .merged
    mergedIntoCartId := some customer.id
    guestTokenHash := none
    version := guest.version + 1 }
  let customer := { customer with
    items := items
    savedItems := savedItems
    version := customer.version + 1
    expiresAt := expiresAt env now false }
  return ({ s with carts := (s.carts.put guest).put customer, drawn := drawn }, customer)

/-! ## Closing -/

def markCheckedOut (now : DateTime) (s : Store) (cartId : UUID) (data : MarkCheckedOutRequest) :
    Except Failure (Store × Cart) := do
  let notFound := raise 404 "cart_not_found" "Customer cart was not found"
  let cart ← orRaise (s.carts.get? cartId) notFound
  require (cart.customerId = some data.customerId) notFound
  assertActive now cart
  require (cart.items.rows ≠ []) (raise 409 "empty_cart" "Empty cart cannot be checked out")
  let cart := { cart with status := .checkedOut, version := cart.version + 1 }
  return ({ s with carts := s.carts.put cart }, cart)

/-- The read of `expire_due`. -/
def expireRead (now : DateTime) (s : Store) : Store :=
  { s with sweeps := s.sweeps ++ [s.due now] }

/-- The writes of one of the sweeps that have read. -/
def expireWrite (s : Store) (sweep : Nat) : Store :=
  match s.sweeps[sweep]? with
  | some carts => carts.foldl Store.expire { s with sweeps := s.sweeps.eraseIdx sweep }
  | none => s

/-! ## Requests -/

inductive Request
  | createGuestCart
  | getCart (caller : Caller)
  | addItem (data : CartItemCreate) (caller : Caller) (expectedVersion : Version)
      (key : Option IdempotencyKey) (peers : Peers)
  | updateItem (itemId : UUID) (data : CartItemUpdate) (caller : Caller) (expectedVersion : Version)
  | removeItem (itemId : UUID) (caller : Caller) (expectedVersion : Version)
  | saveForLater (itemId : UUID) (caller : Caller) (expectedVersion : Version)
  | moveSavedToCart (itemId : UUID) (caller : Caller) (expectedVersion : Version) (peers : Peers)
  | deleteSavedItem (itemId : UUID) (caller : Caller) (expectedVersion : Version)
  | checkReadiness (caller : Caller) (expectedVersion : Version) (peers : Peers)
  | mergeGuestCart (token : GuestToken) (principal : Principal)
  | clearCart (caller : Caller) (expectedVersion : Version)
  | markCheckedOut (cartId : UUID) (data : MarkCheckedOutRequest) (principal : Principal)
  | expireRead (principal : Principal)
  | expireWrite (sweep : Nat)

/-- `require_scope` of the internal endpoints. -/
def Request.admitted : Request → Bool
  | .markCheckedOut _ _ principal => principal.hasScope .cartCheckout
  | .expireRead principal => principal.hasScope (.other "cart:expire")
  | _ => true

/-- What a request leaves in the database, if it succeeds. -/
def serve (env : Env) (s : Store) (call : DateTime × Request) : Except Failure Store :=
  let now := call.1
  match call.2 with
  | .createGuestCart => Prod.fst <$> createGuestCart env now s
  | .getCart caller => Prod.fst <$> resolveCart env now s caller
  | .addItem data caller version key peers =>
    Prod.fst <$> addItem env now s data caller version key peers
  | .updateItem itemId data caller version =>
    Prod.fst <$> updateQuantity env now s itemId data caller version
  | .removeItem itemId caller version => Prod.fst <$> removeItem env now s itemId caller version
  | .saveForLater itemId caller version => Prod.fst <$> saveForLater env now s itemId caller version
  | .moveSavedToCart itemId caller version peers =>
    Prod.fst <$> moveSavedToCart env now s itemId caller version peers
  | .deleteSavedItem itemId caller version =>
    Prod.fst <$> deleteSaved env now s itemId caller version
  | .checkReadiness caller version peers =>
    Prod.fst <$> readiness env now s caller version peers
  | .mergeGuestCart token principal => Prod.fst <$> mergeGuest env now s principal token
  | .clearCart caller version => Prod.fst <$> clear env now s caller version
  | .markCheckedOut cartId data _ => Prod.fst <$> markCheckedOut now s cartId data
  | .expireRead _ => .ok (expireRead now s)
  | .expireWrite sweep => .ok (expireWrite s sweep)

/-- The service, one request at a time. -/
def step (env : Env) (s : Store) (call : DateTime × Request) : Store :=
  if call.2.admitted then
    match serve env s call with
    | .ok s' => s'
    | .error _ => s
  else s

end Carts
end Marketplace
