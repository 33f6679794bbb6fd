import Marketplace.Carts.Service

/-!
# Carts: what a request can do

`Law` says how a stored cart may change, at whose request and under what
condition, and `Stroke` what one write does to the database.  Every operation is
a sequence of strokes, so what every stroke keeps the service keeps.
-/

namespace Marketplace
namespace Carts

open Base

/-! ## Carts and callers -/

/-- What a request that works on the contents of a cart leaves alone. -/
structure Face where
  id : UUID
  customerId : Option UUID
  guestTokenHash : Option String
  status : CartStatus
  mergedIntoCartId : Option UUID
  deriving DecidableEq

namespace Cart

def face (cart : Cart) : Face :=
  ⟨cart.id, cart.customerId, cart.guestTokenHash, cart.status, cart.mergedIntoCartId⟩

/-- The cart can be worked on. -/
def Open (cart : Cart) (now : DateTime) : Prop := cart.status = .active ∧ now < cart.expiresAt

/-- No item is over the limit. -/
def Within (cart : Cart) (settings : Settings) : Prop :=
  ∀ item ∈ cart.items, item.quantity ≤ settings.maxItemQuantity

/-! A cart is closed in one of three ways. -/

def mergedInto (guest : Cart) (target : UUID) : Cart :=
  { guest with
    status := .merged
    mergedIntoCartId := some target
    guestTokenHash := none
    version := guest.version + 1 }

def checkedOut (cart : Cart) : Cart :=
  { cart with status := .checkedOut, version := cart.version + 1 }

/-- Expired by a sweep that has read the cart at `version`. -/
def expired (cart : Cart) (version : Nat) : Cart :=
  { cart with status := .expired, version := version + 1 }

end Cart

/-- The cart is the caller's: a signed-in caller's own, or the one the guest token
is for. -/
def Caller.Owns (env : Env) (caller : Caller) (cart : Cart) : Prop :=
  match caller.principal, caller.guestToken with
  | some principal, _ => cart.customerId = some principal.subject
  | none, some token => cart.guestTokenHash = some (env.tokenHash token.text)
  | none, none => False

/-- The caller a request works for on a cart of its own. -/
def Request.caller : Request → Option Caller
  | .createGuestCart => none
  | .getCart caller => some caller
  | .addItem _ caller _ _ _ => some caller
  | .updateItem _ _ caller _ => some caller
  | .removeItem _ caller _ => some caller
  | .saveForLater _ caller _ => some caller
  | .moveSavedToCart _ caller _ _ => some caller
  | .deleteSavedItem _ caller _ => some caller
  | .checkReadiness caller _ _ => some caller
  | .mergeGuestCart _ principal => some ⟨some principal, none⟩
  | .clearCart caller _ => some caller
  | .markCheckedOut _ _ _ => none
  | .expireRead _ => none
  | .expireWrite _ => none

/-! ## The law of a cart -/

/-- How a request that arrives in `s` may change a stored cart. -/
inductive Law (env : Env) (s : Store) : DateTime × Request → Cart → Cart → Prop
  | edited {now : DateTime} {request : Request} {caller : Caller} {cart cart' : Cart} :
      request.caller = some caller → caller.Owns env cart → cart.Open now →
        cart'.face = cart.face → cart'.version = cart.version + 1 →
        (cart.Within env.settings → cart'.Within env.settings) →
      Law env s (now, request) cart cart'
  | merged {now : DateTime} {token : GuestToken} {principal : Principal} {guest : Cart}
      {target : UUID} :
      guest.guestTokenHash = some (env.tokenHash token.text) → guest.status = .active →
      Law env s (now, .mergeGuestCart token principal) guest (guest.mergedInto target)
  | checkedOut {now : DateTime} {data : MarkCheckedOutRequest} {principal : Principal}
      {cart : Cart} :
      cart.customerId = some data.customerId → cart.Open now → cart.items.rows ≠ [] →
      Law env s (now, .markCheckedOut cart.id data principal) cart cart.checkedOut
  | expired {now : DateTime} {sweep : Nat} {carts : List (UUID × Nat)} {cart : Cart}
      {version : Nat} :
      s.sweeps[sweep]? = some carts → (cart.id, version) ∈ carts →
      Law env s (now, .expireWrite sweep) cart (cart.expired version)

/-- The cart a request opens, and how many guest tokens have been drawn then. -/
inductive Opens (env : Env) (s : Store) : DateTime × Request → Cart → Nat → Prop
  | guest {now : DateTime} : Opens env s (now, .createGuestCart)
      { id := env.uuid4.value s.drawn
        guestTokenHash := some (env.tokenHash (env.tokenUrlsafe s.tokens))
        expiresAt := expiresAt env now true } (s.tokens + 1)
  | customer {now : DateTime} {request : Request} {caller : Caller} {principal : Principal} :
      request.caller = some caller → caller.principal = some principal →
      Opens env s (now, request)
        { id := env.uuid4.value s.drawn
          customerId := some principal.subject
          expiresAt := expiresAt env now false } s.tokens

/-- A cart as the request found it, or as it opened it. -/
def Met (env : Env) (origin : Store) (call : DateTime × Request) (cart : Cart) : Prop :=
  cart ∈ origin.carts ∨ ∃ tokens, Opens env origin call cart tokens

/-- A sweep has listed no cart twice. -/
def Apart (carts : List (UUID × Nat)) : Prop := (carts.map Prod.fst).Nodup

/-- One write of a request that arrived in `origin`.  A cart that it changes is still
as the request met it. -/
inductive Stroke (env : Env) (origin : Store) (call : DateTime × Request) : Store → Store → Prop
  | opened {s' : Store} {cart : Cart} {tokens : Nat} : Opens env origin call cart tokens →
      origin.addCart cart = .ok s' → Stroke env origin call origin { s' with tokens := tokens }
  | wrote {s : Store} {cart cart' : Cart} {drawn : Nat} : s.carts.get? cart.id = some cart →
      Met env origin call cart → Law env origin call cart cart' → s.drawn ≤ drawn →
      (∀ id ∈ cart'.mergedIntoCartId, id ∈ cart.mergedIntoCartId ∨
        ∃ target ∈ s.carts, target.id = id ∧ target.customerId ≠ none) →
      Stroke env origin call s { s with carts := s.carts.put cart', drawn := drawn }
  | remembered {s : Store} {record : IdempotencyRecord}
      {idempotency : Table IdempotencyRecord.actorKey} :
      s.idempotency.insert? record = some idempotency →
      (∃ cart ∈ s.carts, record.resourceId = some cart.id) →
      Stroke env origin call s { s with idempotency := idempotency }
  | swept {s : Store} {sweeps : List (List (UUID × Nat))} : (∀ carts ∈ sweeps, Apart carts) →
      Stroke env origin call s { s with sweeps := sweeps }

/-- The writes of a request, one after the other. -/
abbrev Strokes (env : Env) (origin : Store) (call : DateTime × Request) : Store → Store → Prop :=
  Relation.ReflTransGen (Stroke env origin call)

/-! ## Finding the cart -/

section Find

variable {env : Env} {now : DateTime} {s b : Store} {caller : Caller} {cart : Cart}

theorem activeCustomerCart_eq_some {customerId : UUID}
    (h : s.activeCustomerCart customerId = some cart) :
    cart ∈ s.carts ∧ cart.customerId = some customerId ∧ cart.status = .active := by
  have hp := List.find?_some h
  simp only [decide_eq_true_eq] at hp
  exact ⟨List.mem_of_find?_eq_some h, hp⟩

theorem activeCustomerCart_eq_none {customerId : UUID} :
    s.activeCustomerCart customerId = none ↔
      ∀ cart ∈ s.carts, cart.customerId = some customerId → cart.status ≠ .active := by
  simp [Store.activeCustomerCart, Table.mem_def]

theorem guestCart_eq_some {tokenHash : String} (h : s.guestCart tokenHash = some cart) :
    cart ∈ s.carts ∧ cart.guestTokenHash = some tokenHash ∧ cart.status = .active := by
  have hp := List.find?_some h
  simp only [decide_eq_true_eq] at hp
  exact ⟨List.mem_of_find?_eq_some h, hp⟩

theorem guestCart_eq_none {tokenHash : String} :
    s.guestCart tokenHash = none ↔
      ∀ cart ∈ s.carts, cart.guestTokenHash = some tokenHash → cart.status ≠ .active := by
  simp [Store.guestCart, Table.mem_def]

theorem assertActive_eq_ok {u : Unit} : assertActive now cart = .ok u ↔ cart.Open now := by
  simp only [assertActive, bind_eq_ok, require_eq_ok, Cart.Open]
  constructor
  · rintro ⟨_, hactive, htime⟩
    exact ⟨hactive, htime⟩
  · rintro ⟨hactive, htime⟩
    exact ⟨(), hactive, htime⟩

theorem assertVersion_eq_ok {u : Unit} {expectedVersion : Nat} :
    assertVersion cart expectedVersion = .ok u ↔ cart.version = expectedVersion := require_eq_ok

theorem addCart_eq_ok (h : s.addCart cart = .ok b) :
    (∀ c ∈ s.carts, c.customerId = cart.customerId → c.customerId = none ∨ c.status ≠ .active) ∧
    (∀ c ∈ s.carts, c.guestTokenHash = cart.guestTokenHash → c.guestTokenHash = none) ∧
    ∃ carts, s.carts.insert? cart = some carts ∧
      b = { s with carts := carts, drawn := s.drawn + 1 } := by
  simp only [Store.addCart, bind_eq_ok, require_eq_ok, orRaise_eq_ok, pure_eq_ok] at h
  obtain ⟨_, hcustomer, _, htoken, carts, hinsert, rfl⟩ := h
  exact ⟨hcustomer, htoken, carts, hinsert, rfl⟩

/-- The new cart of a customer. -/
def freshCart (env : Env) (now : DateTime) (s : Store) (customerId : UUID) : Cart where
  id := env.uuid4.value s.drawn
  customerId := some customerId
  expiresAt := expiresAt env now false

theorem customerCart_eq_ok {customerId : UUID}
    (h : customerCart env now s customerId = .ok (b, cart)) :
    (b = s ∧ s.activeCustomerCart customerId = some cart) ∨
      (s.activeCustomerCart customerId = none ∧ cart = freshCart env now s customerId ∧
        s.addCart cart = .ok b) := by
  unfold customerCart at h
  split at h
  · next found hfound =>
    cases h
    exact Or.inl ⟨rfl, hfound⟩
  · next hnone =>
    simp only [bind_eq_ok, pure_eq_ok, Prod.mk.injEq] at h
    obtain ⟨_, hadd, rfl, rfl⟩ := h
    exact Or.inr ⟨hnone, rfl, hadd⟩

/-- What `resolve_cart` finds: a cart of the caller's that can be worked on. -/
structure Resolved (env : Env) (now : DateTime) (s : Store) (caller : Caller) (b : Store)
    (cart : Cart) : Prop where
  mem : cart ∈ b.carts
  owned : caller.Owns env cart
  isOpen : cart.Open now
  stored : b = s ∨ ∃ principal, caller.principal = some principal ∧
    s.activeCustomerCart principal.subject = none ∧
    cart = freshCart env now s principal.subject ∧ s.addCart cart = .ok b

theorem resolveCart_eq_ok (h : resolveCart env now s caller = .ok (b, cart)) :
    Resolved env now s caller b cart := by
  simp only [resolveCart, bind_eq_ok, assertActive_eq_ok, pure_eq_ok, Prod.exists,
    Prod.mk.injEq] at h
  obtain ⟨_, _, hfind, _, hopen, rfl, rfl⟩ := h
  obtain ⟨principal, guestToken⟩ := caller
  cases principal with
  | some principal =>
    rcases customerCart_eq_ok hfind with ⟨rfl, hfound⟩ | ⟨hnone, hfresh, hadd⟩
    · obtain ⟨hmem, howner, -⟩ := activeCustomerCart_eq_some hfound
      exact ⟨hmem, howner, hopen, Or.inl rfl⟩
    · obtain ⟨-, -, carts, hinsert, rfl⟩ := addCart_eq_ok hadd
      refine ⟨(Table.mem_insert? hinsert).mpr (Or.inr rfl), ?_, hopen, Or.inr ?_⟩
      · rw [hfresh]
        rfl
      · exact ⟨principal, rfl, hnone, hfresh, hadd⟩
  | none =>
    cases guestToken with
    | some token =>
      simp only [findCart, bind_eq_ok, pure_eq_ok, orRaise_eq_ok, Prod.mk.injEq] at hfind
      obtain ⟨_, hfound, rfl, rfl⟩ := hfind
      obtain ⟨hmem, htoken, -⟩ := guestCart_eq_some hfound
      exact ⟨hmem, htoken, hopen, Or.inl rfl⟩
    | none => cases hfind

theorem Resolved.met (h : Resolved env now s caller b cart) {request : Request}
    (hcaller : request.caller = some caller) : Met env s (now, request) cart := by
  rcases h.stored with rfl | ⟨principal, hprincipal, -, rfl, -⟩
  · exact Or.inl h.mem
  · exact Or.inr ⟨s.tokens, .customer hcaller hprincipal⟩

theorem Resolved.strokes (h : Resolved env now s caller b cart) {request : Request}
    (hcaller : request.caller = some caller) : Strokes env s (now, request) s b := by
  rcases h.stored with rfl | ⟨principal, hprincipal, -, rfl, hadd⟩
  · exact .refl
  · have hopens : Opens env s (now, request) (freshCart env now s principal.subject) s.tokens :=
      .customer hcaller hprincipal
    obtain ⟨-, -, carts, -, rfl⟩ := addCart_eq_ok hadd
    exact .single (.opened hopens hadd)

end Find

/-! ## Copying a product -/

section Copy

variable {peers : Peers} {snapshot : ProductSnapshot} {item item' : CartItem}

/-- A snapshot is of the variant that was asked for. -/
theorem getSnapshot_ids {productId variantId : UUID}
    (h : peers.getSnapshot productId variantId = .ok snapshot) :
    snapshot.productId = productId ∧ snapshot.variantId = variantId := by
  unfold Peers.getSnapshot at h
  split at h
  · cases h
  · split at h <;> cases h
  · simp only [bind_eq_ok, pure_eq_ok] at h
    obtain ⟨_, -, _, -, rfl⟩ := h
    exact ⟨rfl, rfl⟩

theorem getSnapshot_variantId {productId variantId : UUID}
    (h : peers.getSnapshot productId variantId = .ok snapshot) :
    snapshot.variantId = variantId := (getSnapshot_ids h).2

theorem priceColumn_eq_ok {x : ℚ} {n : { n : Int // 0 ≤ n }} (h : priceColumn x = .ok n) :
    n.1 = toHundredths x := by
  simp only [priceColumn] at h
  split at h
  · split at h <;> cases h
    rfl
  · cases h

theorem columns_eq_ok {columns : ProductColumns} (h : snapshot.columns = .ok columns) :
    columns.variantId = snapshot.variantId ∧ columns.currencyCode = snapshot.currencyCode ∧
      columns.unitPrice = toHundredths snapshot.unitPrice := by
  simp only [ProductSnapshot.columns, bind_eq_ok, textColumn_eq_ok, pure_eq_ok] at h
  obtain ⟨_, -, _, -, _, -, _, -, _, ⟨hcurrency, -⟩, _, hprice, rfl⟩ := h
  exact ⟨rfl, hcurrency.symm, priceColumn_eq_ok hprice⟩

/-- What `_apply_snapshot` leaves of an item, and what it copies. -/
theorem applySnapshot_eq_ok (h : applySnapshot item snapshot = .ok item') :
    item'.id = item.id ∧ item'.quantity = item.quantity ∧ item'.version = item.version ∧
      item'.variantId = snapshot.variantId ∧ item'.currencyCode = snapshot.currencyCode := by
  simp only [applySnapshot, bind_eq_ok, pure_eq_ok] at h
  obtain ⟨_, hcolumns, _, -, rfl⟩ := h
  obtain ⟨hvariant, hcurrency, -⟩ := columns_eq_ok hcolumns
  exact ⟨rfl, rfl, rfl, hvariant, hcurrency⟩

theorem newItem_eq_ok {id : UUID} {quantity : Int} {positive : 0 < quantity}
    (h : newItem id quantity positive snapshot = .ok item) :
    item.id = id ∧ item.quantity = quantity ∧ item.variantId = snapshot.variantId ∧
      item.currencyCode = snapshot.currencyCode := by
  simp only [newItem, bind_eq_ok, pure_eq_ok] at h
  obtain ⟨_, hcolumns, _, -, rfl⟩ := h
  obtain ⟨hvariant, hcurrency, -⟩ := columns_eq_ok hcolumns
  exact ⟨rfl, rfl, hvariant, hcurrency⟩

end Copy

/-! ## Editing -/

/-- What the part of an operation between the checks and the new version may do. -/
structure Edits (env : Env) (drawn : Nat) (cart : Cart) (drawn' : Nat) (cart' : Cart) : Prop where
  face : cart'.face = cart.face
  version : cart'.version = cart.version
  drawn_le : drawn ≤ drawn'
  within : cart.Within env.settings → cart'.Within env.settings

section Edit

variable {env : Env} {now : DateTime} {s s' origin : Store} {caller : Caller} {cart cart' : Cart}
  {expectedVersion : Version} {change : Nat → Cart → Except Failure (Nat × Cart)}

theorem editCart_eq_ok (h : editCart env now s caller expectedVersion change = .ok (s', cart')) :
    ∃ b cart drawn changed, Resolved env now s caller b cart ∧
      cart.version = expectedVersion.value ∧ change b.drawn cart = .ok (drawn, changed) ∧
      cart' = { changed with version := changed.version + 1 } ∧
      s' = { b with carts := b.carts.put cart', drawn := drawn } := by
  simp only [editCart, bind_eq_ok, assertVersion_eq_ok, pure_eq_ok, Prod.exists,
    Prod.mk.injEq] at h
  obtain ⟨b, cart, hresolve, _, hversion, drawn, changed, hchange, rfl, rfl⟩ := h
  exact ⟨b, cart, drawn, changed, resolveCart_eq_ok hresolve, hversion, hchange, rfl, rfl⟩

/-- A cart that was found is edited. -/
theorem Resolved.wrote {b : Store} (h : Resolved env now s caller b cart) {request : Request}
    (hcaller : request.caller = some caller) {drawn : Nat} (hface : cart'.face = cart.face)
    (hversion : cart'.version = cart.version + 1) (hdrawn : b.drawn ≤ drawn)
    (hwithin : cart.Within env.settings → cart'.Within env.settings) :
    Strokes env s (now, request) s { b with carts := b.carts.put cart', drawn := drawn } := by
  have hget : b.carts.get? cart.id = some cart := Table.get?_key h.mem
  refine .tail (h.strokes hcaller)
    (.wrote hget (h.met hcaller) ?_ hdrawn fun id hid => Or.inl ?_)
  · exact .edited hcaller h.owned h.isOpen hface hversion hwithin
  · have hmerged : cart'.mergedIntoCartId = cart.mergedIntoCartId :=
      congrArg Face.mergedIntoCartId hface
    exact hmerged ▸ hid

theorem editCart_strokes {request : Request} (hcaller : request.caller = some caller)
    (hchange : ∀ drawn cart drawn' cart', change drawn cart = .ok (drawn', cart') →
      Edits env drawn cart drawn' cart')
    (h : editCart env now s caller expectedVersion change = .ok (s', cart')) :
    Strokes env s (now, request) s s' := by
  obtain ⟨b, cart, drawn, changed, hresolved, -, hrun, rfl, rfl⟩ := editCart_eq_ok h
  have hedits := hchange _ _ _ _ hrun
  exact hresolved.wrote hcaller hedits.face (congrArg (· + 1) hedits.version) hedits.drawn_le
    hedits.within

/-- The cart that was edited is stored. -/
theorem editCart_mem
    (hchange : ∀ drawn cart drawn' cart', change drawn cart = .ok (drawn', cart') →
      Edits env drawn cart drawn' cart')
    (h : editCart env now s caller expectedVersion change = .ok (s', cart')) :
    cart' ∈ s'.carts := by
  obtain ⟨b, cart, drawn, changed, hresolved, -, hrun, rfl, rfl⟩ := editCart_eq_ok h
  exact Table.mem_put_self hresolved.mem (congrArg Face.id (hchange _ _ _ _ hrun).face)

theorem findItem_eq_ok {itemId : UUID} {item : CartItem} (h : cart.findItem itemId = .ok item) :
    item ∈ cart.items ∧ item.id = itemId := by
  rw [Cart.findItem, orRaise_eq_ok] at h
  exact ⟨List.mem_of_find?_eq_some h, by simpa using List.find?_some h⟩

/-- What `add_item` makes of the items: more units of one that is there, or one
more. -/
theorem addToCart_eq_ok {data : CartItemCreate} {peers : Peers} {drawn drawn' : Nat}
    (h : addToCart env now data caller peers drawn cart = .ok (drawn', cart')) :
    data.quantity ≤ env.settings.maxItemQuantity ∧
    ∃ snapshot, peers.getSnapshot data.productId data.variantId = .ok snapshot ∧
      ((∃ existing item, cart.items.get? data.variantId = some existing ∧
          existing.quantity + data.quantity ≤ env.settings.maxItemQuantity ∧
          applySnapshot (existing.addUnits data.quantity data.quantity_valid.1) snapshot = .ok item ∧
          drawn' = drawn ∧ cart' = { cart with
            items := cart.items.put item
            expiresAt := expiresAt env now caller.principal.isNone }) ∨
        ∃ item items, cart.items.get? data.variantId = none ∧
          (cart.items.rows = [] ∨ cart.currencyCode = snapshot.currencyCode) ∧
          newItem (env.uuid4.value drawn) data.quantity data.quantity_valid.1 snapshot = .ok item ∧
          cart.items.insert? item = some items ∧
          drawn' = drawn + 1 ∧ cart' = { cart with
            items := items
            currencyCode := snapshot.currencyCode
            expiresAt := expiresAt env now caller.principal.isNone }) := by
  simp only [addToCart, bind_eq_ok, require_eq_ok] at h
  obtain ⟨_, hlimit, snapshot, hsnapshot, h⟩ := h
  refine ⟨hlimit, snapshot, hsnapshot, ?_⟩
  split at h
  · next existing hget =>
    simp only [bind_eq_ok, require_eq_ok, pure_eq_ok, exists_eq_left', Prod.mk.injEq] at h
    obtain ⟨_, hsum, item, happly, rfl, rfl⟩ := h
    exact Or.inl ⟨existing, item, hget, hsum, happly, rfl, rfl⟩
  · next hget =>
    simp only [bind_eq_ok, require_eq_ok, orRaise_eq_ok, pure_eq_ok, exists_eq_left',
      Prod.mk.injEq] at h
    obtain ⟨_, -, _, hcurrency, item, hnew, items, hinsert, rfl, rfl⟩ := h
    exact Or.inr ⟨item, items, hget, hcurrency, hnew, hinsert, rfl, rfl⟩

theorem addToCart_edits {data : CartItemCreate} {peers : Peers} {drawn drawn' : Nat}
    (h : addToCart env now data caller peers drawn cart = .ok (drawn', cart')) :
    Edits env drawn cart drawn' cart' := by
  obtain ⟨hlimit, snapshot, -, hbranch⟩ := addToCart_eq_ok h
  rcases hbranch with ⟨existing, item, hget, hsum, happly, rfl, rfl⟩ |
    ⟨item, items, hget, -, hnew, hinsert, rfl, rfl⟩
  · obtain ⟨-, hquantity, -⟩ := applySnapshot_eq_ok happly
    have hitem : item.quantity ≤ env.settings.maxItemQuantity := by
      rw [hquantity]
      exact hsum
    exact ⟨rfl, rfl, Nat.le_refl _, fun hw => Table.forall_put hw hitem⟩
  · obtain ⟨-, hquantity, -⟩ := newItem_eq_ok hnew
    exact ⟨rfl, rfl, Nat.le_succ _, fun hw =>
      Table.forall_insert hw (hquantity ▸ hlimit) hinsert⟩

theorem remember_eq_ok {actor : Actor} {key : Option IdempotencyKey} {data : CartItemCreate}
    (h : remember env s actor key data cart = .ok s') :
    (key = none ∧ s' = s) ∨ ∃ k idempotency, key = some k ∧
      s.idempotency.insert? ⟨actor, k.text, env.requestHash data, some cart.id⟩ =
        some idempotency ∧ s' = { s with idempotency := idempotency } := by
  cases key with
  | none =>
    cases h
    exact Or.inl ⟨rfl, rfl⟩
  | some k =>
    simp only [remember, bind_eq_ok, orRaise_eq_ok, pure_eq_ok] at h
    obtain ⟨idempotency, hinsert, rfl⟩ := h
    exact Or.inr ⟨k, idempotency, rfl, hinsert, rfl⟩

theorem replayed_eq_ok {actor : Actor} {key : Option IdempotencyKey} {data : CartItemCreate}
    {found : Option Cart} (h : replayed env s actor key data = .ok found) :
    (∀ record ∈ key.bind fun key => s.getIdempotency actor key.text,
      record.requestHash = env.requestHash data) ∧
    found = ((key.bind fun key => s.getIdempotency actor key.text).bind fun record =>
      record.resourceId).bind s.carts.get? := by
  simp only [replayed, bind_eq_ok, require_eq_ok, pure_eq_ok] at h
  obtain ⟨_, hhash, rfl⟩ := h
  exact ⟨hhash, rfl⟩

/-- A request to add an item is a repeat, which changes nothing, or it edits a cart
and remembers its key. -/
theorem addItem_eq_ok {data : CartItemCreate} {key : Option IdempotencyKey} {peers : Peers}
    (h : addItem env now s data caller expectedVersion key peers = .ok (s', cart)) :
    ∃ actor, actorKey env caller = .ok actor ∧
      ((replayed env s actor key data = .ok (some cart) ∧ s' = s) ∨
        ∃ b, replayed env s actor key data = .ok none ∧
          editCart env now s caller expectedVersion (addToCart env now data caller peers) =
            .ok (b, cart) ∧
          remember env b actor key data cart = .ok s') := by
  simp only [addItem, bind_eq_ok] at h
  obtain ⟨actor, hactor, found, hreplayed, h⟩ := h
  refine ⟨actor, hactor, ?_⟩
  cases found with
  | some found =>
    cases h
    exact Or.inl ⟨hreplayed, rfl⟩
  | none =>
    simp only [bind_eq_ok, pure_eq_ok, Prod.exists, Prod.mk.injEq] at h
    obtain ⟨b, _, hedit, _, hremember, rfl, rfl⟩ := h
    exact Or.inr ⟨b, hreplayed, hedit, hremember⟩

theorem addItem_strokes {data : CartItemCreate} {key : Option IdempotencyKey} {peers : Peers}
    (h : addItem env now s data caller expectedVersion key peers = .ok (s', cart)) :
    Strokes env s (now, .addItem data caller expectedVersion key peers) s s' := by
  obtain ⟨actor, -, ⟨-, rfl⟩ | ⟨b, -, hedit, hremember⟩⟩ := addItem_eq_ok h
  · exact .refl
  · have hchange := fun drawn c drawn' c' =>
      @addToCart_edits env now caller c c' data peers drawn drawn'
    have hstrokes : Strokes env s (now, .addItem data caller expectedVersion key peers) s b :=
      editCart_strokes rfl hchange hedit
    rcases remember_eq_ok hremember with ⟨-, rfl⟩ | ⟨k, idempotency, -, hinsert, rfl⟩
    · exact hstrokes
    · exact .tail hstrokes (.remembered hinsert ⟨cart, editCart_mem hchange hedit, rfl⟩)

theorem updateQuantity_strokes {itemId : UUID} {data : CartItemUpdate}
    (h : updateQuantity env now s itemId data caller expectedVersion = .ok (s', cart)) :
    Strokes env s (now, .updateItem itemId data caller expectedVersion) s s' := by
  refine editCart_strokes rfl (fun drawn c drawn' c' hrun => ?_) h
  simp only [bind_eq_ok, require_eq_ok, pure_eq_ok, Prod.mk.injEq] at hrun
  obtain ⟨_, hlimit, item, -, rfl, rfl⟩ := hrun
  exact ⟨rfl, rfl, Nat.le_refl _, fun hw => Table.forall_put hw hlimit⟩

theorem removeItem_strokes {itemId : UUID}
    (h : removeItem env now s itemId caller expectedVersion = .ok (s', cart)) :
    Strokes env s (now, .removeItem itemId caller expectedVersion) s s' := by
  refine editCart_strokes rfl (fun drawn c drawn' c' hrun => ?_) h
  simp only [bind_eq_ok, pure_eq_ok, Prod.mk.injEq] at hrun
  obtain ⟨item, -, rfl, rfl⟩ := hrun
  exact ⟨rfl, rfl, Nat.le_refl _, fun hw => Table.forall_erase hw _⟩

theorem saveForLater_strokes {itemId : UUID}
    (h : saveForLater env now s itemId caller expectedVersion = .ok (s', cart)) :
    Strokes env s (now, .saveForLater itemId caller expectedVersion) s s' := by
  refine editCart_strokes rfl (fun drawn c drawn' c' hrun => ?_) h
  simp only [bind_eq_ok] at hrun
  obtain ⟨item, -, hrun⟩ := hrun
  split at hrun
  · simp only [pure_eq_ok, bind_eq_ok, exists_eq_left', Prod.mk.injEq] at hrun
    obtain ⟨rfl, rfl⟩ := hrun
    exact ⟨rfl, rfl, Nat.le_refl _, fun hw => Table.forall_erase hw _⟩
  · simp only [bind_eq_ok, pure_eq_ok, exists_eq_left', Prod.mk.injEq] at hrun
    obtain ⟨_, -, rfl, rfl⟩ := hrun
    exact ⟨rfl, rfl, Nat.le_succ _, fun hw => Table.forall_erase hw _⟩

/-- What `move_saved_to_cart` does to the cart: one more unit of an item that is
there, or one more item. -/
theorem moveSavedToCart_eq_ok {savedItemId : UUID} {peers : Peers}
    (h : moveSavedToCart env now s savedItemId caller expectedVersion peers = .ok (s', cart')) :
    ∃ b cart saved snapshot drawn item items, Resolved env now s caller b cart ∧
      cart.findSaved savedItemId = .ok saved ∧
      peers.getSnapshot saved.productId saved.variantId = .ok snapshot ∧
      ((∃ existing, cart.items.get? saved.variantId = some existing ∧
          existing.quantity < env.settings.maxItemQuantity ∧
          applySnapshot (existing.addUnits 1 Int.one_pos) snapshot = .ok item ∧
          drawn = b.drawn ∧ items = cart.items.put item) ∨
        (newItem (env.uuid4.value b.drawn) 1 Int.one_pos snapshot = .ok item ∧
          cart.items.insert? item = some items ∧ drawn = b.drawn + 1)) ∧
      cart' = { cart with
        items := items
        savedItems := cart.savedItems.erase saved.variantId
        version := cart.version + 1 } ∧
      s' = { b with carts := b.carts.put cart', drawn := drawn } := by
  obtain ⟨b, cart, drawn, changed, hresolved, -, hrun, rfl, rfl⟩ := editCart_eq_ok h
  simp only [bind_eq_ok] at hrun
  obtain ⟨saved, hsaved, snapshot, hsnapshot, hrun⟩ := hrun
  split at hrun
  · next existing hget =>
    simp only [bind_eq_ok, require_eq_ok, pure_eq_ok, exists_eq_left', Prod.mk.injEq] at hrun
    obtain ⟨_, hlimit, item, happly, rfl, rfl⟩ := hrun
    exact ⟨b, cart, saved, snapshot, _, item, _, hresolved, hsaved, hsnapshot,
      Or.inl ⟨existing, hget, hlimit, happly, rfl, rfl⟩, rfl, rfl⟩
  · simp only [bind_eq_ok, orRaise_eq_ok, pure_eq_ok, exists_eq_left', Prod.mk.injEq] at hrun
    obtain ⟨item, hnew, items, hinsert, rfl, rfl⟩ := hrun
    exact ⟨b, cart, saved, snapshot, _, item, items, hresolved, hsaved, hsnapshot,
      Or.inr ⟨hnew, hinsert, rfl⟩, rfl, rfl⟩

theorem moveSavedToCart_strokes {savedItemId : UUID} {peers : Peers}
    (h : moveSavedToCart env now s savedItemId caller expectedVersion peers = .ok (s', cart)) :
    Strokes env s (now, .moveSavedToCart savedItemId caller expectedVersion peers) s s' := by
  obtain ⟨b, c, saved, snapshot, drawn, item, items, hresolved, -, -, hitems, rfl, rfl⟩ :=
    moveSavedToCart_eq_ok h
  rcases hitems with ⟨existing, -, hlimit, happly, rfl, rfl⟩ | ⟨hnew, hinsert, rfl⟩
  · obtain ⟨-, hquantity, -⟩ := applySnapshot_eq_ok happly
    have hitem : item.quantity ≤ env.settings.maxItemQuantity := by
      rw [hquantity]
      exact hlimit
    exact hresolved.wrote rfl rfl rfl (Nat.le_refl _) fun hw => Table.forall_put hw hitem
  · obtain ⟨-, hquantity, -⟩ := newItem_eq_ok hnew
    have hitem : item.quantity ≤ env.settings.maxItemQuantity := by
      have := env.settings.quantity_valid.1
      omega
    exact hresolved.wrote rfl rfl rfl (Nat.le_succ _) fun hw =>
      Table.forall_insert hw hitem hinsert

theorem deleteSaved_strokes {savedItemId : UUID}
    (h : deleteSaved env now s savedItemId caller expectedVersion = .ok (s', cart)) :
    Strokes env s (now, .deleteSavedItem savedItemId caller expectedVersion) s s' := by
  refine editCart_strokes rfl (fun drawn c drawn' c' hrun => ?_) h
  simp only [bind_eq_ok, pure_eq_ok, Prod.mk.injEq] at hrun
  obtain ⟨saved, -, rfl, rfl⟩ := hrun
  exact ⟨rfl, rfl, Nat.le_refl _, fun hw => hw⟩

theorem clear_strokes (h : clear env now s caller expectedVersion = .ok (s', cart)) :
    Strokes env s (now, .clearCart caller expectedVersion) s s' := by
  refine editCart_strokes rfl (fun drawn c drawn' c' hrun => ?_) h
  simp only [pure_eq_ok, Prod.mk.injEq] at hrun
  obtain ⟨rfl, rfl⟩ := hrun
  exact ⟨rfl, rfl, Nat.le_refl _, fun _ item hitem => absurd hitem (Table.not_mem_empty item)⟩

/-! ## Checking readiness -/

theorem checkItem_eq_ok {peers : Peers} {item : CartItem} {check : ItemCheck}
    (h : checkItem peers item = .ok check) :
    check.item = item ∧
      peers.getSnapshot item.productId item.variantId = .ok check.snapshot ∧
      ∃ answer, peers.getAvailability
          (if check.changed then check.snapshot.sku else item.sku) item.quantity = .ok answer ∧
        check.line = ⟨item.id, if check.changed then check.snapshot.sku else item.sku,
          item.quantity, answer.availableQuantity, answer.isAvailable⟩ := by
  simp only [checkItem, bind_eq_ok, pure_eq_ok] at h
  obtain ⟨snapshot, hsnapshot, answer, hanswer, rfl⟩ := h
  refine ⟨rfl, hsnapshot, answer, ?_, ?_⟩
  · simpa [ItemCheck.changed] using hanswer
  · simp [ItemCheck.changed]

theorem refreshItem_eq_ok {items items' : Table CartItem.variant} {check : ItemCheck}
    (h : refreshItem items check = .ok items') :
    (check.changed = false ∧ items' = items) ∨ (check.changed = true ∧
      ∃ item, applySnapshot { check.item with version := check.item.version + 1 }
        check.snapshot = .ok item ∧ items' = items.put item) := by
  unfold refreshItem at h
  split at h
  · next hchanged =>
    simp only [bind_eq_ok, pure_eq_ok] at h
    obtain ⟨item, happly, rfl⟩ := h
    exact Or.inr ⟨hchanged, item, happly, rfl⟩
  · next hchanged =>
    cases h
    exact Or.inl ⟨by simpa using hchanged, rfl⟩

/-- What a readiness check reads and writes. -/
theorem readiness_eq_ok {peers : Peers} {response : CheckoutReadinessResponse}
    (h : readiness env now s caller expectedVersion peers = .ok (s', response)) :
    ∃ b cart checks items, Resolved env now s caller b cart ∧
      cart.version = expectedVersion.value ∧
      cart.items.rows.mapM (checkItem peers) = .ok checks ∧
      checks.foldlM refreshItem cart.items = .ok items ∧
      response.cartId = cart.id ∧
      (response.ready = true ↔ checks ≠ [] ∧ ∀ check ∈ checks, check.line.isAvailable = true) ∧
      response.priceChanged = checks.any ItemCheck.changed ∧
      s' = if response.priceChanged then
          { b with carts := b.carts.put { cart with
              items := items
              version := cart.version + 1 } }
        else s := by
  simp only [readiness, bind_eq_ok, assertVersion_eq_ok, pure_eq_ok, Prod.exists,
    Prod.mk.injEq] at h
  obtain ⟨b, cart, hresolve, _, hversion, checks, hchecks, items, hitems, hs', rfl⟩ := h
  refine ⟨b, cart, checks, items, resolveCart_eq_ok hresolve, hversion, hchecks, hitems, rfl, ?_,
    rfl, hs'.symm⟩
  simp

/-- The copies of the products that a check replaces keep their quantities. -/
theorem refresh_within {peers : Peers} {checks : List ItemCheck} {items : Table CartItem.variant}
    (hchecks : cart.items.rows.mapM (checkItem peers) = .ok checks)
    (hitems : checks.foldlM refreshItem cart.items = .ok items) (hw : cart.Within env.settings) :
    ∀ item ∈ items, item.quantity ≤ env.settings.maxItemQuantity := by
  let I (rest : List ItemCheck) (items : Table CartItem.variant) : Prop :=
    (∀ check ∈ rest, check.item.quantity ≤ env.settings.maxItemQuantity) ∧
      ∀ item ∈ items, item.quantity ≤ env.settings.maxItemQuantity
  have hstart : I checks cart.items := by
    refine ⟨fun check hcheck => ?_, hw⟩
    obtain ⟨item, hitem, hrun⟩ := (mem_mapM hchecks).1 check hcheck
    rw [(checkItem_eq_ok hrun).1]
    exact hw item hitem
  refine (foldlM_keeps I (fun check rest items items' hI hrun => ?_) hstart hitems).2
  refine ⟨fun c hc => hI.1 c (List.mem_cons_of_mem check hc), ?_⟩
  rcases refreshItem_eq_ok hrun with ⟨-, rfl⟩ | ⟨-, item, happly, rfl⟩
  · exact hI.2
  · obtain ⟨-, hquantity, -⟩ := applySnapshot_eq_ok happly
    have hitem : item.quantity ≤ env.settings.maxItemQuantity := by
      rw [hquantity]
      exact hI.1 check List.mem_cons_self
    exact Table.forall_put hI.2 hitem

theorem readiness_strokes {peers : Peers} {response : CheckoutReadinessResponse}
    (h : readiness env now s caller expectedVersion peers = .ok (s', response)) :
    Strokes env s (now, .checkReadiness caller expectedVersion peers) s s' := by
  obtain ⟨b, cart, checks, items, hresolved, -, hchecks, hitems, -, -, -, rfl⟩ :=
    readiness_eq_ok h
  split
  · exact hresolved.wrote rfl rfl rfl (Nat.le_refl _) fun hw => refresh_within hchecks hitems hw
  · exact .refl

end Edit

/-! ## Merging -/

/-- What a merge makes of the item for a variant, from the customer's and the
guest's. -/
def MergedItem : Option CartItem → Option CartItem → Option CartItem → Prop
  | target, none, result => result = target
  | some target, some source, result =>
    result = some (target.addUnits source.quantity source.quantity_positive)
  | none, some source, result => ∃ id, result = some { source with id := id, version := 1 }

/-- What it makes of the saved item for a variant. -/
def MergedSaved : Option SavedItem → Option SavedItem → Option SavedItem → Prop
  | some target, _, result => result = some target
  | none, none, result => result = none
  | none, some source, result => ∃ id, result = some { source with id := id }

/-- Both carts have an item for the variant, and together they are too many. -/
def Overfull (env : Env) (target : Option CartItem) (source : CartItem) : Prop :=
  ∃ t ∈ target, env.settings.maxItemQuantity < t.quantity + source.quantity

section Merge

variable {env : Env}

theorem mergedItem_none {target result : Option CartItem} :
    MergedItem target none result ↔ result = target := by
  cases target <;> exact Iff.rfl

theorem mergeItem_eq_ok {acc acc' : Nat × Table CartItem.variant} {source : CartItem}
    (h : mergeItem env acc source = .ok acc') :
    acc.1 ≤ acc'.1 ∧
      (MergedItem (acc.2.get? source.variant) (some source) (acc'.2.get? source.variant) ∧
        ¬Overfull env (acc.2.get? source.variant) source) ∧
      ∀ v, v ≠ source.variant → acc'.2.get? v = acc.2.get? v := by
  unfold mergeItem at h
  split at h
  · next target hget =>
    simp only [bind_eq_ok, require_eq_ok, pure_eq_ok] at h
    obtain ⟨_, hsum, rfl⟩ := h
    have hkey : target.variant = source.variant := Table.key_of_get? hget
    have hgetv : acc.2.get? source.variant = some target := hget
    rw [hgetv]
    refine ⟨Nat.le_refl _, ⟨Table.get?_put_self hgetv hkey, ?_⟩, fun v hv => ?_⟩
    · rintro ⟨t, ht, hover⟩
      cases ht
      omega
    · exact Table.get?_put_ne fun he => hv (he.trans hkey)
  · next hget =>
    simp only [bind_eq_ok, orRaise_eq_ok, pure_eq_ok] at h
    obtain ⟨items, hinsert, rfl⟩ := h
    have hgetv : acc.2.get? source.variant = none := hget
    rw [hgetv]
    refine ⟨Nat.le_succ _, ⟨⟨env.uuid4.value acc.1, ?_⟩, ?_⟩, fun v hv => ?_⟩
    · rw [Table.get?_insert? hinsert]
      exact if_pos rfl
    · rintro ⟨t, ht, -⟩
      cases ht
    · rw [Table.get?_insert? hinsert]
      exact if_neg hv

theorem mergeItem_eq_error {acc : Nat × Table CartItem.variant} {source : CartItem} {e : Failure}
    (h : mergeItem env acc source = .error e) :
    Overfull env (acc.2.get? source.variant) source ∧ e = mergeLimit source := by
  unfold mergeItem at h
  split at h
  · next target hget =>
    have hgetv : acc.2.get? source.variant = some target := hget
    by_cases hsum : target.quantity + source.quantity ≤ env.settings.maxItemQuantity
    · rw [require_pos hsum] at h
      cases h
    · rw [require_neg hsum] at h
      cases h
      refine ⟨⟨target, hgetv, ?_⟩, rfl⟩
      omega
  · next hget =>
    have hfree : ∀ x ∈ acc.2, CartItem.variant x ≠ source.variant := Table.get?_eq_none.mp hget
    obtain ⟨items, hinsert⟩ := Table.insert?_isSome (r := { source with
      id := env.uuid4.value acc.1
      version := 1 }) hfree
    rw [hinsert] at h
    cases h

/-- The first loop of a merge, variant by variant. -/
theorem mergeItems_eq_ok {items items' guest : Table CartItem.variant} {drawn drawn' : Nat}
    (h : guest.rows.foldlM (mergeItem env) (drawn, items) = .ok (drawn', items')) (v : UUID) :
    MergedItem (items.get? v) (guest.get? v) (items'.get? v) ∧
      ∀ source ∈ guest.get? v, ¬Overfull env (items.get? v) source := by
  have hkeyed := foldlM_keyed (f := mergeItem env)
    (r := fun acc : Nat × Table CartItem.variant => acc.2.get?)
    (T := fun target source result =>
      MergedItem target (some source) result ∧ ¬Overfull env target source)
    (fun acc source acc' hrun => (mergeItem_eq_ok hrun).2) guest.nodup h v
  show MergedItem _ (guest.rows.find? fun x => CartItem.variant x = v) _ ∧
    ∀ source ∈ (guest.rows.find? fun x => CartItem.variant x = v), _
  split at hkeyed
  · next hnone =>
    rw [hnone]
    exact ⟨mergedItem_none.mpr hkeyed, fun source hsource => by cases hsource⟩
  · next source hsome =>
    rw [hsome]
    refine ⟨hkeyed.1, fun source' hsource => ?_⟩
    cases hsource
    exact hkeyed.2

theorem mergeItems_eq_error {items guest : Table CartItem.variant} {drawn : Nat} {e : Failure}
    (h : guest.rows.foldlM (mergeItem env) (drawn, items) = .error e) :
    ∃ source ∈ guest, Overfull env (items.get? source.variant) source ∧ e = mergeLimit source := by
  obtain ⟨source, hsource, hbad⟩ := foldlM_keyed_error (f := mergeItem env)
    (r := fun acc : Nat × Table CartItem.variant => acc.2.get?)
    (B := fun target source e => Overfull env target source ∧ e = mergeLimit source)
    (fun _ _ _ hrun => (mergeItem_eq_ok hrun).2.2) (fun _ _ _ hrun => mergeItem_eq_error hrun)
    guest.nodup h
  exact ⟨source, hsource, hbad⟩

theorem mergeItems_drawn {l : List CartItem} {acc acc' : Nat × Table CartItem.variant}
    (h : l.foldlM (mergeItem env) acc = .ok acc') : acc.1 ≤ acc'.1 :=
  foldlM_keeps (fun _ (x : Nat × Table CartItem.variant) => acc.1 ≤ x.1)
    (fun _ _ _ _ hle hrun => hle.trans (mergeItem_eq_ok hrun).1) (Nat.le_refl _) h

/-- A merge of items that are within the limit stays within it. -/
theorem mergeItems_within {customer guest items : Table CartItem.variant} {drawn drawn' : Nat}
    (h : guest.rows.foldlM (mergeItem env) (drawn, customer) = .ok (drawn', items))
    (hcustomer : ∀ i ∈ customer, i.quantity ≤ env.settings.maxItemQuantity)
    (hguest : ∀ i ∈ guest, i.quantity ≤ env.settings.maxItemQuantity) :
    ∀ i ∈ items, i.quantity ≤ env.settings.maxItemQuantity := by
  intro i hi
  obtain ⟨hmerged, hfits⟩ := mergeItems_eq_ok h i.variant
  rw [Table.get?_key hi] at hmerged
  cases hs : guest.get? i.variant with
  | none =>
    rw [hs, mergedItem_none] at hmerged
    exact hcustomer i (Table.mem_of_get? hmerged.symm)
  | some source =>
    cases ht : customer.get? i.variant with
    | none =>
      rw [hs, ht] at hmerged
      obtain ⟨id, hi'⟩ := hmerged
      cases hi'
      exact hguest source (Table.mem_of_get? hs)
    | some target =>
      rw [hs, ht] at hmerged
      cases hmerged
      have hnot := hfits source hs
      rw [ht] at hnot
      exact Int.not_lt.mp fun hover => hnot ⟨target, rfl, hover⟩

theorem mergeSaved_eq_ok {existing : Table SavedItem.variant}
    {acc acc' : Nat × Table SavedItem.variant} {source : SavedItem}
    (h : mergeSaved env existing acc source = .ok acc') :
    acc.1 ≤ acc'.1 ∧
      (acc.2.get? source.variant = existing.get? source.variant →
        MergedSaved (acc.2.get? source.variant) (some source) (acc'.2.get? source.variant)) ∧
      ∀ v, v ≠ source.variant → acc'.2.get? v = acc.2.get? v := by
  unfold mergeSaved at h
  split at h
  · next target hget =>
    cases h
    refine ⟨Nat.le_refl _, fun hsame => ?_, fun _ _ => rfl⟩
    rw [hsame.trans hget]
    rfl
  · next hget =>
    simp only [bind_eq_ok, orRaise_eq_ok, pure_eq_ok] at h
    obtain ⟨savedItems, hinsert, rfl⟩ := h
    refine ⟨Nat.le_succ _, fun hsame => ?_, fun v hv => ?_⟩
    · rw [hsame.trans hget]
      refine ⟨env.uuid4.value acc.1, ?_⟩
      rw [Table.get?_insert? hinsert]
      exact if_pos rfl
    · rw [Table.get?_insert? hinsert]
      exact if_neg hv

/-- The second loop of a merge, variant by variant. -/
theorem mergeSavedItems_eq_ok {saved saved' guest : Table SavedItem.variant} {drawn drawn' : Nat}
    (h : guest.rows.foldlM (mergeSaved env saved) (drawn, saved) = .ok (drawn', saved'))
    (v : UUID) : MergedSaved (saved.get? v) (guest.get? v) (saved'.get? v) := by
  have hkeyed := foldlM_keyed (f := mergeSaved env saved)
    (r := fun acc : Nat × Table SavedItem.variant => acc.2.get?)
    (T := fun target source result => target = saved.get? source.variant →
      MergedSaved target (some source) result)
    (fun acc source acc' hrun => (mergeSaved_eq_ok hrun).2) guest.nodup h v
  show MergedSaved _ (guest.rows.find? fun x => SavedItem.variant x = v) _
  split at hkeyed
  · next hnone =>
    rw [hnone]
    have hsame : saved'.get? v = saved.get? v := hkeyed
    rw [hsame]
    cases saved.get? v <;> rfl
  · next source hsome =>
    rw [hsome]
    have hv : SavedItem.variant source = v := by simpa using List.find?_some hsome
    exact hkeyed (by rw [hv])

theorem mergeSavedItems_drawn {existing : Table SavedItem.variant} {l : List SavedItem}
    {acc acc' : Nat × Table SavedItem.variant}
    (h : l.foldlM (mergeSaved env existing) acc = .ok acc') : acc.1 ≤ acc'.1 :=
  foldlM_keeps (fun _ (x : Nat × Table SavedItem.variant) => acc.1 ≤ x.1)
    (fun _ _ _ _ hle hrun => hle.trans (mergeSaved_eq_ok hrun).1) (Nat.le_refl _) h

/-- What a merge that goes through found and wrote. -/
structure Merges (env : Env) (now : DateTime) (s : Store) (principal : Principal)
    (token : GuestToken) (s' : Store) (customer' : Cart) (b : Store) (guest customer : Cart) :
    Prop where
  guest_mem : guest ∈ s.carts
  guest_token : guest.guestTokenHash = some (env.tokenHash token.text)
  guest_active : guest.status = .active
  resolved : Resolved env now s ⟨some principal, none⟩ b customer
  items : ∀ v, MergedItem (customer.items.get? v) (guest.items.get? v) (customer'.items.get? v)
  fits : ∀ v, ∀ source ∈ guest.items.get? v, ¬Overfull env (customer.items.get? v) source
  saved : ∀ v,
    MergedSaved (customer.savedItems.get? v) (guest.savedItems.get? v) (customer'.savedItems.get? v)
  face : customer'.face = customer.face
  version : customer'.version = customer.version + 1
  expires : customer'.expiresAt = expiresAt env now false
  currency : customer'.currencyCode = customer.currencyCode
  within : customer.Within env.settings → guest.Within env.settings →
    customer'.Within env.settings
  written : ∃ drawn, b.drawn ≤ drawn ∧
    s' = { b with
      carts := (b.carts.put (guest.mergedInto customer.id)).put customer'
      drawn := drawn }

theorem mergeGuest_eq_ok {now : DateTime} {s s' : Store} {principal : Principal}
    {token : GuestToken} {cart : Cart} (h : mergeGuest env now s principal token = .ok (s', cart)) :
    ∃ b guest customer, Merges env now s principal token s' cart b guest customer := by
  simp only [mergeGuest, bind_eq_ok, orRaise_eq_ok, pure_eq_ok, Prod.exists, Prod.mk.injEq] at h
  obtain ⟨guest, hguest, b, customer, hresolve, drawn, items, hitems, drawn', saved, hsaved, hs',
    rfl⟩ := h
  obtain ⟨hmem, htoken, hactive⟩ := guestCart_eq_some hguest
  have hdrawn : b.drawn ≤ drawn' := (mergeItems_drawn hitems).trans (mergeSavedItems_drawn hsaved)
  exact ⟨b, guest, customer, {
    guest_mem := hmem
    guest_token := htoken
    guest_active := hactive
    resolved := resolveCart_eq_ok hresolve
    items := fun v => (mergeItems_eq_ok hitems v).1
    fits := fun v => (mergeItems_eq_ok hitems v).2
    saved := mergeSavedItems_eq_ok hsaved
    face := rfl
    version := rfl
    expires := rfl
    currency := rfl
    within := mergeItems_within hitems
    written := ⟨drawn', hdrawn, hs'.symm⟩ }⟩

/-- The stored carts are kept when a cart is found. -/
theorem Resolved.mem_of_mem {now : DateTime} {s b : Store} {caller : Caller} {cart c : Cart}
    (h : Resolved env now s caller b cart) (hc : c ∈ s.carts) : c ∈ b.carts := by
  rcases h.stored with rfl | ⟨_, -, -, -, hadd⟩
  · exact hc
  · obtain ⟨-, -, carts, hinsert, rfl⟩ := addCart_eq_ok hadd
    exact (Table.mem_insert? hinsert).mpr (Or.inl hc)

/-- The guest's cart has a token and the customer's an owner, so they are two. -/
theorem Merges.distinct {now : DateTime} {s s' b : Store} {principal : Principal}
    {token : GuestToken} {cart guest customer : Cart}
    (howned : ∀ c ∈ s.carts, c.customerId = none ∨ c.guestTokenHash = none)
    (h : Merges env now s principal token s' cart b guest customer) : customer.id ≠ guest.id := by
  intro he
  have howner : customer.customerId = some principal.subject := h.resolved.owned
  have hsame : customer = guest :=
    Table.eq_of_key_eq h.resolved.mem (h.resolved.mem_of_mem h.guest_mem) he
  rcases howned guest h.guest_mem with hnone | hnone
  · rw [← hsame, howner] at hnone
    cases hnone
  · rw [h.guest_token] at hnone
    cases hnone

theorem mergeGuest_strokes {now : DateTime} {s s' : Store} {principal : Principal}
    {token : GuestToken} {cart : Cart}
    (howned : ∀ c ∈ s.carts, c.customerId = none ∨ c.guestTokenHash = none)
    (hwithin : ∀ c ∈ s.carts, c.Within env.settings)
    (h : mergeGuest env now s principal token = .ok (s', cart)) :
    Strokes env s (now, .mergeGuestCart token principal) s s' := by
  obtain ⟨b, guest, customer, hm⟩ := mergeGuest_eq_ok h
  have hne : customer.id ≠ guest.id := hm.distinct howned
  obtain ⟨drawn, hdrawn, rfl⟩ := hm.written
  have hguest : guest ∈ b.carts := hm.resolved.mem_of_mem hm.guest_mem
  have howner : customer.customerId = some principal.subject := hm.resolved.owned
  have hgone : Stroke env s (now, .mergeGuestCart token principal) b { b with
      carts := b.carts.put (guest.mergedInto customer.id)
      drawn := b.drawn } := by
    refine .wrote (Table.get?_key hguest) (Or.inl hm.guest_mem)
      (.merged hm.guest_token hm.guest_active) (Nat.le_refl _)
      fun id hid => Or.inr ⟨customer, hm.resolved.mem, Option.some.inj hid, ?_⟩
    rw [howner]
    exact Option.some_ne_none _
  have hother : customer.id ≠ (guest.mergedInto customer.id).id := hne
  have hget : (b.carts.put (guest.mergedInto customer.id)).get? customer.id = some customer :=
    (Table.get?_put_ne hother).trans (Table.get?_key hm.resolved.mem)
  have hlaw : Law env s (now, .mergeGuestCart token principal) customer cart :=
    .edited rfl hm.resolved.owned hm.resolved.isOpen hm.face hm.version fun hw =>
      hm.within hw (hwithin guest hm.guest_mem)
  have hmergedid : cart.mergedIntoCartId = customer.mergedIntoCartId :=
    congrArg Face.mergedIntoCartId hm.face
  exact .tail (.tail (hm.resolved.strokes rfl) hgone)
    (.wrote hget (hm.resolved.met rfl) hlaw hdrawn fun id hid => Or.inl (hmergedid ▸ hid))

end Merge

/-! ## Closing -/

section Close

variable {env : Env} {now : DateTime} {s s' : Store} {cart : Cart}

theorem markCheckedOut_eq_ok {cartId : UUID} {data : MarkCheckedOutRequest}
    (h : markCheckedOut now s cartId data = .ok (s', cart)) :
    ∃ row, s.carts.get? cartId = some row ∧ row.customerId = some data.customerId ∧ row.Open now ∧
      row.items.rows ≠ [] ∧
      cart = row.checkedOut ∧ s' = { s with carts := s.carts.put cart } := by
  simp only [markCheckedOut, bind_eq_ok, orRaise_eq_ok, require_eq_ok, assertActive_eq_ok,
    pure_eq_ok, Prod.mk.injEq] at h
  obtain ⟨row, hget, _, howner, _, hopen, _, hitems, rfl, rfl⟩ := h
  exact ⟨row, hget, howner, hopen, hitems, rfl, rfl⟩

theorem markCheckedOut_strokes {cartId : UUID} {data : MarkCheckedOutRequest}
    {principal : Principal} (h : markCheckedOut now s cartId data = .ok (s', cart)) :
    Strokes env s (now, .markCheckedOut cartId data principal) s s' := by
  obtain ⟨row, hget, howner, hopen, hitems, rfl, rfl⟩ := markCheckedOut_eq_ok h
  have hid : row.id = cartId := Table.key_of_get? hget
  subst hid
  exact .single (.wrote hget (Or.inl (Table.mem_of_get? hget)) (.checkedOut howner hopen hitems)
    (Nat.le_refl _) fun id hid => Or.inl hid)

/-- The carts of a sweep that it has not come to yet are as it found them. -/
theorem expire_strokes {origin : Store} {sweep : Nat} {carts : List (UUID × Nat)}
    (hsweep : origin.sweeps[sweep]? = some carts) {read : UUID × Nat} (hread : read ∈ carts)
    (s : Store) (hsame : s.carts.get? read.1 = origin.carts.get? read.1) :
    Strokes env origin (now, .expireWrite sweep) s (s.expire read) := by
  unfold Store.expire
  split
  · next row hget =>
    have hmet : row ∈ origin.carts := Table.mem_of_get? (hsame ▸ hget)
    have hid : row.id = read.1 := Table.key_of_get? hget
    rw [← hid] at hget
    have hlisted : (row.id, read.2) ∈ carts := hid ▸ hread
    exact .single (.wrote hget (Or.inl hmet) (.expired hsweep hlisted) (Nat.le_refl _)
      fun id hid => Or.inl hid)
  · exact .refl

theorem expire_get?_ne (s : Store) {read : UUID × Nat} {id : UUID} (hne : id ≠ read.1) :
    (s.expire read).carts.get? id = s.carts.get? id := by
  unfold Store.expire
  split
  · next row hget =>
    have hid : row.id = read.1 := Table.key_of_get? hget
    exact Table.get?_put_ne (hid ▸ hne)
  · rfl

theorem expireWrite_strokes (s : Store) (hapart : ∀ carts ∈ s.sweeps, Apart carts) (sweep : Nat) :
    Strokes env s (now, .expireWrite sweep) s (expireWrite s sweep) := by
  unfold expireWrite
  split
  · next carts hsweep =>
    have hloop : ∀ (reads : List (UUID × Nat)), (∀ read ∈ reads, read ∈ carts) → Apart reads →
        ∀ t : Store, (∀ read ∈ reads, t.carts.get? read.1 = s.carts.get? read.1) →
        Strokes env s (now, .expireWrite sweep) t (reads.foldl Store.expire t) := by
      intro reads
      induction reads with
      | nil => exact fun _ _ t _ => .refl
      | cons read rest ih =>
        intro hreads hnodup t hsame
        obtain ⟨hnotin, hrest⟩ := List.nodup_cons.mp hnodup
        have hfirst : Strokes env s (now, .expireWrite sweep) t (t.expire read) :=
          expire_strokes hsweep (hreads read List.mem_cons_self) t (hsame read List.mem_cons_self)
        refine hfirst.trans (ih (fun r hr => hreads r (List.mem_cons_of_mem read hr)) hrest _
          fun r hr => ?_)
        have hne : r.1 ≠ read.1 := fun he => hnotin (he ▸ List.mem_map_of_mem hr)
        rw [expire_get?_ne t hne]
        exact hsame r (List.mem_cons_of_mem read hr)
    have hleft : ∀ carts ∈ s.sweeps.eraseIdx sweep, Apart carts := fun carts hcarts =>
      hapart carts (List.mem_of_mem_eraseIdx hcarts)
    exact .head (.swept hleft) (hloop carts (fun _ h => h)
      (hapart carts (List.mem_of_getElem? hsweep)) _ fun _ _ => rfl)
  · exact .refl

/-- What a sweep lists are rows of one table. -/
theorem due_apart (s : Store) (now : DateTime) : Apart (s.due now) := by
  rw [Apart, Store.due, List.map_map]
  exact s.carts.nodup.sublist (List.filter_sublist.map _)

theorem expireRead_strokes (hapart : ∀ carts ∈ s.sweeps, Apart carts) (principal : Principal) :
    Strokes env s (now, .expireRead principal) s (expireRead now s) := by
  refine .single (.swept fun carts hcarts => ?_)
  rcases List.mem_append.mp hcarts with hold | hnew
  · exact hapart carts hold
  · rw [List.mem_singleton.mp hnew]
    exact due_apart s now

theorem createGuestCart_strokes {rawToken : String}
    (h : createGuestCart env now s = .ok (s', rawToken, cart)) :
    Strokes env s (now, .createGuestCart) s s' := by
  simp only [createGuestCart, bind_eq_ok, pure_eq_ok, Prod.mk.injEq] at h
  obtain ⟨b, hadd, rfl, -, -⟩ := h
  obtain ⟨-, -, carts, -, rfl⟩ := addCart_eq_ok hadd
  exact .single (.opened .guest hadd)

end Close

/-! ## A request -/

theorem serve_strokes {env : Env} {s s' : Store} {call : DateTime × Request}
    (howned : ∀ c ∈ s.carts, c.customerId = none ∨ c.guestTokenHash = none)
    (hwithin : ∀ c ∈ s.carts, c.Within env.settings) (hapart : ∀ carts ∈ s.sweeps, Apart carts)
    (h : serve env s call = .ok s') : Strokes env s call s s' := by
  obtain ⟨now, request⟩ := call
  cases request with
  | createGuestCart =>
    simp only [serve, map_eq_ok, Prod.exists] at h
    obtain ⟨s₁, token, cart, hrun, rfl⟩ := h
    exact createGuestCart_strokes hrun
  | getCart caller =>
    simp only [serve, map_eq_ok, Prod.exists] at h
    obtain ⟨s₁, cart, hrun, rfl⟩ := h
    exact (resolveCart_eq_ok hrun).strokes rfl
  | addItem data caller version key peers =>
    simp only [serve, map_eq_ok, Prod.exists] at h
    obtain ⟨s₁, cart, hrun, rfl⟩ := h
    exact addItem_strokes hrun
  | updateItem itemId data caller version =>
    simp only [serve, map_eq_ok, Prod.exists] at h
    obtain ⟨s₁, cart, hrun, rfl⟩ := h
    exact updateQuantity_strokes hrun
  | removeItem itemId caller version =>
    simp only [serve, map_eq_ok, Prod.exists] at h
    obtain ⟨s₁, cart, hrun, rfl⟩ := h
    exact removeItem_strokes hrun
  | saveForLater itemId caller version =>
    simp only [serve, map_eq_ok, Prod.exists] at h
    obtain ⟨s₁, cart, hrun, rfl⟩ := h
    exact saveForLater_strokes hrun
  | moveSavedToCart itemId caller version peers =>
    simp only [serve, map_eq_ok, Prod.exists] at h
    obtain ⟨s₁, cart, hrun, rfl⟩ := h
    exact moveSavedToCart_strokes hrun
  | deleteSavedItem itemId caller version =>
    simp only [serve, map_eq_ok, Prod.exists] at h
    obtain ⟨s₁, cart, hrun, rfl⟩ := h
    exact deleteSaved_strokes hrun
  | checkReadiness caller version peers =>
    simp only [serve, map_eq_ok, Prod.exists] at h
    obtain ⟨s₁, response, hrun, rfl⟩ := h
    exact readiness_strokes hrun
  | mergeGuestCart token principal =>
    simp only [serve, map_eq_ok, Prod.exists] at h
    obtain ⟨s₁, cart, hrun, rfl⟩ := h
    exact mergeGuest_strokes howned hwithin hrun
  | clearCart caller version =>
    simp only [serve, map_eq_ok, Prod.exists] at h
    obtain ⟨s₁, cart, hrun, rfl⟩ := h
    exact clear_strokes hrun
  | markCheckedOut cartId data principal =>
    simp only [serve, map_eq_ok, Prod.exists] at h
    obtain ⟨s₁, cart, hrun, rfl⟩ := h
    exact markCheckedOut_strokes hrun
  | expireRead principal =>
    cases h
    exact expireRead_strokes hapart principal
  | expireWrite sweep =>
    cases h
    exact expireWrite_strokes s hapart sweep

theorem step_strokes {env : Env} {s : Store}
    (howned : ∀ c ∈ s.carts, c.customerId = none ∨ c.guestTokenHash = none)
    (hwithin : ∀ c ∈ s.carts, c.Within env.settings) (hapart : ∀ carts ∈ s.sweeps, Apart carts)
    (call : DateTime × Request) : Strokes env s call s (step env s call) := by
  unfold step
  split
  · split
    · next s' hserve => exact serve_strokes howned hwithin hapart hserve
    · exact .refl
  · exact .refl

end Carts
end Marketplace
