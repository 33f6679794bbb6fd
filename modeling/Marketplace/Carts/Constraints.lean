import Marketplace.Carts.Sound

/-!
# Carts: the constraints of the database

The database would refuse a second active cart for a customer, a guest token or an
item that is there already, or a second record for a key.  One request at a time,
the service never comes to that: it checks first what the constraints check.  The
one constraint that can refuse a request is the check of the price, which the
service takes from the Product Service as it is.
-/

namespace Marketplace
namespace Carts

open Base

/-- A failure that is no broken constraint, except for the check of a price. -/
def Foreseen (e : Failure) : Prop :=
  ∀ constraint, e = .integrity constraint → constraint = "ck_cart_items_unit_price_non_negative"

theorem foreseen_raise (statusCode : Nat) (code message : String) :
    Foreseen (raise statusCode code message) := by
  intro constraint h
  cases h

theorem foreseen_data (column : String) : Foreseen (.data column) := by
  intro constraint h
  cases h

/-! ## Copying a product -/

section Copy

variable {peers : Peers}

theorem textColumn_foreseen (column : String) (width : Nat) (s : String) :
    Raises Foreseen (textColumn column width s) :=
  (raises_require fun _ => foreseen_data column).bind fun _ _ => raises_ok s

theorem integerColumn_foreseen (column : String) (n : Int) :
    Raises Foreseen (integerColumn column n) :=
  (raises_require fun _ => foreseen_data column).bind fun _ _ => raises_ok n

theorem priceColumn_foreseen (x : ℚ) : Raises Foreseen (priceColumn x) := by
  simp only [priceColumn]
  split
  · split
    · exact raises_ok _
    · refine raises_error fun constraint h => ?_
      cases h
      rfl
  · exact raises_error (foreseen_data _)

theorem columns_foreseen (snapshot : ProductSnapshot) : Raises Foreseen snapshot.columns := by
  unfold ProductSnapshot.columns
  refine (textColumn_foreseen _ _ _).bind fun _ _ => ?_
  refine (textColumn_foreseen _ _ _).bind fun _ _ => ?_
  refine (textColumn_foreseen _ _ _).bind fun _ _ => ?_
  refine Raises.bind ?_ fun _ _ => ?_
  · cases snapshot.imageUrl with
    | none => exact raises_ok none
    | some url => exact (textColumn_foreseen _ _ url).bind fun u _ => raises_ok (some u)
  · refine (textColumn_foreseen _ _ _).bind fun _ _ => ?_
    exact (priceColumn_foreseen _).bind fun _ _ => raises_ok _

theorem applySnapshot_foreseen (item : CartItem) (snapshot : ProductSnapshot) :
    Raises Foreseen (applySnapshot item snapshot) :=
  (columns_foreseen snapshot).bind fun _ _ =>
    (integerColumn_foreseen _ _).bind fun _ _ => raises_ok _

theorem newItem_foreseen (id : UUID) (quantity : Int) (positive : 0 < quantity)
    (snapshot : ProductSnapshot) : Raises Foreseen (newItem id quantity positive snapshot) :=
  (columns_foreseen snapshot).bind fun _ _ =>
    (integerColumn_foreseen _ _).bind fun _ _ => raises_ok _

theorem getSnapshot_foreseen (productId variantId : UUID) :
    Raises Foreseen (peers.getSnapshot productId variantId) := by
  unfold Peers.getSnapshot
  split
  · exact raises_error (foreseen_raise _ _ _)
  · split <;> exact raises_error (foreseen_raise _ _ _)
  · exact (raises_orRaise fun _ => foreseen_raise _ _ _).bind fun _ _ =>
      (raises_require fun _ => foreseen_raise _ _ _).bind fun _ _ => raises_ok _

theorem getAvailability_foreseen (sku : String) (quantity : Int) :
    Raises Foreseen (peers.getAvailability sku quantity) := by
  unfold Peers.getAvailability
  split
  · exact raises_error (foreseen_raise _ _ _)
  · exact raises_error (foreseen_raise _ _ _)
  · exact raises_ok _

end Copy

/-! ## Opening a cart -/

section Open

variable {env : Env} {now : DateTime} {s : Store} {caller : Caller} {cart : Cart}

/-- A cart that breaks no constraint is added. -/
theorem addCart_succeeds (hs : Sound env s) (cart : Cart) (hid : cart.id = env.uuid4.value s.drawn)
    (hcustomer : ∀ c ∈ s.carts.rows, c.customerId = cart.customerId →
      c.customerId = none ∨ c.status ≠ .active)
    (htoken : ∀ c ∈ s.carts.rows, c.guestTokenHash = cart.guestTokenHash →
      c.guestTokenHash = none) : ∃ b, s.addCart cart = .ok b := by
  have hfresh : ∀ c ∈ s.carts, c.id ≠ cart.id := fun c hc he =>
    Supply.not_issued le_rfl (hid ▸ he ▸ (hs.carts c hc).issued)
  obtain ⟨carts, hinsert⟩ := Table.insert?_isSome hfresh
  unfold Store.addCart
  rw [require_pos hcustomer, require_pos htoken, hinsert]
  exact ⟨_, rfl⟩

theorem createGuestCart_foreseen (hs : Sound env s) :
    Raises Foreseen (createGuestCart env now s) := by
  have hfree : ∀ c ∈ s.carts.rows,
      c.guestTokenHash = some (env.tokenHash (env.tokenUrlsafe s.tokens)) →
        c.guestTokenHash = none := by
    intro c hc he
    -- The token is the next one, and the stored hashes are of tokens before it.
    obtain ⟨n, hn, hhash⟩ := (hs.carts c hc).token _ he
    have hsame : n = s.tokens := env.tokens_distinct hhash
    omega
  obtain ⟨b, hadd⟩ := addCart_succeeds hs {
      id := env.uuid4.value s.drawn
      guestTokenHash := some (env.tokenHash (env.tokenUrlsafe s.tokens))
      expiresAt := expiresAt env now true } rfl (fun c _ he => Or.inl he) hfree
  simp only [createGuestCart]
  rw [hadd]
  exact raises_ok _

/-- A customer has an active cart or is given one. -/
theorem customerCart_succeeds (hs : Sound env s) (now : DateTime) (customerId : UUID) :
    ∃ b cart, customerCart env now s customerId = .ok (b, cart) := by
  unfold customerCart
  split
  · exact ⟨s, _, rfl⟩
  · next hnone =>
    rw [activeCustomerCart_eq_none] at hnone
    obtain ⟨b, hadd⟩ := addCart_succeeds hs (freshCart env now s customerId) rfl
      (fun c hc he => Or.inr (hnone c hc he)) fun c _ he => he
    refine ⟨b, freshCart env now s customerId, ?_⟩
    show (s.addCart (freshCart env now s customerId) >>= fun b => _) = _
    rw [hadd]
    rfl

theorem customerCart_foreseen (hs : Sound env s) (customerId : UUID) :
    Raises Foreseen (customerCart env now s customerId) := by
  obtain ⟨b, cart, hrun⟩ := customerCart_succeeds hs now customerId
  rw [hrun]
  exact raises_ok _

theorem assertActive_foreseen : Raises Foreseen (assertActive now cart) :=
  (raises_require fun _ => foreseen_raise _ _ _).bind fun _ _ =>
    raises_require fun _ => foreseen_raise _ _ _

theorem resolveCart_foreseen (hs : Sound env s) :
    Raises Foreseen (resolveCart env now s caller) := by
  refine Raises.bind ?_ fun _ _ => assertActive_foreseen.bind fun _ _ => raises_ok _
  unfold findCart
  split
  · exact customerCart_foreseen hs _
  · exact (raises_orRaise fun _ => foreseen_raise _ _ _).bind fun _ _ => raises_ok _
  · exact raises_error (foreseen_raise _ _ _)

end Open

/-! ## Editing -/

section Edit

variable {env : Env} {now : DateTime} {s : Store} {caller : Caller} {cart : Cart}
  {expectedVersion : Version} {change : Nat → Cart → Except Failure (Nat × Cart)} {drawn : Nat}
  {peers : Peers}

theorem editCart_foreseen (hs : Sound env s)
    (hchange : ∀ drawn cart, Raises Foreseen (change drawn cart)) :
    Raises Foreseen (editCart env now s caller expectedVersion change) :=
  (resolveCart_foreseen hs).bind fun _ _ =>
    (raises_require fun _ => foreseen_raise _ _ _).bind fun _ _ =>
      (hchange _ _).bind fun _ _ => raises_ok _

theorem quantityLimit_foreseen : Foreseen quantityLimit := foreseen_raise _ _ _

theorem findItem_foreseen (itemId : UUID) : Raises Foreseen (cart.findItem itemId) :=
  raises_orRaise fun _ => foreseen_raise _ _ _

theorem findSaved_foreseen (savedItemId : UUID) : Raises Foreseen (cart.findSaved savedItemId) :=
  raises_orRaise fun _ => foreseen_raise _ _ _

/-- There is room for an item of a variant that the cart does not have. -/
theorem insertItem_foreseen {items : Table CartItem.variant} {item : CartItem} {e : Failure}
    (h : items.get? item.variant = none) : Raises Foreseen (orRaise (items.insert? item) e) := by
  obtain ⟨items', hinsert⟩ := Table.insert?_isSome (Table.get?_eq_none.mp h)
  rw [hinsert]
  exact raises_ok items'

theorem addToCart_foreseen {data : CartItemCreate} :
    Raises Foreseen (addToCart env now data caller peers drawn cart) := by
  refine (raises_require fun _ => quantityLimit_foreseen).bind fun _ _ => ?_
  refine (getSnapshot_foreseen _ _).bind fun snapshot hsnapshot => ?_
  split
  · exact (raises_require fun _ => quantityLimit_foreseen).bind fun _ _ =>
      (applySnapshot_foreseen _ _).bind fun _ _ => raises_ok _
  · next hnone =>
    refine (raises_require fun _ => foreseen_raise _ _ _).bind fun _ _ => ?_
    refine (raises_require fun _ => foreseen_raise _ _ _).bind fun _ _ => ?_
    refine (newItem_foreseen _ _ _ _).bind fun item hitem => ?_
    refine (insertItem_foreseen ?_).bind fun _ _ => raises_ok _
    have hvariant : item.variant = data.variantId :=
      (newItem_eq_ok hitem).2.2.1.trans (getSnapshot_variantId hsnapshot)
    rw [hvariant]
    exact hnone

/-- A key that was not used is free. -/
theorem remember_foreseen {b : Store} {actor : Actor} {key : Option IdempotencyKey}
    {data : CartItemCreate} (hs : Sound env s) (hb : b.idempotency = s.idempotency)
    (hreplayed : replayed env s actor key data = .ok none) :
    Raises Foreseen (remember env b actor key data cart) := by
  cases key with
  | none => exact raises_ok b
  | some k =>
    have hfree : s.getIdempotency actor k.text = none := by
      obtain ⟨-, hnone⟩ := replayed_eq_ok hreplayed
      cases hrecord : s.getIdempotency actor k.text with
      | none => rfl
      | some record =>
        obtain ⟨c, hc, hid⟩ := hs.keys record (Table.mem_of_get? hrecord)
        have hget : s.carts.get? c.id = some c := Table.get?_key hc
        simp only [Option.bind_some, hrecord, hid, hget] at hnone
        cases hnone
    have hroom : ∀ r ∈ b.idempotency, r.actorKey ≠ (actor, k.text) := by
      rw [hb]
      exact Table.get?_eq_none.mp hfree
    obtain ⟨idempotency, hinsert⟩ := Table.insert?_isSome
      (r := IdempotencyRecord.mk actor k.text (env.requestHash data) (some cart.id)) hroom
    simp only [remember]
    rw [hinsert]
    exact raises_ok _

theorem editCart_idempotency {s' : Store}
    (h : editCart env now s caller expectedVersion change = .ok (s', cart)) :
    s'.idempotency = s.idempotency := by
  obtain ⟨b, _, _, _, hresolved, -, -, -, rfl⟩ := editCart_eq_ok h
  rcases hresolved.stored with rfl | ⟨_, -, -, -, hadd⟩
  · rfl
  · obtain ⟨-, -, carts, -, rfl⟩ := addCart_eq_ok hadd
    rfl

theorem addItem_foreseen {data : CartItemCreate} {key : Option IdempotencyKey}
    (hs : Sound env s) :
    Raises Foreseen (addItem env now s data caller expectedVersion key peers) := by
  unfold addItem
  refine Raises.bind ?_ fun actor _ => Raises.bind ?_ fun found hfound => ?_
  · unfold actorKey
    split
    · exact raises_ok _
    · exact raises_ok _
    · exact raises_error (foreseen_raise _ _ _)
  · exact (raises_require fun _ => foreseen_raise _ _ _).bind fun _ _ => raises_ok _
  · cases found with
    | some found => exact raises_ok _
    | none =>
      refine (editCart_foreseen hs fun _ _ => addToCart_foreseen).bind fun p hedit => ?_
      exact (remember_foreseen hs (editCart_idempotency hedit) hfound).bind fun _ _ => raises_ok _

theorem saveForLater_foreseen {itemId : UUID} (hs : Sound env s) :
    Raises Foreseen (saveForLater env now s itemId caller expectedVersion) := by
  refine editCart_foreseen hs fun drawn cart => (findItem_foreseen itemId).bind fun item _ => ?_
  split
  · exact raises_ok _
  · next hnone =>
    have hroom : ∀ saved ∈ cart.savedItems, saved.variant ≠ item.variantId :=
      Table.get?_eq_none.mp hnone
    obtain ⟨savedItems, hinsert⟩ := Table.insert?_isSome
      (r := SavedItem.mk item.toProductColumns (env.uuid4.value drawn)) hroom
    rw [hinsert]
    exact raises_ok _

theorem moveSavedToCart_foreseen {savedItemId : UUID} (hs : Sound env s) :
    Raises Foreseen (moveSavedToCart env now s savedItemId caller expectedVersion peers) := by
  refine editCart_foreseen hs fun drawn cart =>
    (findSaved_foreseen savedItemId).bind fun saved _ => ?_
  refine (getSnapshot_foreseen _ _).bind fun snapshot hsnapshot => ?_
  split
  · exact (raises_require fun _ => quantityLimit_foreseen).bind fun _ _ =>
      (applySnapshot_foreseen _ _).bind fun _ _ => raises_ok _
  · next hnone =>
    refine (newItem_foreseen _ _ _ _).bind fun item hitem => ?_
    refine (insertItem_foreseen ?_).bind fun _ _ => raises_ok _
    have hvariant : item.variant = saved.variantId :=
      (newItem_eq_ok hitem).2.2.1.trans (getSnapshot_variantId hsnapshot)
    rw [hvariant]
    exact hnone

theorem readiness_foreseen (hs : Sound env s) :
    Raises Foreseen (readiness env now s caller expectedVersion peers) := by
  refine (resolveCart_foreseen hs).bind fun _ _ => ?_
  refine (raises_require fun _ => foreseen_raise _ _ _).bind fun _ _ => ?_
  refine (raises_mapM (fun item => ?_) _).bind fun checks _ => ?_
  · exact (getSnapshot_foreseen _ _).bind fun _ _ =>
      (getAvailability_foreseen _ _).bind fun _ _ => raises_ok _
  · refine (raises_foldlM (fun items check => ?_) _ _).bind fun _ _ => raises_ok _
    unfold refreshItem
    split
    · exact (applySnapshot_foreseen _ _).bind fun _ _ => raises_ok _
    · exact raises_ok _

end Edit

/-! ## Merging -/

section Merge

variable {env : Env} {now : DateTime} {s : Store}

/-- The second loop of a merge never fails. -/
theorem mergeSavedItems_succeeds (env : Env) (saved guest : Table SavedItem.variant) (drawn : Nat) :
    ∃ acc, guest.rows.foldlM (mergeSaved env saved) (drawn, saved) = .ok acc := by
  have hbad : ∀ (acc : Nat × Table SavedItem.variant) (source : SavedItem) (e : Failure),
      mergeSaved env saved acc source = .error e →
      acc.2.get? source.variant ≠ saved.get? source.variant := by
    intro acc source e hrun htarget
    unfold mergeSaved at hrun
    split at hrun
    · cases hrun
    · next hnone =>
      have hroom : ∀ x ∈ acc.2, SavedItem.variant x ≠ source.variant :=
        Table.get?_eq_none.mp (htarget.trans hnone)
      obtain ⟨savedItems, hinsert⟩ := Table.insert?_isSome
        (r := { source with id := env.uuid4.value acc.1 }) hroom
      rw [hinsert] at hrun
      cases hrun
  cases hrun : guest.rows.foldlM (mergeSaved env saved) (drawn, saved) with
  | ok acc => exact ⟨acc, rfl⟩
  | error e =>
    obtain ⟨source, -, hne⟩ := foldlM_keyed_error (f := mergeSaved env saved)
      (r := fun acc : Nat × Table SavedItem.variant => acc.2.get?)
      (B := fun target source _ => target ≠ saved.get? source.variant)
      (fun _ _ _ hrun => (mergeSaved_eq_ok hrun).2.2) hbad guest.nodup hrun
    exact absurd rfl hne

theorem mergeSavedItems_raises (P : Failure → Prop) (saved guest : Table SavedItem.variant)
    (drawn : Nat) : Raises P (guest.rows.foldlM (mergeSaved env saved) (drawn, saved)) := by
  obtain ⟨acc, hrun⟩ := mergeSavedItems_succeeds env saved guest drawn
  rw [hrun]
  exact raises_ok acc

theorem mergeGuest_foreseen {principal : Principal} {token : GuestToken} (hs : Sound env s) :
    Raises Foreseen (mergeGuest env now s principal token) := by
  refine (raises_orRaise fun _ => foreseen_raise _ _ _).bind fun guest _ => ?_
  refine (resolveCart_foreseen hs).bind fun _ _ => ?_
  refine Raises.bind (fun e he => ?_) fun _ _ =>
    (mergeSavedItems_raises _ _ _ _).bind fun _ _ => raises_ok _
  obtain ⟨source, -, -, rfl⟩ := mergeItems_eq_error he
  exact foreseen_raise _ _ _

end Merge

/-! ## A request -/

/-- Whatever the service has been asked before, no constraint refuses a request but
the check of a price. -/
theorem constraints_idle (env : Env) (calls : List (DateTime × Request))
    (call : DateTime × Request) :
    Raises Foreseen (serve env (run (step env) Store.empty calls) call) := by
  have hs : Sound env (run (step env) Store.empty calls) := sound_run calls
  obtain ⟨now, request⟩ := call
  cases request with
  | createGuestCart => exact (createGuestCart_foreseen hs).map
  | getCart caller => exact (resolveCart_foreseen hs).map
  | addItem data caller version key peers => exact (addItem_foreseen hs).map
  | updateItem itemId data caller version =>
    refine (editCart_foreseen hs fun drawn cart => ?_).map
    exact (raises_require fun _ => quantityLimit_foreseen).bind fun _ _ =>
      (findItem_foreseen itemId).bind fun _ _ => raises_ok _
  | removeItem itemId caller version =>
    exact (editCart_foreseen hs fun drawn cart =>
      (findItem_foreseen itemId).bind fun _ _ => raises_ok _).map
  | saveForLater itemId caller version => exact (saveForLater_foreseen hs).map
  | moveSavedToCart itemId caller version peers => exact (moveSavedToCart_foreseen hs).map
  | deleteSavedItem itemId caller version =>
    exact (editCart_foreseen hs fun drawn cart =>
      (findSaved_foreseen itemId).bind fun _ _ => raises_ok _).map
  | checkReadiness caller version peers => exact (readiness_foreseen hs).map
  | mergeGuestCart token principal => exact (mergeGuest_foreseen hs).map
  | clearCart caller version => exact (editCart_foreseen hs fun _ _ => raises_ok _).map
  | markCheckedOut cartId data principal =>
    refine ((raises_orRaise fun _ => foreseen_raise _ _ _).bind fun cart _ => ?_).map
    refine (raises_require fun _ => foreseen_raise _ _ _).bind fun _ _ => ?_
    exact assertActive_foreseen.bind fun _ _ =>
      (raises_require fun _ => foreseen_raise _ _ _).bind fun _ _ => raises_ok _
  | expireRead principal => exact raises_ok _
  | expireWrite sweep => exact raises_ok _

end Carts
end Marketplace
