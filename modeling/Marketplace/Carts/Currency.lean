import Marketplace.Carts.Merge

/-!
# Carts: one currency

A cart states one currency, and the Order Service adds up its lines under it.
`add_item` refuses a product of another currency, but only where it adds an item.
More units of an item that is there, a saved item that is moved back, a refresh by
the readiness check and a merge copy whatever currency the product or the guest's
item has.  Every cart has one currency, in every state of a run, if and only if none
of these copies another one.
-/

namespace Marketplace
namespace Carts

open Base

/-- Every item has the currency of the cart. -/
def Cart.Uniform (cart : Cart) : Prop := ∀ item ∈ cart.items, item.currencyCode = cart.currencyCode

def OneCurrency (s : Store) : Prop := ∀ cart ∈ s.carts, cart.Uniform

/-- The request has an item of another currency for the cart, and does not compare
the two. -/
inductive Foreign (env : Env) (s : Store) (cart : Cart) : Request → Prop
  | added {data : CartItemCreate} {caller : Caller} {version : Version}
      {key : Option IdempotencyKey} {peers : Peers} {actor : Actor} {existing : CartItem}
      {snapshot : ProductSnapshot} :
      actorKey env caller = .ok actor → replayed env s actor key data = .ok none →
      cart.items.get? data.variantId = some existing →
      peers.getSnapshot data.productId data.variantId = .ok snapshot →
      snapshot.currencyCode ≠ cart.currencyCode →
      Foreign env s cart (.addItem data caller version key peers)
  | moved {savedItemId : UUID} {caller : Caller} {version : Version} {peers : Peers}
      {saved : SavedItem} {snapshot : ProductSnapshot} :
      cart.findSaved savedItemId = .ok saved →
      peers.getSnapshot saved.productId saved.variantId = .ok snapshot →
      snapshot.currencyCode ≠ cart.currencyCode →
      Foreign env s cart (.moveSavedToCart savedItemId caller version peers)
  | refreshed {caller : Caller} {version : Version} {peers : Peers} {item : CartItem}
      {check : ItemCheck} :
      item ∈ cart.items → checkItem peers item = .ok check → check.changed = true →
      check.snapshot.currencyCode ≠ cart.currencyCode →
      Foreign env s cart (.checkReadiness caller version peers)
  | merged {token : GuestToken} {principal : Principal} {guest : Cart} {source : CartItem} :
      s.guestCart (env.tokenHash token.text) = some guest → source ∈ guest.items →
      cart.items.get? source.variant = none → source.currencyCode ≠ cart.currencyCode →
      Foreign env s cart (.mergeGuestCart token principal)

/-- The request goes through and brings an item of another currency into a cart. -/
def Mixes (env : Env) (s : Store) (call : DateTime × Request) : Prop :=
  ∃ caller b cart s', call.2.caller = some caller ∧
    resolveCart env call.1 s caller = .ok (b, cart) ∧ Foreign env s cart call.2 ∧
    serve env s call = .ok s'

/-! ## The cart of a request -/

section Find

variable {env : Env} {now : DateTime} {s s' b : Store} {caller : Caller} {cart cart' : Cart}
  {request : Request}

/-- The active cart with a guest token is the only one. -/
theorem Sound.guestCart (hs : Sound env s) {hash : String} (hcart : cart ∈ s.carts)
    (htoken : cart.guestTokenHash = some hash) (hactive : cart.status = .active) :
    s.guestCart hash = some cart := by
  cases hfound : s.guestCart hash with
  | none => exact absurd hactive (guestCart_eq_none.mp hfound cart hcart htoken)
  | some other =>
    obtain ⟨hmem, hother, -⟩ := guestCart_eq_some hfound
    have hsame : other = cart := by
      refine hs.one_token other hmem cart hcart (hother.trans htoken.symm) ?_
      rw [hother]
      exact Option.some_ne_none _
    rw [hsame]

/-- There is one cart that a request can find. -/
theorem Resolved.resolveCart (hs : Sound env s) (h : Resolved env now s caller b cart) :
    resolveCart env now s caller = .ok (b, cart) := by
  have hfind : findCart env now s caller = .ok (b, cart) := by
    obtain ⟨principal, guestToken⟩ := caller
    have howned := h.owned
    cases principal with
    | some principal =>
      simp only [findCart, customerCart]
      rcases h.stored with rfl | ⟨principal', hprincipal, hnone, rfl, hadd⟩
      · rw [hs.activeCustomerCart h.mem howned h.isOpen.1]
      · cases hprincipal
        rw [hnone]
        show (s.addCart (freshCart env now s principal.subject) >>= fun b => _) = _
        rw [hadd]
        rfl
    | none =>
      cases guestToken with
      | some token =>
        rcases h.stored with rfl | ⟨_, hprincipal, -⟩
        · simp only [findCart]
          rw [hs.guestCart h.mem howned h.isOpen.1]
          rfl
        · cases hprincipal
      | none => exact howned.elim
  have hopen : assertActive now cart = .ok () := assertActive_eq_ok.mpr h.isOpen
  simp only [Carts.resolveCart]
  rw [hfind, ok_bind]
  show (assertActive now cart >>= fun _ => _) = _
  rw [hopen]
  rfl

theorem Resolved.oneCurrency (hu : OneCurrency s) (h : Resolved env now s caller b cart) :
    OneCurrency b := by
  rcases h.stored with rfl | ⟨_, -, -, rfl, hadd⟩
  · exact hu
  · obtain ⟨-, -, carts, hinsert, rfl⟩ := addCart_eq_ok hadd
    exact Table.forall_insert hu (fun item hitem => absurd hitem (Table.not_mem_empty item)) hinsert

/-- Whether a request mixes currencies shows in the cart it works on. -/
theorem Resolved.mixes_iff (hs : Sound env s) (h : Resolved env now s caller b cart)
    (hcaller : request.caller = some caller) (hserve : serve env s (now, request) = .ok s') :
    Mixes env s (now, request) ↔ Foreign env s cart request := by
  constructor
  · rintro ⟨caller', b', cart', s'', hcaller', hresolve, hforeign, -⟩
    rw [hcaller] at hcaller'
    cases hcaller'
    rw [h.resolveCart hs] at hresolve
    cases hresolve
    exact hforeign
  · intro hforeign
    exact ⟨caller, b, cart, s', hcaller, h.resolveCart hs, hforeign, hserve⟩

theorem not_mixes_of_quiet {call : DateTime × Request} (h : ∀ cart, ¬Foreign env s cart call.2) :
    ¬Mixes env s call := by
  rintro ⟨_, _, cart, _, -, -, hforeign, -⟩
  exact h cart hforeign

/-- Writing the cart back leaves the question with that cart. -/
theorem Resolved.oneCurrency_put (hu : OneCurrency s) (h : Resolved env now s caller b cart)
    (hid : cart'.id = cart.id) {drawn : Nat} :
    OneCurrency { b with carts := b.carts.put cart', drawn := drawn } ↔ cart'.Uniform :=
  Table.forall_put_iff (h.oneCurrency hu) h.mem hid

end Find

/-! ## Requests that keep the currency -/

section Keep

variable {env : Env} {now : DateTime} {s s' : Store} {caller : Caller} {cart : Cart}
  {expectedVersion : Version} {change : Nat → Cart → Except Failure (Nat × Cart)}

theorem editCart_oneCurrency (hu : OneCurrency s)
    (hchange : ∀ drawn cart drawn' cart', change drawn cart = .ok (drawn', cart') →
      cart'.id = cart.id ∧ (cart.Uniform → cart'.Uniform))
    (h : editCart env now s caller expectedVersion change = .ok (s', cart)) : OneCurrency s' := by
  obtain ⟨b, found, drawn, changed, hresolved, -, hrun, rfl, rfl⟩ := editCart_eq_ok h
  obtain ⟨hid, hkeep⟩ := hchange _ _ _ _ hrun
  refine (hresolved.oneCurrency_put hu ?_).mpr ?_
  · exact hid
  · exact hkeep (hresolved.oneCurrency hu found hresolved.mem)

theorem updateQuantity_oneCurrency (hu : OneCurrency s) {itemId : UUID} {data : CartItemUpdate}
    (h : updateQuantity env now s itemId data caller expectedVersion = .ok (s', cart)) :
    OneCurrency s' := by
  refine editCart_oneCurrency hu (fun drawn c drawn' c' hrun => ?_) h
  simp only [bind_eq_ok, require_eq_ok, pure_eq_ok, Prod.mk.injEq] at hrun
  obtain ⟨_, -, item, hitem, rfl, rfl⟩ := hrun
  exact ⟨rfl, fun hc => Table.forall_put hc (hc item (findItem_eq_ok hitem).1)⟩

theorem removeItem_oneCurrency (hu : OneCurrency s) {itemId : UUID}
    (h : removeItem env now s itemId caller expectedVersion = .ok (s', cart)) :
    OneCurrency s' := by
  refine editCart_oneCurrency hu (fun drawn c drawn' c' hrun => ?_) h
  simp only [bind_eq_ok, pure_eq_ok, Prod.mk.injEq] at hrun
  obtain ⟨item, -, rfl, rfl⟩ := hrun
  exact ⟨rfl, fun hc => Table.forall_erase hc _⟩

theorem saveForLater_oneCurrency (hu : OneCurrency s) {itemId : UUID}
    (h : saveForLater env now s itemId caller expectedVersion = .ok (s', cart)) :
    OneCurrency s' := by
  refine editCart_oneCurrency hu (fun drawn c drawn' c' hrun => ?_) h
  simp only [bind_eq_ok] at hrun
  obtain ⟨item, -, hrun⟩ := hrun
  split at hrun
  · simp only [pure_eq_ok, bind_eq_ok, exists_eq_left', Prod.mk.injEq] at hrun
    obtain ⟨rfl, rfl⟩ := hrun
    exact ⟨rfl, fun hc => Table.forall_erase hc _⟩
  · simp only [bind_eq_ok, pure_eq_ok, exists_eq_left', Prod.mk.injEq] at hrun
    obtain ⟨_, -, rfl, rfl⟩ := hrun
    exact ⟨rfl, fun hc => Table.forall_erase hc _⟩

theorem deleteSaved_oneCurrency (hu : OneCurrency s) {savedItemId : UUID}
    (h : deleteSaved env now s savedItemId caller expectedVersion = .ok (s', cart)) :
    OneCurrency s' := by
  refine editCart_oneCurrency hu (fun drawn c drawn' c' hrun => ?_) h
  simp only [bind_eq_ok, pure_eq_ok, Prod.mk.injEq] at hrun
  obtain ⟨saved, -, rfl, rfl⟩ := hrun
  exact ⟨rfl, fun hc => hc⟩

theorem clear_oneCurrency (hu : OneCurrency s)
    (h : clear env now s caller expectedVersion = .ok (s', cart)) : OneCurrency s' := by
  refine editCart_oneCurrency hu (fun drawn c drawn' c' hrun => ?_) h
  simp only [pure_eq_ok, Prod.mk.injEq] at hrun
  obtain ⟨rfl, rfl⟩ := hrun
  exact ⟨rfl, fun _ item hitem => absurd hitem (Table.not_mem_empty item)⟩

theorem markCheckedOut_oneCurrency (hu : OneCurrency s) {cartId : UUID}
    {data : MarkCheckedOutRequest} (h : markCheckedOut now s cartId data = .ok (s', cart)) :
    OneCurrency s' := by
  obtain ⟨row, hget, -, -, -, rfl, rfl⟩ := markCheckedOut_eq_ok h
  exact Table.forall_put hu (hu row (Table.mem_of_get? hget))

theorem createGuestCart_oneCurrency (hu : OneCurrency s) {rawToken : String}
    (h : createGuestCart env now s = .ok (s', rawToken, cart)) : OneCurrency s' := by
  simp only [createGuestCart, bind_eq_ok, pure_eq_ok, Prod.mk.injEq] at h
  obtain ⟨b, hadd, rfl, -, -⟩ := h
  obtain ⟨-, -, carts, hinsert, rfl⟩ := addCart_eq_ok hadd
  exact Table.forall_insert hu (fun item hitem => absurd hitem (Table.not_mem_empty item)) hinsert

theorem expire_oneCurrency (hu : OneCurrency s) (read : UUID × Nat) :
    OneCurrency (s.expire read) := by
  unfold Store.expire
  split
  · next row hget => exact Table.forall_put hu (hu row (Table.mem_of_get? hget))
  · exact hu

theorem expireWrite_oneCurrency (hu : OneCurrency s) (sweep : Nat) :
    OneCurrency (expireWrite s sweep) := by
  unfold expireWrite
  split
  · next carts _ =>
    have hloop : ∀ (reads : List (UUID × Nat)) (t : Store), OneCurrency t →
        OneCurrency (reads.foldl Store.expire t) := by
      intro reads
      induction reads with
      | nil => exact fun _ ht => ht
      | cons read rest ih => exact fun t ht => ih _ (expire_oneCurrency ht read)
    exact hloop carts _ hu
  · exact hu

end Keep

/-! ## More units, and items moved back -/

section Copy

variable {env : Env} {now : DateTime} {s s' : Store} {caller : Caller} {cart cart' : Cart}
  {expectedVersion : Version} {peers : Peers}

/-- An item into which its product is copied stays in its place. -/
theorem applySnapshot_variant {items : Table CartItem.variant} {existing old item : CartItem}
    {snapshot : ProductSnapshot} {productId variantId : UUID}
    (hget : items.get? variantId = some existing)
    (hsnapshot : peers.getSnapshot productId variantId = .ok snapshot)
    (happly : applySnapshot old snapshot = .ok item) : item.variant = existing.variant := by
  obtain ⟨-, -, -, hvariant, -⟩ := applySnapshot_eq_ok happly
  rw [CartItem.variant, hvariant, getSnapshot_variantId hsnapshot]
  exact (Table.key_of_get? hget).symm

/-- Adding to a cart keeps its currency unless the variant is there already and the
product has another one by now. -/
theorem addToCart_uniform {data : CartItemCreate} {drawn drawn' : Nat} (hc : cart.Uniform)
    (h : addToCart env now data caller peers drawn cart = .ok (drawn', cart')) :
    cart'.Uniform ↔ ∀ existing snapshot, cart.items.get? data.variantId = some existing →
      peers.getSnapshot data.productId data.variantId = .ok snapshot →
      snapshot.currencyCode = cart.currencyCode := by
  obtain ⟨-, snapshot, hsnapshot, hbranch⟩ := addToCart_eq_ok h
  rcases hbranch with ⟨existing, item, hget, -, happly, rfl, rfl⟩ |
    ⟨item, items, hget, hcurrency, hnew, hinsert, rfl, rfl⟩
  · obtain ⟨-, -, -, -, hitem⟩ := applySnapshot_eq_ok happly
    have hkey := applySnapshot_variant hget hsnapshot happly
    refine (Table.forall_put_iff hc (Table.mem_of_get? hget) hkey).trans ?_
    rw [hitem]
    constructor
    · intro hsame existing' snapshot' _ hsnapshot'
      rw [hsnapshot] at hsnapshot'
      cases hsnapshot'
      exact hsame
    · exact fun hall => hall existing snapshot hget hsnapshot
  · obtain ⟨-, -, -, hitem⟩ := newItem_eq_ok hnew
    have hold : ∀ x ∈ cart.items, x.currencyCode = snapshot.currencyCode := by
      intro x hx
      rcases hcurrency with hempty | hsame
      · rw [Table.mem_def, hempty] at hx
        cases hx
      · exact (hc x hx).trans hsame
    refine iff_of_true (Table.forall_insert hold hitem hinsert) fun existing _ hget' => ?_
    rw [hget] at hget'
    cases hget'

theorem addItem_oneCurrency_iff {data : CartItemCreate} {key : Option IdempotencyKey}
    (hs : Sound env s) (hu : OneCurrency s)
    (h : addItem env now s data caller expectedVersion key peers = .ok (s', cart)) :
    OneCurrency s' ↔ ¬Mixes env s (now, .addItem data caller expectedVersion key peers) := by
  have hserve : serve env s (now, .addItem data caller expectedVersion key peers) = .ok s' := by
    simp only [serve, h]
    rfl
  obtain ⟨actor, hactor, ⟨hrepeat, rfl⟩ | ⟨b₁, hfirst, hedit, hremember⟩⟩ := addItem_eq_ok h
  · refine iff_of_true hu (not_mixes_of_quiet fun c hforeign => ?_)
    cases hforeign with
    | added hactor' hfirst _ _ _ =>
      rw [hactor] at hactor'
      cases hactor'
      rw [hrepeat] at hfirst
      cases hfirst
  · obtain ⟨b, found, drawn, changed, hresolved, -, hrun, rfl, rfl⟩ := editCart_eq_ok hedit
    have hid : changed.id = found.id := congrArg Face.id (addToCart_edits hrun).face
    have hcarts : s'.carts = b.carts.put { changed with version := changed.version + 1 } := by
      rcases remember_eq_ok hremember with ⟨-, rfl⟩ | ⟨_, _, -, -, rfl⟩
      · rfl
      · rfl
    have hone : OneCurrency s' ↔ changed.Uniform := by
      unfold OneCurrency
      rw [hcarts]
      exact Table.forall_put_iff (hresolved.oneCurrency hu) hresolved.mem hid
    have hadded := addToCart_uniform (hresolved.oneCurrency hu found hresolved.mem) hrun
    rw [hone, hresolved.mixes_iff hs rfl hserve]
    constructor
    · intro huniform hforeign
      cases hforeign with
      | added _ _ hget hsnapshot hne => exact hne (hadded.mp huniform _ _ hget hsnapshot)
    · intro hnot
      refine hadded.mpr fun existing snapshot hget hsnapshot => ?_
      by_contra hne
      exact hnot (.added hactor hfirst hget hsnapshot hne)

theorem moveSavedToCart_oneCurrency_iff {savedItemId : UUID} (hs : Sound env s)
    (hu : OneCurrency s)
    (h : moveSavedToCart env now s savedItemId caller expectedVersion peers = .ok (s', cart)) :
    OneCurrency s' ↔
      ¬Mixes env s (now, .moveSavedToCart savedItemId caller expectedVersion peers) := by
  have hserve : serve env s (now, .moveSavedToCart savedItemId caller expectedVersion peers) =
      .ok s' := by
    simp only [serve, h]
    rfl
  obtain ⟨b, c, saved, snapshot, drawn, item, items, hresolved, hsaved, hsnapshot, hitems, rfl,
    rfl⟩ := moveSavedToCart_eq_ok h
  have hc : c.Uniform := hresolved.oneCurrency hu c hresolved.mem
  have hcopied : (∀ x ∈ items, x.currencyCode = c.currencyCode) ↔
      snapshot.currencyCode = c.currencyCode := by
    rcases hitems with ⟨existing, hget, -, happly, -, rfl⟩ | ⟨hnew, hinsert, -⟩
    · obtain ⟨-, -, -, -, hitem⟩ := applySnapshot_eq_ok happly
      have hkey := applySnapshot_variant hget hsnapshot happly
      rw [← hitem]
      exact Table.forall_put_iff hc (Table.mem_of_get? hget) hkey
    · obtain ⟨-, -, -, hitem⟩ := newItem_eq_ok hnew
      rw [← hitem]
      exact Table.forall_insert_iff hc hinsert
  refine (hresolved.oneCurrency_put hu ?_).trans (Iff.trans hcopied ?_)
  · rfl
  rw [hresolved.mixes_iff hs rfl hserve]
  constructor
  · intro hsame hforeign
    cases hforeign with
    | moved hsaved' hsnapshot' hne =>
      rw [hsaved] at hsaved'
      cases hsaved'
      rw [hsnapshot] at hsnapshot'
      cases hsnapshot'
      exact hne hsame
  · intro hnot
    by_contra hne
    exact hnot (.moved hsaved hsnapshot hne)

/-! ## Refreshed items -/

/-- What a turn of the refresh makes of the item of a variant. -/
def Refreshed (target : Option CartItem) (check : ItemCheck) (result : Option CartItem) : Prop :=
  (check.changed = false ∧ result = target) ∨ (check.changed = true ∧
    ∃ item : CartItem, item.currencyCode = check.snapshot.currencyCode ∧
      result = target.map fun _ => item)

theorem refreshItem_get? {items items' : Table CartItem.variant} {check : ItemCheck}
    (h : refreshItem items check = .ok items') :
    Refreshed (items.get? check.snapshot.variantId) check
        (items'.get? check.snapshot.variantId) ∧
      ∀ v, v ≠ check.snapshot.variantId → items'.get? v = items.get? v := by
  rcases refreshItem_eq_ok h with ⟨hsame, rfl⟩ | ⟨hchanged, item, happly, rfl⟩
  · exact ⟨Or.inl ⟨hsame, rfl⟩, fun _ _ => rfl⟩
  · obtain ⟨-, -, -, hvariant, hcurrency⟩ := applySnapshot_eq_ok happly
    have hkey : check.snapshot.variantId = item.variant := hvariant.symm
    refine ⟨Or.inr ⟨hchanged, item, hcurrency, ?_⟩, fun v hv => ?_⟩
    · rw [Table.get?_put, if_pos hkey]
    · exact Table.get?_put_ne (hkey ▸ hv)

/-- The refresh of a cart keeps its currency if and only if no product that has
changed has another one. -/
theorem refresh_uniform {checks : List ItemCheck} {items : Table CartItem.variant}
    (hc : cart.Uniform) (hchecks : cart.items.rows.mapM (checkItem peers) = .ok checks)
    (hitems : checks.foldlM refreshItem cart.items = .ok items) :
    (∀ item ∈ items, item.currencyCode = cart.currencyCode) ↔
      ∀ check ∈ checks, check.changed = true →
        check.snapshot.currencyCode = cart.currencyCode := by
  have hread : ∀ item check, checkItem peers item = .ok check →
      check.snapshot.variantId = item.variant :=
    fun item check hrun => getSnapshot_variantId (checkItem_eq_ok hrun).2.1
  have hkeys : checks.map (fun c => c.snapshot.variantId) = cart.items.rows.map CartItem.variant :=
    mapM_reads hread hchecks
  -- The checks are about different variants, as the items are.
  let checked : Table fun c : ItemCheck => c.snapshot.variantId :=
    ⟨checks, hkeys ▸ cart.items.nodup⟩
  have hplace := foldlM_keyed (f := refreshItem)
    (r := fun items : Table CartItem.variant => items.get?) (T := Refreshed)
    (fun _ _ _ hrun => refreshItem_get? hrun) checked.nodup hitems
  constructor
  · intro hall check hcheck hchanged
    obtain ⟨item, hitem, hrun⟩ := (mem_mapM hchecks).1 check hcheck
    have hv : check.snapshot.variantId = item.variant := hread item check hrun
    have hfound : checked.get? item.variant = some check := hv ▸ Table.get?_key hcheck
    have hp := hplace item.variant
    rw [Table.get?] at hfound
    simp only [hfound] at hp
    rw [Table.get?_key hitem] at hp
    rcases hp with ⟨hsame, -⟩ | ⟨-, new, hcurrency, hnew⟩
    · rw [hchanged] at hsame
      cases hsame
    · rw [← hcurrency]
      exact hall new (Table.mem_of_get? hnew)
  · intro hall item hitem
    have hp := hplace item.variant
    cases hfound : checked.rows.find? fun c => c.snapshot.variantId = item.variant with
    | none =>
      simp only [hfound] at hp
      rw [Table.get?_key hitem] at hp
      exact hc item (Table.mem_of_get? hp.symm)
    | some check =>
      simp only [hfound] at hp
      rw [Table.get?_key hitem] at hp
      rcases hp with ⟨-, hsame⟩ | ⟨hchanged, new, hcurrency, hnew⟩
      · exact hc item (Table.mem_of_get? hsame.symm)
      · obtain ⟨_, -, rfl⟩ := Option.map_eq_some_iff.mp hnew.symm
        rw [hcurrency]
        exact hall check (List.mem_of_find?_eq_some hfound) hchanged

theorem readiness_oneCurrency_iff {response : CheckoutReadinessResponse} (hs : Sound env s)
    (hu : OneCurrency s)
    (h : readiness env now s caller expectedVersion peers = .ok (s', response)) :
    OneCurrency s' ↔ ¬Mixes env s (now, .checkReadiness caller expectedVersion peers) := by
  have hserve : serve env s (now, .checkReadiness caller expectedVersion peers) = .ok s' := by
    simp only [serve, h]
    rfl
  obtain ⟨b, c, checks, items, hresolved, -, hchecks, hitems, -, -, hpriceChanged, rfl⟩ :=
    readiness_eq_ok h
  have hforeign : Foreign env s c (.checkReadiness caller expectedVersion peers) ↔
      ∃ check ∈ checks, check.changed = true ∧ check.snapshot.currencyCode ≠ c.currencyCode := by
    constructor
    · intro hf
      cases hf with
      | refreshed hitem hrun hchanged hne =>
        obtain ⟨check, hcheck, hrun'⟩ := (mem_mapM hchecks).2 _ hitem
        rw [hrun] at hrun'
        cases hrun'
        exact ⟨_, hcheck, hchanged, hne⟩
    · rintro ⟨check, hcheck, hchanged, hne⟩
      obtain ⟨item, hitem, hrun⟩ := (mem_mapM hchecks).1 check hcheck
      exact .refreshed hitem hrun hchanged hne
  rw [hresolved.mixes_iff hs rfl hserve, hforeign]
  split
  · have hcopied := refresh_uniform (hresolved.oneCurrency hu c hresolved.mem) hchecks hitems
    refine (hresolved.oneCurrency_put hu ?_).trans (Iff.trans hcopied ?_)
    · rfl
    constructor
    · rintro hall ⟨check, hcheck, hchanged, hne⟩
      exact hne (hall check hcheck hchanged)
    · intro hnot check hcheck hchanged
      by_contra hne
      exact hnot ⟨check, hcheck, hchanged, hne⟩
  · next hsame =>
    refine iff_of_true hu ?_
    rintro ⟨check, hcheck, hchanged, -⟩
    rw [hpriceChanged] at hsame
    exact hsame (List.any_eq_true.mpr ⟨check, hcheck, hchanged⟩)

end Copy

/-! ## Merged items -/

section Merge

variable {env : Env} {now : DateTime} {s s' b : Store} {principal : Principal} {token : GuestToken}
  {cart guest customer : Cart}

/-- A merge keeps the currency of the customer's cart if and only if no item it adds
has another one. -/
theorem Merges.uniform (h : Merges env now s principal token s' cart b guest customer)
    (hc : customer.Uniform) :
    cart.Uniform ↔ ∀ source ∈ guest.items, customer.items.get? source.variant = none →
      source.currencyCode = customer.currencyCode := by
  unfold Cart.Uniform
  rw [h.currency]
  constructor
  · intro hall source hsource hnone
    have hmerged := h.items source.variant
    rw [hnone, Table.get?_key hsource] at hmerged
    obtain ⟨id, hget⟩ := hmerged
    have hadded := hall _ (Table.mem_of_get? hget)
    exact hadded
  · intro hall item hitem
    have hmerged := h.items item.variant
    rw [Table.get?_key hitem] at hmerged
    cases hsource : guest.items.get? item.variant with
    | none =>
      rw [hsource, mergedItem_none] at hmerged
      exact hc item (Table.mem_of_get? hmerged.symm)
    | some source =>
      cases htarget : customer.items.get? item.variant with
      | none =>
        rw [hsource, htarget] at hmerged
        obtain ⟨id, hsame⟩ := hmerged
        have hkey : source.variant = item.variant := Table.key_of_get? hsource
        cases hsame
        exact hall source (Table.mem_of_get? hsource) (hkey ▸ htarget)
      | some target =>
        rw [hsource, htarget] at hmerged
        cases hmerged
        exact hc target (Table.mem_of_get? htarget)

theorem mergeGuest_oneCurrency_iff (hs : Sound env s) (hu : OneCurrency s)
    (h : mergeGuest env now s principal token = .ok (s', cart)) :
    OneCurrency s' ↔ ¬Mixes env s (now, .mergeGuestCart token principal) := by
  have hserve : serve env s (now, .mergeGuestCart token principal) = .ok s' := by
    simp only [serve, h]
    rfl
  obtain ⟨b, guest, customer, hm⟩ := mergeGuest_eq_ok h
  have hb : OneCurrency b := hm.resolved.oneCurrency hu
  have hguest : s.guestCart (env.tokenHash token.text) = some guest :=
    hs.guestCart hm.guest_mem hm.guest_token hm.guest_active
  have hne : customer.id ≠ guest.id := hm.distinct hs.owned
  have hid : cart.id = customer.id := congrArg Face.id hm.face
  have hmixes : Mixes env s (now, .mergeGuestCart token principal) ↔
      Foreign env s customer (.mergeGuestCart token principal) :=
    hm.resolved.mixes_iff hs rfl hserve
  obtain ⟨drawn, -, rfl⟩ := hm.written
  have hgone : ∀ c ∈ b.carts.put (guest.mergedInto customer.id), c.Uniform :=
    Table.forall_put hb (hu guest hm.guest_mem)
  have hkept : customer ∈ b.carts.put (guest.mergedInto customer.id) :=
    Table.mem_put.mpr (Or.inr ⟨hm.resolved.mem, hne⟩)
  refine (Table.forall_put_iff hgone hkept hid).trans ?_
  refine (hm.uniform (hb customer hm.resolved.mem)).trans ?_
  rw [hmixes]
  constructor
  · intro hall hforeign
    cases hforeign with
    | merged hguest' hsource hnone hother =>
      rw [hguest] at hguest'
      cases hguest'
      exact hother (hall _ hsource hnone)
  · intro hnot source hsource hnone
    by_contra hother
    exact hnot (.merged hguest hsource hnone hother)

end Merge

/-! ## A run -/

section Run

variable {env : Env} {s s' : Store} {call : DateTime × Request}

/-- A request that goes through keeps one currency if and only if it does not mix. -/
theorem serve_oneCurrency_iff (hs : Sound env s) (hu : OneCurrency s)
    (hserve : serve env s call = .ok s') : OneCurrency s' ↔ ¬Mixes env s call := by
  obtain ⟨now, request⟩ := call
  have quiet : (∀ cart, ¬Foreign env s cart request) → OneCurrency s' →
      (OneCurrency s' ↔ ¬Mixes env s (now, request)) :=
    fun hforeign hone => iff_of_true hone (not_mixes_of_quiet hforeign)
  cases request with
  | createGuestCart =>
    simp only [serve, map_eq_ok, Prod.exists] at hserve
    obtain ⟨_, token, cart, hrun, rfl⟩ := hserve
    exact quiet (fun _ hf => by cases hf) (createGuestCart_oneCurrency hu hrun)
  | getCart caller =>
    simp only [serve, map_eq_ok, Prod.exists] at hserve
    obtain ⟨_, cart, hrun, rfl⟩ := hserve
    exact quiet (fun _ hf => by cases hf) ((resolveCart_eq_ok hrun).oneCurrency hu)
  | addItem data caller version key peers =>
    simp only [serve, map_eq_ok, Prod.exists] at hserve
    obtain ⟨_, cart, hrun, rfl⟩ := hserve
    exact addItem_oneCurrency_iff hs hu hrun
  | updateItem itemId data caller version =>
    simp only [serve, map_eq_ok, Prod.exists] at hserve
    obtain ⟨_, cart, hrun, rfl⟩ := hserve
    exact quiet (fun _ hf => by cases hf) (updateQuantity_oneCurrency hu hrun)
  | removeItem itemId caller version =>
    simp only [serve, map_eq_ok, Prod.exists] at hserve
    obtain ⟨_, cart, hrun, rfl⟩ := hserve
    exact quiet (fun _ hf => by cases hf) (removeItem_oneCurrency hu hrun)
  | saveForLater itemId caller version =>
    simp only [serve, map_eq_ok, Prod.exists] at hserve
    obtain ⟨_, cart, hrun, rfl⟩ := hserve
    exact quiet (fun _ hf => by cases hf) (saveForLater_oneCurrency hu hrun)
  | moveSavedToCart itemId caller version peers =>
    simp only [serve, map_eq_ok, Prod.exists] at hserve
    obtain ⟨_, cart, hrun, rfl⟩ := hserve
    exact moveSavedToCart_oneCurrency_iff hs hu hrun
  | deleteSavedItem itemId caller version =>
    simp only [serve, map_eq_ok, Prod.exists] at hserve
    obtain ⟨_, cart, hrun, rfl⟩ := hserve
    exact quiet (fun _ hf => by cases hf) (deleteSaved_oneCurrency hu hrun)
  | checkReadiness caller version peers =>
    simp only [serve, map_eq_ok, Prod.exists] at hserve
    obtain ⟨_, response, hrun, rfl⟩ := hserve
    exact readiness_oneCurrency_iff hs hu hrun
  | mergeGuestCart token principal =>
    simp only [serve, map_eq_ok, Prod.exists] at hserve
    obtain ⟨_, cart, hrun, rfl⟩ := hserve
    exact mergeGuest_oneCurrency_iff hs hu hrun
  | clearCart caller version =>
    simp only [serve, map_eq_ok, Prod.exists] at hserve
    obtain ⟨_, cart, hrun, rfl⟩ := hserve
    exact quiet (fun _ hf => by cases hf) (clear_oneCurrency hu hrun)
  | markCheckedOut cartId data principal =>
    simp only [serve, map_eq_ok, Prod.exists] at hserve
    obtain ⟨_, cart, hrun, rfl⟩ := hserve
    exact quiet (fun _ hf => by cases hf) (markCheckedOut_oneCurrency hu hrun)
  | expireRead principal =>
    cases hserve
    exact quiet (fun _ hf => by cases hf) hu
  | expireWrite sweep =>
    cases hserve
    exact quiet (fun _ hf => by cases hf) (expireWrite_oneCurrency hu sweep)

/-- A caller's own requests need no scope. -/
theorem admitted_of_caller {request : Request} {caller : Caller}
    (h : request.caller = some caller) : request.admitted = true := by
  cases request with
  | createGuestCart | markCheckedOut | expireRead | expireWrite => cases h
  | _ => rfl

theorem step_oneCurrency_iff (hs : Sound env s) (hu : OneCurrency s)
    (call : DateTime × Request) : OneCurrency (step env s call) ↔ ¬Mixes env s call := by
  unfold step
  split
  · split
    · next s' hserve => exact serve_oneCurrency_iff hs hu hserve
    · next e herror =>
      refine iff_of_true hu ?_
      rintro ⟨_, _, _, s', -, -, -, hserve⟩
      rw [herror] at hserve
      cases hserve
  · next hrefused =>
    refine iff_of_true hu ?_
    rintro ⟨_, _, _, _, hcaller, -⟩
    exact hrefused (admitted_of_caller hcaller)

theorem OneCurrency.empty : OneCurrency Store.empty :=
  fun _ hcart => absurd hcart (Table.not_mem_empty _)

/-- A run keeps every cart in one currency, in every state it passes through, if and
only if none of its requests mixes. -/
theorem single_currency (env : Env) (calls : List (DateTime × Request)) :
    Along (step env) OneCurrency Store.empty calls ↔
      Admitted (step env) (fun s call => ¬Mixes env s call) Store.empty calls := by
  have hkeep : ∀ s call, Sound env s → Sound env (step env s call) :=
    fun _ call hs => sound_step hs call
  have hstep : ∀ s call, Sound env s → OneCurrency s →
      (OneCurrency (step env s call) ↔ ¬Mixes env s call) :=
    fun _ call hs hu => step_oneCurrency_iff hs hu call
  exact along_iff_admitted hkeep hstep (.empty env) .empty

end Run

/-! ## A guest who signs in -/

section SignIn

variable {env : Env} {s s' b : Store} {principal : Principal} {token : GuestToken}
  {cart guest customer : Cart}

/-- A guest's cart is taken over by a customer without one: there is nothing in the
new cart that its items could be too many with. -/
theorem mergeGuest_succeeds (hs : Sound env s) (now : DateTime)
    (hguest : s.guestCart (env.tokenHash token.text) = some guest)
    (hnone : s.activeCustomerCart principal.subject = none) :
    ∃ s' cart, mergeGuest env now s principal token = .ok (s', cart) := by
  cases hrun : mergeGuest env now s principal token with
  | ok result => exact ⟨result.1, result.2, rfl⟩
  | error e =>
    cases mergeGuest_raises hs e hrun with
    | notFound hmissing =>
      rw [hguest] at hmissing
      cases hmissing
    | expired hcustomer howner hopen _ =>
      exact absurd hopen (activeCustomerCart_eq_none.mp hnone _ hcustomer howner)
    | @overfull guest' source hguest' hsource hover =>
      have hwithin := hs.within guest' (guestCart_eq_some hguest').1 source hsource
      rw [Store.unitsOf, hnone] at hover
      simp only [Option.map_none, Option.getD_none] at hover
      omega

/-- The customer's cart is a new one. -/
theorem Merges.fresh {now : DateTime}
    (h : Merges env now s principal token s' cart b guest customer)
    (hnone : s.activeCustomerCart principal.subject = none) :
    customer = freshCart env now s principal.subject := by
  rcases h.resolved.stored with hb | ⟨principal', hprincipal, -, hfresh, -⟩
  · have hmem : customer ∈ s.carts := hb ▸ h.resolved.mem
    exact absurd h.resolved.isOpen.1
      (activeCustomerCart_eq_none.mp hnone customer hmem h.resolved.owned)
  · cases hprincipal
    exact hfresh

end SignIn

/-- In every reachable state, the items of a guest cart that is merged for a customer
without a cart come to stand in a cart in dollars, with their prices as they were,
whatever currency these are in. -/
theorem merged_into_dollars (env : Env) (calls : List (DateTime × Request)) (now : DateTime)
    (principal : Principal) (token : GuestToken) {guest : Cart} {source : CartItem}
    (hguest : (run (step env) Store.empty calls).guestCart (env.tokenHash token.text) = some guest)
    (hsource : source ∈ guest.items)
    (hnone : (run (step env) Store.empty calls).activeCustomerCart principal.subject = none) :
    ∃ cart ∈ (step env (run (step env) Store.empty calls)
        (now, .mergeGuestCart token principal)).carts,
      cart.customerId = some principal.subject ∧ cart.status = .active ∧
      cart.currencyCode = "USD" ∧
      ∃ item ∈ cart.items, item.variant = source.variant ∧ item.quantity = source.quantity ∧
        item.unitPrice = source.unitPrice ∧ item.currencyCode = source.currencyCode := by
  have hs : Sound env (run (step env) Store.empty calls) := sound_run calls
  obtain ⟨s', cart, hrun⟩ := mergeGuest_succeeds hs now hguest hnone
  have hstep : step env (run (step env) Store.empty calls)
      (now, .mergeGuestCart token principal) = s' := by
    simp only [step, Request.admitted, serve, hrun]
    rfl
  obtain ⟨b, guest', customer, hm⟩ := mergeGuest_eq_ok hrun
  have hsame : guest = guest' := by
    rw [hs.guestCart hm.guest_mem hm.guest_token hm.guest_active] at hguest
    exact (Option.some.inj hguest).symm
  subst hsame
  have hfresh := hm.fresh hnone
  have hitem := hm.items source.variant
  rw [Table.get?_key hsource, hfresh] at hitem
  obtain ⟨id, hget⟩ := hitem
  rw [hstep]
  refine ⟨cart, Table.mem_of_get? (hm.merged hs).stored, (hm.merged hs).owner, ?_, ?_, _,
    Table.mem_of_get? hget, rfl, rfl, rfl, rfl⟩
  · exact (congrArg Face.status hm.face).trans hm.resolved.isOpen.1
  · rw [hm.currency, hfresh]
    rfl

/-! ### Two mugs -/

def sampleCartEnv : Env where
  uuid4 := ⟨fun n => n, fun _ _ h => h⟩
  settings := ⟨30, 7, 100, 20, by decide, by decide, by decide, by decide⟩
  requestHash _ := "body"
  tokenUrlsafe n := String.ofList (List.replicate (43 + n) 'a')
  tokenHash token := token
  tokens_distinct m n h := by
    have hlength := congrArg String.length h
    simpa using hlength

def sampleToken : GuestToken := ⟨String.ofList (List.replicate 43 'a'), by decide⟩

def sampleCustomer : Principal := ⟨500, [.buyer], []⟩

/-- A mug for ten euros. -/
def euroPeers : Peers where
  product _ _ := some (.ok ⟨"Mug", [⟨901, true, "MUG", "Blue", 10, "EUR", 1⟩], []⟩)
  availability _ _ := none

/-- A guest takes two of them. -/
def guestCalls : List (DateTime × Request) :=
  [(0, .createGuestCart),
   (1, .addItem ⟨900, 901, 2, by decide⟩ ⟨none, some sampleToken⟩ ⟨1, Nat.one_pos⟩ none euroPeers)]

/-- The customer owes ten dollars for each. -/
theorem euros_into_dollars :
    ∃ cart ∈ (step sampleCartEnv (run (step sampleCartEnv) Store.empty guestCalls)
        (2, .mergeGuestCart sampleToken sampleCustomer)).carts,
      cart.currencyCode = "USD" ∧
      ∃ item ∈ cart.items, item.quantity = 2 ∧ item.unitPrice = 1000 ∧
        item.currencyCode = "EUR" := by
  have hmugs : ((run (step sampleCartEnv) Store.empty guestCalls).guestCart
      (sampleCartEnv.tokenHash sampleToken.text)).any (fun guest =>
        guest.items.rows.any fun source =>
          source.quantity = 2 ∧ source.unitPrice = 1000 ∧ source.currencyCode = "EUR") = true := by
    decide +kernel
  have hnone : ((run (step sampleCartEnv) Store.empty guestCalls).activeCustomerCart
      sampleCustomer.subject).isNone = true := by
    decide +kernel
  obtain ⟨guest, hguest, hitems⟩ := (Option.any_eq_true _ _).mp hmugs
  obtain ⟨source, hsource, hmug⟩ := List.any_eq_true.mp hitems
  obtain ⟨cart, hcart, -, -, hdollars, item, hitem, -, hquantity, hprice, hcurrency⟩ :=
    merged_into_dollars sampleCartEnv guestCalls 2 sampleCustomer sampleToken hguest hsource
      (Option.isNone_iff_eq_none.mp hnone)
  simp only [decide_eq_true_eq] at hmug
  exact ⟨cart, hcart, hdollars, item, hitem, hquantity.trans hmug.1, hprice.trans hmug.2.1,
    hcurrency.trans hmug.2.2⟩

end Carts
end Marketplace
