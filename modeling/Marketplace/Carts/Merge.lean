import Marketplace.Carts.Constraints

/-!
# Carts: merging a guest cart

When a guest signs in, the guest cart is merged into the customer's.  No unit is
lost and none is counted twice: of every variant the customer's cart has as many
units as the two carts had together, and the guest's is closed, with its token.  A
merge is refused only when there is nothing to merge, the customer's cart has
expired, or some variant would be over the limit.
-/

namespace Marketplace
namespace Carts

open Base

/-! ## Units -/

/-- How many units of a variant a cart has. -/
def Cart.units (cart : Cart) (variant : UUID) : Int := cart.items.weightAt CartItem.quantity variant

/-- How many units of a variant a customer has in the active cart. -/
def Store.unitsOf (s : Store) (customerId variant : UUID) : Int :=
  ((s.activeCustomerCart customerId).map fun cart => cart.units variant).getD 0

section Units

variable {env : Env} {cart guest : Cart} {variant : UUID}

theorem Cart.units_of_get? {item : CartItem} (h : cart.items.get? variant = some item) :
    cart.units variant = item.quantity := by
  unfold Cart.units Table.weightAt
  rw [h]
  rfl

theorem Cart.units_of_none (h : cart.items.get? variant = none) : cart.units variant = 0 := by
  unfold Cart.units Table.weightAt
  rw [h]
  rfl

theorem Cart.Within.units (h : cart.Within env.settings) (variant : UUID) :
    cart.units variant ≤ env.settings.maxItemQuantity := by
  cases hget : cart.items.get? variant with
  | none =>
    rw [Cart.units_of_none hget]
    exact Int.natCast_nonneg _
  | some item =>
    rw [Cart.units_of_get? hget]
    exact h item (Table.mem_of_get? hget)

/-- A merge adds up the units of each variant. -/
theorem MergedItem.units {cart' : Cart} (h : MergedItem (cart.items.get? variant)
    (guest.items.get? variant) (cart'.items.get? variant)) :
    cart'.units variant = cart.units variant + guest.units variant := by
  cases hs : guest.items.get? variant with
  | none =>
    rw [hs, mergedItem_none] at h
    unfold Cart.units Table.weightAt
    rw [hs, h]
    exact (Int.add_zero _).symm
  | some source =>
    rw [Cart.units_of_get? hs]
    cases ht : cart.items.get? variant with
    | none =>
      rw [hs, ht] at h
      obtain ⟨id, hmerged⟩ := h
      rw [Cart.units_of_none ht, Cart.units_of_get? hmerged]
      exact (Int.zero_add _).symm
    | some target =>
      rw [hs, ht] at h
      rw [Cart.units_of_get? ht, Cart.units_of_get? h]
      rfl

end Units

/-! ## What a merge does -/

/-- What a merge that goes through leaves. -/
structure Merged (env : Env) (s : Store) (principal : Principal) (token : GuestToken) (s' : Store)
    (cart guest : Cart) : Prop where
  guest_mem : guest ∈ s.carts
  guest_token : guest.guestTokenHash = some (env.tokenHash token.text)
  guest_active : guest.status = .active
  owner : cart.customerId = some principal.subject
  units : ∀ v, cart.units v = s.unitsOf principal.subject v + guest.units v
  within : ∀ v, cart.units v ≤ env.settings.maxItemQuantity
  stored : s'.carts.get? cart.id = some cart
  closed : s'.carts.get? guest.id = some (guest.mergedInto cart.id)
  others : ∀ id, id ≠ cart.id → id ≠ guest.id → s'.carts.get? id = s.carts.get? id
  token_dead : s'.guestCart (env.tokenHash token.text) = none

/-- Why a merge is refused, and how. -/
inductive MergeRefused (env : Env) (now : DateTime) (s : Store) (principal : Principal)
    (token : GuestToken) : Failure → Prop
  | notFound : s.guestCart (env.tokenHash token.text) = none →
      MergeRefused env now s principal token guestCartNotFound
  | expired {customer : Cart} : customer ∈ s.carts →
      customer.customerId = some principal.subject → customer.status = .active →
      customer.expiresAt ≤ now →
      MergeRefused env now s principal token (raise 410 "cart_expired" "Cart has expired")
  | overfull {guest : Cart} {source : CartItem} :
      s.guestCart (env.tokenHash token.text) = some guest → source ∈ guest.items →
      env.settings.maxItemQuantity < s.unitsOf principal.subject source.variant + source.quantity →
      MergeRefused env now s principal token (mergeLimit source)

section Merge

variable {env : Env} {now : DateTime} {s s' b : Store} {principal : Principal} {token : GuestToken}
  {cart guest customer : Cart}

/-- The active cart of a customer is the only one. -/
theorem Sound.activeCustomerCart (hs : Sound env s) {customerId : UUID} (hcart : cart ∈ s.carts)
    (howner : cart.customerId = some customerId) (hactive : cart.status = .active) :
    s.activeCustomerCart customerId = some cart := by
  cases hfound : s.activeCustomerCart customerId with
  | none => exact absurd hactive (activeCustomerCart_eq_none.mp hfound cart hcart howner)
  | some other =>
    obtain ⟨hmem, hother, hactive'⟩ := activeCustomerCart_eq_some hfound
    have hindex : ∀ c : Cart, c.customerId = some customerId → c.status = .active →
        c.activeCustomer = some customerId := by
      intro c hc hca
      rw [Cart.activeCustomer, if_pos hca, hc]
    have hsame : other = cart := by
      refine hs.one_active other hmem cart hcart ?_ ?_
      · rw [hindex other hother hactive', hindex cart howner hactive]
      · rw [hindex other hother hactive']
        exact Option.some_ne_none _
    rw [hsame]

/-- The cart of a signed-in caller, as it was before the request. -/
theorem Resolved.units (hs : Sound env s) {guestToken : Option GuestToken}
    (h : Resolved env now s ⟨some principal, guestToken⟩ b customer) (v : UUID) :
    customer.units v = s.unitsOf principal.subject v := by
  unfold Store.unitsOf
  rcases h.stored with rfl | ⟨principal', hprincipal, hnone, rfl, -⟩
  · rw [hs.activeCustomerCart h.mem h.owned h.isOpen.1]
    rfl
  · cases hprincipal
    rw [hnone]
    exact Cart.units_of_none rfl

/-- The other carts stay as they are when a cart is found. -/
theorem Resolved.get?_ne {caller : Caller} (h : Resolved env now s caller b cart) {id : UUID}
    (hid : id ≠ cart.id) : b.carts.get? id = s.carts.get? id := by
  rcases h.stored with rfl | ⟨_, -, -, -, hadd⟩
  · rfl
  · obtain ⟨-, -, carts, hinsert, rfl⟩ := addCart_eq_ok hadd
    rw [Table.get?_insert? hinsert]
    exact if_neg hid

theorem Merges.found (h : Merges env now s principal token s' cart b guest customer) :
    Strokes env s (now, .mergeGuestCart token principal) s b := h.resolved.strokes rfl

/-- The customer's cart has no token, the guest's none any more, and no other had this
one. -/
theorem Merges.token_dead (hs : Sound env s)
    (h : Merges env now s principal token s' cart b guest customer) :
    s'.guestCart (env.tokenHash token.text) = none := by
  have hb : Sound env b := h.found.sound hs
  have hguest : guest ∈ b.carts := h.resolved.mem_of_mem h.guest_mem
  obtain ⟨drawn, -, rfl⟩ := h.written
  refine guestCart_eq_none.mpr fun c hc htoken => ?_
  rcases Table.mem_put.mp hc with ⟨rfl, -⟩ | ⟨hc, -⟩
  · have hsame : c.guestTokenHash = customer.guestTokenHash := congrArg Face.guestTokenHash h.face
    have howner : customer.customerId = some principal.subject := h.resolved.owned
    rcases hb.owned customer h.resolved.mem with hnone | hnone
    · rw [hnone] at howner
      cases howner
    · rw [hsame, hnone] at htoken
      cases htoken
  · rcases Table.mem_put.mp hc with ⟨rfl, -⟩ | ⟨hc, hkey⟩
    · cases htoken
    · have hsame : c = guest := by
        refine hb.one_token c hc guest hguest (htoken.trans h.guest_token.symm) ?_
        rw [htoken]
        exact Option.some_ne_none _
      exact absurd (congrArg Cart.id hsame) hkey

theorem Merges.merged (hs : Sound env s)
    (h : Merges env now s principal token s' cart b guest customer) :
    Merged env s principal token s' cart guest := by
  have hguest : guest ∈ b.carts := h.resolved.mem_of_mem h.guest_mem
  have hid : cart.id = customer.id := congrArg Face.id h.face
  have howner : cart.customerId = some principal.subject :=
    (congrArg Face.customerId h.face).trans h.resolved.owned
  have hne : customer.id ≠ guest.id := h.distinct hs.owned
  have hwithin : cart.Within env.settings :=
    h.within ((h.found.sound hs).within customer h.resolved.mem) (hs.within guest h.guest_mem)
  have htoken := h.token_dead hs
  obtain ⟨drawn, -, rfl⟩ := h.written
  have hgone : (b.carts.put (guest.mergedInto customer.id)).get? guest.id =
      some (guest.mergedInto customer.id) :=
    Table.get?_put_self (Table.get?_key hguest) rfl
  have hkept : (b.carts.put (guest.mergedInto customer.id)).get? customer.id = some customer := by
    have hother : customer.id ≠ (guest.mergedInto customer.id).id := hne
    rw [Table.get?_put_ne hother]
    exact Table.get?_key h.resolved.mem
  exact {
    guest_mem := h.guest_mem
    guest_token := h.guest_token
    guest_active := h.guest_active
    owner := howner
    units := fun v => by rw [(h.items v).units, h.resolved.units hs v]
    within := hwithin.units
    stored := by
      rw [hid]
      exact Table.get?_put_self hkept hid
    closed := by
      have hother : guest.id ≠ cart.id := fun he => hne (hid.symm.trans he.symm)
      rw [hid, Table.get?_put_ne hother]
      exact hgone
    others := fun id hcart hguestid => by
      have hother : id ≠ (guest.mergedInto customer.id).id := hguestid
      rw [Table.get?_put_ne hcart, Table.get?_put_ne hother]
      exact h.resolved.get?_ne (hid ▸ hcart)
    token_dead := htoken }

/-! ## Refusals -/

/-- A customer's cart is refused only when it has expired. -/
theorem resolveCart_raises (hs : Sound env s) :
    Raises (MergeRefused env now s principal token)
      (resolveCart env now s ⟨some principal, none⟩) := by
  intro e he
  obtain ⟨b, customer, hrun⟩ := customerCart_succeeds hs now principal.subject
  have hassert : assertActive now customer = .error e := by
    simp only [resolveCart, findCart] at he
    rw [hrun] at he
    cases hopen : assertActive now customer with
    | ok u =>
      simp only [ok_bind] at he
      rw [hopen] at he
      cases he
    | error e' =>
      simp only [ok_bind] at he
      rw [hopen] at he
      cases he
      rfl
  have hactive : customer.status = .active := by
    rcases customerCart_eq_ok hrun with ⟨-, hfound⟩ | ⟨-, hfresh, -⟩
    · exact (activeCustomerCart_eq_some hfound).2.2
    · rw [hfresh]
      rfl
  simp only [assertActive] at hassert
  rw [require_pos hactive, ok_bind] at hassert
  by_cases htime : now < customer.expiresAt
  · rw [require_pos htime] at hassert
    cases hassert
  · rw [require_neg htime] at hassert
    cases hassert
    rcases customerCart_eq_ok hrun with ⟨-, hfound⟩ | ⟨-, hfresh, -⟩
    · obtain ⟨hmem, howner, -⟩ := activeCustomerCart_eq_some hfound
      exact .expired hmem howner hactive (Int.not_lt.mp htime)
    · -- A new cart has a day at least.
      have hdays : 0 < (env.settings.cartTtlDays : Int) * 86400000000 := by
        have := env.settings.ttl_valid.1
        omega
      rw [hfresh] at htime
      exact absurd (Int.lt_add_of_pos_right now hdays) htime

theorem mergeGuest_raises (hs : Sound env s) :
    Raises (MergeRefused env now s principal token) (mergeGuest env now s principal token) := by
  refine (raises_orRaise fun hnone => .notFound hnone).bind fun guest hguest => ?_
  rw [orRaise_eq_ok] at hguest
  refine (resolveCart_raises hs).bind fun found hresolve => ?_
  refine Raises.bind (fun e he => ?_) fun _ _ =>
    (mergeSavedItems_raises _ _ _ _).bind fun _ _ => raises_ok _
  obtain ⟨source, hsource, ⟨target, htarget, hover⟩, rfl⟩ := mergeItems_eq_error he
  refine .overfull hguest hsource ?_
  rw [← (resolveCart_eq_ok hresolve).units hs, Cart.units_of_get? htarget]
  exact hover

end Merge

end Carts
end Marketplace
