import Marketplace.Carts.Retries

/-!
# Carts: the readiness check settles

A readiness check copies every product that has changed, and moves the version of the
cart if there was one, so that the caller has to read the cart and check again.  The
second check, over the same answers of the Product Service, has nothing left to copy:
it changes nothing, as long as prices are whole cents.
-/

namespace Marketplace
namespace Carts

open Base

/-- The item has the price and the version that the Product Service answers. -/
def CartItem.Current (peers : Peers) (item : CartItem) : Prop :=
  ∃ snapshot, peers.getSnapshot item.productId item.variantId = .ok snapshot ∧
    ofHundredths item.unitPrice = snapshot.unitPrice ∧
    item.productVersion = snapshot.productVersion

/-- Only the answers of the Product Service count. -/
theorem CartItem.Current.of_product {peers peers' : Peers} {item : CartItem}
    (h : item.Current peers) (hsame : peers'.product = peers.product) : item.Current peers' := by
  obtain ⟨snapshot, hsnapshot, hitem⟩ := h
  refine ⟨snapshot, ?_, hitem⟩
  rw [Peers.getSnapshot, hsame]
  exact hsnapshot

/-- The Product Service has prices in whole cents. -/
def Peers.WholeCents (peers : Peers) : Prop :=
  ∀ productId variantId snapshot, peers.getSnapshot productId variantId = .ok snapshot →
    ofHundredths (toHundredths snapshot.unitPrice) = snapshot.unitPrice

section Items

variable {peers : Peers} {item item' : CartItem} {check : ItemCheck} {snapshot : ProductSnapshot}

theorem changed_eq_false : check.changed = false ↔
    ofHundredths check.item.unitPrice = check.snapshot.unitPrice ∧
      check.item.productVersion = check.snapshot.productVersion := by
  simp [ItemCheck.changed]

theorem checkItem_unchanged (h : checkItem peers item = .ok check) :
    check.changed = false ↔ item.Current peers := by
  obtain ⟨rfl, hsnapshot, -⟩ := checkItem_eq_ok h
  rw [changed_eq_false]
  constructor
  · intro hsame
    exact ⟨check.snapshot, hsnapshot, hsame⟩
  · rintro ⟨snapshot, hsnapshot', hsame⟩
    rw [hsnapshot] at hsnapshot'
    cases hsnapshot'
    exact hsame

/-- A product that has just been copied is current. -/
theorem applySnapshot_current (hcents : peers.WholeCents) {productId variantId : UUID}
    (hsnapshot : peers.getSnapshot productId variantId = .ok snapshot)
    (h : applySnapshot item snapshot = .ok item') : item'.Current peers := by
  simp only [applySnapshot, ProductSnapshot.columns, integerColumn, bind_eq_ok, pure_eq_ok,
    require_eq_ok] at h
  obtain ⟨_, ⟨_, -, _, -, _, -, _, -, _, -, price, hprice, rfl⟩, _, ⟨_, -, rfl⟩, rfl⟩ := h
  refine ⟨snapshot, ?_, ?_, rfl⟩
  · obtain ⟨hproduct, hvariant⟩ := getSnapshot_ids hsnapshot
    show peers.getSnapshot snapshot.productId snapshot.variantId = .ok snapshot
    rw [hproduct, hvariant]
    exact hsnapshot
  · show ofHundredths price.1 = snapshot.unitPrice
    rw [priceColumn_eq_ok hprice]
    exact hcents _ _ _ hsnapshot

/-- After the refresh every item is current: an item that is not yet waits for its
check. -/
theorem refresh_current {cart : Cart} {checks : List ItemCheck} {items : Table CartItem.variant}
    (hcents : peers.WholeCents) (hchecks : cart.items.rows.mapM (checkItem peers) = .ok checks)
    (hitems : checks.foldlM refreshItem cart.items = .ok items) :
    ∀ item ∈ items, item.Current peers := by
  let I (rest : List ItemCheck) (items : Table CartItem.variant) : Prop :=
    (∀ check ∈ rest, checkItem peers check.item = .ok check) ∧
      ∀ item ∈ items, item.Current peers ∨ ∃ check ∈ rest, check.item = item
  have hstart : I checks cart.items := by
    refine ⟨fun check hcheck => ?_, fun item hitem => Or.inr ?_⟩
    · obtain ⟨item, -, hrun⟩ := (mem_mapM hchecks).1 check hcheck
      rw [(checkItem_eq_ok hrun).1]
      exact hrun
    · obtain ⟨check, hcheck, hrun⟩ := (mem_mapM hchecks).2 item hitem
      exact ⟨check, hcheck, (checkItem_eq_ok hrun).1⟩
  have hend : I [] items := by
    refine foldlM_keeps I (fun check rest items items' hI hrun => ?_) hstart hitems
    have hcheck := hI.1 check List.mem_cons_self
    obtain ⟨-, hsnapshot, -⟩ := checkItem_eq_ok hcheck
    refine ⟨fun c hc => hI.1 c (List.mem_cons_of_mem check hc), fun item hitem => ?_⟩
    rcases refreshItem_eq_ok hrun with ⟨hsame, rfl⟩ | ⟨-, new, happly, rfl⟩
    · rcases hI.2 item hitem with hcurrent | ⟨c, hc, rfl⟩
      · exact Or.inl hcurrent
      · rcases List.mem_cons.mp hc with rfl | hc
        · exact Or.inl ((checkItem_unchanged hcheck).mp hsame)
        · exact Or.inr ⟨c, hc, rfl⟩
    · rcases Table.mem_put.mp hitem with ⟨rfl, -⟩ | ⟨hold, hkey⟩
      · exact Or.inl (applySnapshot_current hcents hsnapshot happly)
      · rcases hI.2 item hold with hcurrent | ⟨c, hc, rfl⟩
        · exact Or.inl hcurrent
        · rcases List.mem_cons.mp hc with rfl | hc
          · obtain ⟨-, -, -, hvariant, -⟩ := applySnapshot_eq_ok happly
            have hvariant' : new.variant = c.item.variant :=
              hvariant.trans (getSnapshot_variantId hsnapshot)
            exact absurd hvariant'.symm hkey
          · exact Or.inr ⟨c, hc, rfl⟩
  intro item hitem
  exact (hend.2 item hitem).resolve_right (by simp)

end Items

section Settle

variable {env : Env} {now : DateTime} {s s' b : Store} {caller : Caller} {cart found : Cart}
  {expectedVersion : Version} {peers : Peers}

/-- A caller's active cart is the one that is found. -/
theorem Resolved.eq_of_mem (hs : Sound env s) (h : Resolved env now s caller b found)
    (hcart : cart ∈ s.carts) (howned : caller.Owns env cart) (hactive : cart.status = .active) :
    found = cart := by
  have howned' := h.owned
  obtain ⟨principal, guestToken⟩ := caller
  cases principal with
  | some principal =>
    have hfound := hs.activeCustomerCart hcart howned hactive
    rcases h.stored with rfl | ⟨principal', hprincipal, hnone, -, -⟩
    · rw [hs.activeCustomerCart h.mem howned' h.isOpen.1] at hfound
      exact Option.some.inj hfound
    · cases hprincipal
      rw [hnone] at hfound
      cases hfound
  | none =>
    cases guestToken with
    | some token =>
      rcases h.stored with rfl | ⟨_, hprincipal, -⟩
      · have hfound := hs.guestCart hcart howned hactive
        rw [hs.guestCart h.mem howned' h.isOpen.1] at hfound
        exact Option.some.inj hfound
      · cases hprincipal
    | none => exact howned.elim

/-- After a check, whatever cart the caller's next request finds is current. -/
theorem readiness_current {response : CheckoutReadinessResponse} {later : DateTime}
    (hs : Sound env s) (hcents : peers.WholeCents)
    (h : readiness env now s caller expectedVersion peers = .ok (s', response))
    (hnext : Resolved env later s' caller b found) : ∀ item ∈ found.items, item.Current peers := by
  have hs' : Sound env s' := Strokes.sound (readiness_strokes h) hs
  obtain ⟨b₁, cart, checks, items, hresolved, -, hchecks, hitems, -, -, hchanged, hwritten⟩ :=
    readiness_eq_ok h
  by_cases hp : response.priceChanged = true
  · rw [if_pos hp] at hwritten
    subst hwritten
    have hstored := Table.mem_put_self (r := { cart with
      items := items
      version := cart.version + 1 }) hresolved.mem rfl
    rw [hnext.eq_of_mem hs' hstored hresolved.owned hresolved.isOpen.1]
    exact refresh_current hcents hchecks hitems
  · rw [if_neg hp] at hwritten
    subst hwritten
    rcases hresolved.stored with rfl | ⟨principal, hprincipal, hnone, -, -⟩
    · rw [hnext.eq_of_mem hs' hresolved.mem hresolved.owned hresolved.isOpen.1]
      intro item hitem
      obtain ⟨check, hcheck, hrun⟩ := (mem_mapM hchecks).2 item hitem
      refine (checkItem_unchanged hrun).mp ?_
      by_contra hne
      rw [hchanged] at hp
      exact hp (List.any_eq_true.mpr ⟨check, hcheck, by simpa using hne⟩)
    · -- The cart was made on the way and given up again, and so is the next one.
      rcases hnext.stored with rfl | ⟨_, -, -, rfl, -⟩
      · have howned := hnext.owned
        simp only [Caller.Owns, hprincipal] at howned
        exact absurd hnext.isOpen.1 (activeCustomerCart_eq_none.mp hnone found hnext.mem howned)
      · exact fun item hitem => absurd hitem (Table.not_mem_empty item)

end Settle

/-- In every run, a readiness check that follows another over the same answers of the
Product Service finds no price changed and changes nothing, as long as prices are whole
cents.  What Inventory has available may have changed in between. -/
theorem readiness_settles (env : Env) (calls : List (DateTime × Request)) (now later : DateTime)
    (caller : Caller) (version version' : Version) {peers peers' : Peers}
    (hcents : peers.WholeCents) (hsame : peers'.product = peers.product)
    {s' s'' : Store} {first second : CheckoutReadinessResponse}
    (hfirst : readiness env now (run (step env) Store.empty calls) caller version peers =
      .ok (s', first))
    (hsecond : readiness env later s' caller version' peers' = .ok (s'', second)) :
    second.priceChanged = false ∧ s'' = s' := by
  obtain ⟨b, cart, checks, items, hresolved, -, hchecks, -, -, -, hchanged, hwritten⟩ :=
    readiness_eq_ok hsecond
  have hcurrent := readiness_current (sound_run calls) hcents hfirst hresolved
  have hquiet : second.priceChanged = false := by
    rw [hchanged, List.any_eq_false]
    intro check hcheck
    obtain ⟨item, hitem, hrun⟩ := (mem_mapM hchecks).1 check hcheck
    rw [(checkItem_unchanged hrun).mpr ((hcurrent item hitem).of_product hsame)]
    exact Bool.false_ne_true
  rw [hquiet] at hwritten
  exact ⟨hquiet, hwritten⟩

/-- The mug costs twelve by now. -/
def dearerPeers : Peers where
  product _ _ := some (.ok ⟨"Mug", [⟨901, true, "MUG", "Blue", 12, "EUR", 2⟩], []⟩)
  availability _ _ := some (.ok ⟨5, true⟩)

/-- The same mug, sold out. -/
def soldOutPeers : Peers := { dearerPeers with availability := fun _ _ => some (.ok ⟨0, false⟩) }

theorem dearerPeers_wholeCents : dearerPeers.WholeCents := by
  intro productId variantId snapshot h
  simp only [Peers.getSnapshot, dearerPeers, bind_eq_ok, orRaise_eq_ok, pure_eq_ok] at h
  obtain ⟨variant, hfound, _, -, rfl⟩ := h
  have hvariant := List.mem_singleton.mp (List.mem_of_find?_eq_some hfound)
  rw [hvariant]
  show ofHundredths (toHundredths 12) = 12
  decide +kernel

/-- The first check raises the price of the mugs, and the second finds it raised,
although the mugs are sold out by then. -/
theorem mugs_settled :
    ∃ s' s'' first second,
      readiness sampleCartEnv 2 (run (step sampleCartEnv) Store.empty guestCalls)
        ⟨none, some sampleToken⟩ ⟨2, Nat.succ_pos 1⟩ dearerPeers = .ok (s', first) ∧
      readiness sampleCartEnv 3 s' ⟨none, some sampleToken⟩ ⟨3, Nat.succ_pos 2⟩ soldOutPeers =
        .ok (s'', second) ∧
      second.priceChanged = false ∧ s'' = s' := by
  have hok : (readiness sampleCartEnv 2 (run (step sampleCartEnv) Store.empty guestCalls)
      ⟨none, some sampleToken⟩ ⟨2, Nat.succ_pos 1⟩ dearerPeers >>= fun first =>
        readiness sampleCartEnv 3 first.1 ⟨none, some sampleToken⟩ ⟨3, Nat.succ_pos 2⟩
          soldOutPeers).toBool = true := by decide +kernel
  obtain ⟨⟨s'', second⟩, hboth⟩ := ok_of_toBool hok
  obtain ⟨⟨s', first⟩, hfirst, hsecond⟩ := bind_eq_ok.mp hboth
  have hsame : soldOutPeers.product = dearerPeers.product := rfl
  exact ⟨s', s'', first, second, hfirst, hsecond,
    readiness_settles sampleCartEnv guestCalls 2 3 _ _ _ dearerPeers_wholeCents hsame hfirst hsecond⟩

end Carts
end Marketplace
