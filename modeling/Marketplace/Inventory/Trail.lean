import Marketplace.Base.Journal
import Marketplace.Base.Versions
import Marketplace.Inventory.Atomicity

/-!
# Inventory: the trail of an operation

Every change of an item's two counters is written down in `inventory_movements`,
and every row it touches gets a higher version.  `Posts` says so for a step that
changes each item at most once; `Trail` is a sequence of such steps, and every
operation leaves one.
-/

namespace Marketplace
namespace Inventory

open Base

/-! ## Movements as a journal -/

namespace InventoryMovement

def change (m : InventoryMovement) : ℤ × ℤ := (m.onHandDelta, m.reservedDelta)

def result (m : InventoryMovement) : ℤ × ℤ := (m.resultingOnHand, m.resultingReserved)

/-- The units a movement takes out of stock for an order. -/
def sold (m : InventoryMovement) : ℤ :=
  if m.movementType = .commitment then -m.onHandDelta else 0

/-- The units a movement brings into stock. -/
def received (m : InventoryMovement) : ℤ :=
  if m.movementType = .receipt ∨ m.movementType = .adjustment then m.onHandDelta else 0

/-- Stock moves by a receipt, an adjustment or a commitment. -/
def Accounted (m : InventoryMovement) : Prop := m.onHandDelta = m.received - m.sold

end InventoryMovement

def movementJournal : Journal InventoryMovement UUID (ℤ × ℤ) where
  account := InventoryMovement.inventoryItemId
  change := InventoryMovement.change
  result := InventoryMovement.result

/-- What an item is an item of. -/
def InventoryItem.origin (item : InventoryItem) : UUID × UUID × UUID × UUID × String :=
  (item.warehouseId, item.productId, item.variantId, item.sellerId, item.sku)

/-- What a reservation was made for. -/
def InventoryReservation.terms (r : InventoryReservation) :
    UUID × UUID × Option UUID × Int × DateTime :=
  (r.inventoryItemId, r.customerId, r.reservationGroupId, r.quantity, r.expiresAt)

/-- The two counters of an item. -/
def balanceOf (items : Items) (i : UUID) : ℤ × ℤ :=
  match items.get? i with
  | some item => (item.onHandQuantity, item.reservedQuantity)
  | none => 0

/-- Units of the item that committed reservations have taken. -/
def soldOf (m : Multiset InventoryReservation) (i : UUID) : ℤ :=
  ((m.filter fun r => r.inventoryItemId = i ∧ r.status = .committed).map
    InventoryReservation.quantity).sum

theorem balanceOf_of_get? {items : Items} {i : UUID} {item : InventoryItem}
    (h : items.get? i = some item) :
    balanceOf items i = (item.onHandQuantity, item.reservedQuantity) := by
  rw [balanceOf, h]

theorem balanceOf_put {items : Items} {old item : InventoryItem}
    (h : items.get? item.id = some old) :
    balanceOf (items.put item) item.id = (item.onHandQuantity, item.reservedQuantity) :=
  balanceOf_of_get? (Table.get?_put_self h rfl)

theorem balanceOf_put_ne (items : Items) {item : InventoryItem} {i : UUID} (h : i ≠ item.id) :
    balanceOf (items.put item) i = balanceOf items i := by
  rw [balanceOf, Table.get?_put_ne h, balanceOf]

theorem balanceOf_insert {items items' : Items} {item : InventoryItem}
    (h : items.insert? item = some items') (k : UUID) :
    balanceOf items' k = balanceOf items k +
      if k = item.id then (item.onHandQuantity, item.reservedQuantity) else 0 := by
  rw [balanceOf, Table.get?_insert? h]
  by_cases hk : k = item.id
  · have hnone : items.get? k = none :=
      Table.get?_eq_none.mpr fun i hi => hk ▸ (Table.insert?_eq_some h).1 i hi
    rw [if_pos hk, if_pos hk, balanceOf, hnone, zero_add]
  · rw [if_neg hk, if_neg hk, add_zero, balanceOf]

theorem soldOf_cons (r : InventoryReservation) (m : Multiset InventoryReservation) (i : UUID) :
    soldOf (r ::ₘ m) i =
      (if r.inventoryItemId = i ∧ r.status = .committed then r.quantity else 0) + soldOf m i := by
  unfold soldOf
  by_cases h : r.inventoryItemId = i ∧ r.status = .committed <;> simp [h]

/-- An active reservation counts for nothing until it is committed. -/
theorem soldOf_put {rs : Reservations} {r closed : InventoryReservation} (hr : r ∈ rs)
    (ha : r.status = .active) (hc : Closes r closed) (i : UUID) :
    soldOf (rs.put closed).toMultiset i = soldOf rs.toMultiset i +
      if r.inventoryItemId = i ∧ closed.status = .committed then r.quantity else 0 := by
  obtain ⟨m, hm, hput⟩ := Table.exists_rows_eq_cons hr
  have hactive : ¬(r.inventoryItemId = i ∧ r.status = .committed) := by
    rw [ha]
    rintro ⟨-, h⟩
    cases h
  rw [hm, hput closed hc.id, soldOf_cons, soldOf_cons, if_neg hactive, hc.item, hc.quantity]
  omega

theorem soldOf_insert {rs rs' : Reservations} {r : InventoryReservation}
    (h : rs.insert? r = some rs') (ha : r.status = .active) (i : UUID) :
    soldOf rs'.toMultiset i = soldOf rs.toMultiset i := by
  rw [Table.toMultiset_insert? h, soldOf_cons, if_neg, zero_add]
  rw [ha]
  rintro ⟨-, h⟩
  cases h

/-! ## One posting -/

/-- A step that posts the movements `ms`, one for each item whose counters it
changes. -/
structure Posts (ms : List InventoryMovement) (s s' : Store) : Prop where
  movements : s'.movements = s.movements ++ ms
  nodup : (ms.map InventoryMovement.inventoryItemId).Nodup
  posted : ∀ m ∈ ms, m.result = balanceOf s'.items m.inventoryItemId ∧
    balanceOf s'.items m.inventoryItemId = balanceOf s.items m.inventoryItemId + m.change
  quiet : ∀ k, k ∉ ms.map InventoryMovement.inventoryItemId →
    balanceOf s'.items k = balanceOf s.items k
  accounted : ∀ m ∈ ms, m.Accounted
  sold : ∀ k, soldOf s'.reservations.toMultiset k = soldOf s.reservations.toMultiset k +
    total InventoryMovement.inventoryItemId InventoryMovement.sold ms k
  items : s.items.Evolves InventoryItem.version InventoryItem.origin s'.items
  reservations : s.reservations.Evolves InventoryReservation.version InventoryReservation.terms s'.reservations

/-- A sequence of postings. -/
abbrev Trail : Store → Store → Prop := Relation.ReflTransGen fun s s' => ∃ ms, Posts ms s s'

/-- The stores agree on everything a posting can change. -/
structure Store.SameBooks (s s' : Store) : Prop where
  items : s'.items = s.items
  reservations : s'.reservations = s.reservations
  movements : s'.movements = s.movements

namespace Store

theorem SameBooks.refl (s : Store) : SameBooks s s := ⟨rfl, rfl, rfl⟩

theorem SameBooks.trans {s₁ s₂ s₃ : Store} (h : SameBooks s₁ s₂) (h' : SameBooks s₂ s₃) :
    SameBooks s₁ s₃ :=
  ⟨h'.items.trans h.items, h'.reservations.trans h.reservations, h'.movements.trans h.movements⟩

theorem event_books (s : Store) (e : String) (i : InventoryItem)
    (r : Option InventoryReservation) : SameBooks s (s.event e i r) := ⟨rfl, rfl, rfl⟩

theorem addLowStockEventIfNeeded_books (s : Store) (i : InventoryItem) :
    SameBooks s (s.addLowStockEventIfNeeded i) := by
  unfold addLowStockEventIfNeeded
  split
  · exact event_books _ _ _ _
  · exact .refl s

theorem recordIdempotency_books {s s' : Store} {actorId resourceId : UUID} {key : Option String}
    {hash type : String} (h : s.recordIdempotency actorId key hash type resourceId = .ok s') :
    SameBooks s s' := by
  unfold recordIdempotency at h
  split at h
  · cases h
    exact .refl s
  · obtain ⟨rs, -, rfl⟩ := addIdempotencyRecord_eq_ok.mp h
    exact ⟨rfl, rfl, rfl⟩

end Store

section Posting

variable {s t s' : Store} {ms : List InventoryMovement}

theorem Store.SameBooks.posts (h : s.SameBooks s') : Posts [] s s' where
  movements := by rw [h.movements, List.append_nil]
  nodup := List.nodup_nil
  posted _ hm := absurd hm List.not_mem_nil
  quiet _ _ := by rw [h.items]
  accounted _ hm := absurd hm List.not_mem_nil
  sold _ := by rw [h.reservations, total_nil, add_zero]
  items := .of_eq h.items
  reservations := .of_eq h.reservations

theorem Posts.same (h : Posts ms s t) (hs : t.SameBooks s') : Posts ms s s' where
  movements := hs.movements.trans h.movements
  nodup := h.nodup
  posted := by
    rw [hs.items]
    exact h.posted
  quiet := by
    rw [hs.items]
    exact h.quiet
  accounted := h.accounted
  sold := by
    rw [hs.reservations]
    exact h.sold
  items := by
    rw [hs.items]
    exact h.items
  reservations := by
    rw [hs.reservations]
    exact h.reservations

theorem Posts.trail (h : Posts ms s s') : Trail s s' := .single ⟨ms, h⟩

theorem Store.SameBooks.trail (h : s.SameBooks s') : Trail s s' := h.posts.trail

/-- One movement, about the one item that was overwritten. -/
theorem posts_put {old item : InventoryItem} {m : InventoryMovement}
    (hget : s.items.get? item.id = some old) (hitems : s'.items = s.items.put item)
    (hversion : item.version = old.version + 1) (horigin : item.origin = old.origin)
    (hmovements : s'.movements = s.movements ++ [m]) (haccount : m.inventoryItemId = item.id)
    (hresult : m.result = (item.onHandQuantity, item.reservedQuantity))
    (hchange : (item.onHandQuantity, item.reservedQuantity) =
      (old.onHandQuantity, old.reservedQuantity) + m.change)
    (haccounted : m.Accounted)
    (hsold : ∀ k, soldOf s'.reservations.toMultiset k = soldOf s.reservations.toMultiset k +
      if item.id = k then m.sold else 0)
    (hrs : s.reservations.Evolves InventoryReservation.version InventoryReservation.terms s'.reservations) :
    Posts [m] s s' where
  movements := hmovements
  nodup := List.nodup_singleton _
  posted x hx := by
    rw [List.mem_singleton.mp hx, haccount, hitems, balanceOf_put hget, balanceOf_of_get? hget]
    exact ⟨hresult, hchange⟩
  quiet k hk := by
    rw [List.map_singleton, List.mem_singleton, haccount] at hk
    rw [hitems, balanceOf_put_ne s.items hk]
  accounted x hx := List.mem_singleton.mp hx ▸ haccounted
  sold k := by rw [hsold, total_singleton, haccount]
  items := by
    rw [hitems]
    exact .put hget (by omega) horigin
  reservations := hrs

/-- Changes that leave both counters of every item alone. -/
theorem posts_nothing (hitems : s.items.Evolves InventoryItem.version InventoryItem.origin s'.items)
    (hbalance : ∀ k, balanceOf s'.items k = balanceOf s.items k)
    (hrs : s'.reservations = s.reservations) (hmovements : s'.movements = s.movements) :
    Posts [] s s' where
  movements := by rw [hmovements, List.append_nil]
  nodup := List.nodup_nil
  posted _ hm := absurd hm List.not_mem_nil
  quiet k _ := hbalance k
  accounted _ hm := absurd hm List.not_mem_nil
  sold _ := by rw [hrs, total_nil, add_zero]
  items := hitems
  reservations := .of_eq hrs

end Posting

/-! ## Stock keeping -/

section StockKeeping

variable {env : Env} {s s' : Store} {principal : Principal}

theorem movement_ok {item : InventoryItem} {t : MovementType} {reason : MovementReason}
    {dOnHand dReserved : Int} {refType refId note : Option String}
    (h : s.movement item principal t reason dOnHand dReserved refType refId note = .ok s') :
    s'.items = s.items ∧ s'.reservations = s.reservations ∧
      s'.movements = s.movements ++ [⟨item.id, t, reason, dOnHand, dReserved, item.onHandQuantity,
        item.reservedQuantity, refType, refId, principal.subject, note⟩] := by
  simp only [Store.movement, Store.addMovement_eq_ok] at h
  obtain ⟨-, rfl⟩ := h
  exact ⟨rfl, rfl, rfl⟩

/-- A new item comes with a receipt for the stock it starts with. -/
theorem recordInitialStock_posts {t : Store} {item : InventoryItem} {items : Items}
    (hins : s.items.insert? item = some items) (ht : t = { s with items := items })
    (hreserved : item.reservedQuantity = 0)
    (h : recordInitialStock t item principal = .ok s') : ∃ ms, Posts ms s s' := by
  have hbal : ∀ k, balanceOf items k = balanceOf s.items k +
      if k = item.id then (item.onHandQuantity, 0) else 0 := by
    rw [← hreserved]
    exact balanceOf_insert hins
  unfold recordInitialStock at h
  split at h
  next hstock =>
    obtain ⟨hitems, hrs, hmovements⟩ := movement_ok h
    rw [ht] at hitems hrs hmovements
    refine ⟨_, hmovements, List.nodup_singleton _, ?_, ?_, ?_, ?_, ?_, .of_eq hrs⟩
    · intro m hm
      rw [List.mem_singleton.mp hm, hitems, hbal, if_pos rfl]
      refine ⟨?_, rfl⟩
      have hzero : balanceOf s.items item.id = 0 := by
        rw [balanceOf, Table.get?_eq_none.mpr (Table.insert?_eq_some hins).1]
      rw [hzero, zero_add]
      exact Prod.ext rfl hreserved
    · intro k hk
      rw [List.map_singleton, List.mem_singleton] at hk
      rw [hitems, hbal, if_neg hk, add_zero]
    · intro m hm
      rw [List.mem_singleton.mp hm]
      exact (sub_zero _).symm
    · intro k
      rw [hrs, total_singleton]
      exact (add_zero _).symm.trans (congrArg _ (ite_self _).symm)
    · rw [hitems]
      exact .insert hins
  next hstock =>
    cases h
    have hstock : item.onHandQuantity = 0 := not_not.mp hstock
    rw [ht]
    refine ⟨[], posts_nothing (.insert hins) (fun k => ?_) rfl rfl⟩
    rw [hbal, hstock]
    exact (congrArg _ (ite_self _)).trans (add_zero _)

theorem createItem_trail {data : InventoryItemCreate} {key : Option String} {item : InventoryItem}
    (hrun : createItem env s data principal key = .ok (s', item)) : Trail s s' := by
  simp only [createItem, bind_eq_ok] at hrun
  obtain ⟨_, -, hrun⟩ := hrun
  split at hrun
  · simp only [pure_eq_ok, Prod.mk.injEq] at hrun
    obtain ⟨rfl, -⟩ := hrun
    exact .refl
  simp only [Store.draw, bind_eq_ok, orRaise_eq_ok, require_eq_ok, Store.addItem_eq_ok,
    pure_eq_ok, Prod.mk.injEq] at hrun
  obtain ⟨_, -, _, -, _, -, _, -, _, -, _, ⟨-, -, items, hins, rfl⟩, t, ht, u, hu, rfl, -⟩ := hrun
  -- Drawing the identifier touches no table.
  have hdrew : Store.SameBooks s { s with drawn := s.drawn + 1 } := ⟨rfl, rfl, rfl⟩
  obtain ⟨ms, hposts⟩ := @recordInitialStock_posts { s with drawn := s.drawn + 1 } _ _ _ _ _ hins
    rfl rfl ht
  exact hdrew.trail.trans (hposts.same
    ((Store.event_books _ _ _ _).trans (Store.recordIdempotency_books hu))).trail

theorem updateItem_trail {id : UUID} {data : InventoryItemUpdate} {version : Nat}
    {item : InventoryItem} (hrun : updateItem s id data version principal = .ok (s', item)) :
    Trail s s' := by
  simp only [updateItem, bind_eq_ok, Store.putItem_eq_ok, pure_eq_ok, Prod.mk.injEq] at hrun
  obtain ⟨old, hold, _, -, threshold, -, isActive, -, _, ⟨-, rfl⟩, rfl, -⟩ := hrun
  have hget := managedItem_ok hold
  have hid : s.items.get? (old.edit threshold isActive).id = some old :=
    (Table.key_of_get? hget).symm ▸ hget
  refine Posts.trail (posts_nothing (.put hid (Nat.lt_succ_self _) rfl) (fun k => ?_) rfl rfl)
  by_cases hk : k = old.id
  · rw [hk]
    exact (balanceOf_put hid).trans (balanceOf_of_get? hid).symm
  · exact balanceOf_put_ne s.items hk

theorem adjustStock_trail {id : UUID} {data : StockAdjustment} {version : Nat}
    {key : Option String} {item : InventoryItem}
    (hrun : adjustStock env s id data version principal key = .ok (s', item)) : Trail s s' := by
  simp only [adjustStock, bind_eq_ok] at hrun
  obtain ⟨_, -, hrun⟩ := hrun
  split at hrun
  · simp only [pure_eq_ok, Prod.mk.injEq] at hrun
    obtain ⟨rfl, -⟩ := hrun
    exact .refl
  simp only [bind_eq_ok, Store.putItem_eq_ok, pure_eq_ok, Prod.mk.injEq] at hrun
  obtain ⟨old, hold, _, -, _, -, _, ⟨-, rfl⟩, t, ht, u, hu, rfl, -⟩ := hrun
  have hget := managedItem_ok hold
  obtain ⟨hitems, hrs, hmovements⟩ := movement_ok ht
  have hposts := posts_put ((Table.key_of_get? hget).symm ▸ hget) hitems rfl rfl hmovements rfl rfl
    (Prod.ext rfl (add_zero _).symm) ?_ (fun k => ?_) (.of_eq hrs)
  · exact (hposts.same (((Store.event_books _ _ _ _).trans
      (Store.addLowStockEventIfNeeded_books _ _)).trans (Store.recordIdempotency_books hu))).trail
  · exact (sub_zero _).symm
  · rw [hrs]
    exact (add_zero _).symm.trans (congrArg _ (ite_self _).symm)

end StockKeeping

/-! ## Resolving reservations -/

section Resolving

variable {now : DateTime} {s s' : Store} {principal : Principal} {r : InventoryReservation}
  {item : InventoryItem}

/-- The two row writes and the movement that close one reservation. -/
theorem posts_close {closed : InventoryReservation} {old new : InventoryItem}
    {m : InventoryMovement} (ho : Open s r) (hget : s.items.get? r.inventoryItemId = some old)
    (hc : Closes r closed) (hversion : closed.version = r.version + 1)
    (hnew : new = giveBack old r (-m.onHandDelta)) (hreserved : m.reservedDelta = -r.quantity)
    (haccount : m.inventoryItemId = old.id) (haccounted : m.Accounted)
    (hresult : m.result = (new.onHandQuantity, new.reservedQuantity))
    (hsold : m.sold = if closed.status = .committed then r.quantity else 0)
    (hitems : s'.items = s.items.put new) (hrs : s'.reservations = s.reservations.put closed)
    (hmovements : s'.movements = s.movements ++ [m]) : Posts [m] s s' := by
  have hkey : old.id = r.inventoryItemId := Table.key_of_get? hget
  have hid : new.id = old.id := by
    rw [hnew]
    rfl
  refine posts_put (hid ▸ hkey ▸ hget) hitems ?_ ?_ hmovements (haccount.trans hid.symm) hresult ?_
    haccounted (fun k => ?_) ?_
  · rw [hnew]
    rfl
  · rw [hnew]
    rfl
  · rw [hnew]
    refine Prod.ext ?_ ?_
    · exact sub_neg_eq_add _ _
    · show old.reservedQuantity - r.quantity = old.reservedQuantity + m.reservedDelta
      rw [hreserved]
      rfl
  · rw [hrs, soldOf_put (Table.mem_of_get? ho.1) ho.2 hc, hsold, hid, hkey]
    by_cases hk : r.inventoryItemId = k
    · simp only [hk, true_and, if_true]
    · simp only [hk, false_and, if_false]
  · rw [hrs]
    have hterms : closed.terms = r.terms := by
      rw [InventoryReservation.terms, hc.item, hc.customer, hc.group, hc.quantity, hc.expiry]
      rfl
    exact .put (hc.id.symm ▸ ho.1) (by omega) hterms

theorem resolveReservation_trail {target : ReservationStatus} {reason : MovementReason}
    {note : Option String} (ho : Open s r) (hget : s.items.get? r.inventoryItemId = some item)
    (ht : target ≠ .active) (hc : target ≠ .committed)
    (h : resolveReservation s r item principal target reason note = .ok s') : Trail s s' := by
  simp only [resolveReservation, bind_eq_ok, Store.putItem_eq_ok, pure_eq_ok] at h
  obtain ⟨_, ⟨-, rfl⟩, t, hmove, rfl⟩ := h
  obtain ⟨hitems, hrs, hmovements⟩ := movement_ok hmove
  have hposts := posts_close ho hget (closeAs_closes ht r) rfl ?_ rfl rfl ?_ rfl ?_ hitems hrs
    hmovements
  · exact (hposts.same (Store.event_books _ _ _ _)).trail
  · simp only [giveBack, neg_zero, sub_zero]
  · exact (sub_zero _).symm
  · exact (if_neg hc).symm

theorem commitUnits_trail {orderReference : Option String} {refType refId : String}
    (ho : Open s r) (hget : s.items.get? r.inventoryItemId = some item)
    (h : commitUnits s r item principal orderReference refType refId = .ok s') : Trail s s' := by
  simp only [commitUnits, bind_eq_ok, Store.putItem_eq_ok, pure_eq_ok] at h
  obtain ⟨_, ⟨-, rfl⟩, t, hmove, rfl⟩ := h
  obtain ⟨hitems, hrs, hmovements⟩ := movement_ok hmove
  have hposts := posts_close ho hget (commitAs_closes orderReference r) rfl ?_ rfl rfl ?_ rfl ?_
    hitems hrs hmovements
  · exact (hposts.same (Store.event_books _ _ _ _)).trail
  · simp only [giveBack, neg_neg]
  · simp only [InventoryMovement.Accounted, InventoryMovement.received, InventoryMovement.sold]
    simp
  · simp only [InventoryMovement.sold, neg_neg, if_true, commitAs]

theorem expireMember_trail (ho : Open s r) (h : expireMember principal s r = .ok s') :
    Trail s s' := by
  unfold expireMember at h
  split at h
  · cases h
    exact .refl
  next item hget =>
    exact resolveReservation_trail ho hget (show ReservationStatus.expired ≠ .active by decide)
      (show ReservationStatus.expired ≠ .committed by decide) h

theorem releaseMember_trail {reason : MovementReason} {note : Option String} (ho : Open s r)
    (h : releaseMember principal reason note s r = .ok s') : Trail s s' := by
  simp only [releaseMember, bind_eq_ok, orRaise_eq_ok] at h
  obtain ⟨item, hget, h⟩ := h
  exact resolveReservation_trail ho hget (show ReservationStatus.released ≠ .active by decide)
    (show ReservationStatus.released ≠ .committed by decide) h

theorem commitMember_trail {g : UUID} (ho : Open s r) (h : commitMember principal g s r = .ok s') :
    Trail s s' := by
  simp only [commitMember, bind_eq_ok, orRaise_eq_ok] at h
  obtain ⟨item, hget, h⟩ := h
  exact commitUnits_trail ho hget h

/-- A loop whose body closes one reservation and leaves a trail leaves one. -/
theorem foldlM_trail {close : InventoryReservation → InventoryReservation}
    {body : Store → InventoryReservation → Except Failure Store}
    (hbody : ∀ s r, Inv s → Open s r → ∃ s', body s r = .ok s' ∧ ClosedAll close [r] s s')
    (htrail : ∀ s r s', Open s r → body s r = .ok s' → Trail s s') :
    ∀ {l : List InventoryReservation} {s s' : Store}, Inv s →
      (l.map InventoryReservation.id).Nodup → (∀ r ∈ l, Open s r) → l.foldlM body s = .ok s' →
      Trail s s' := by
  intro l
  induction l with
  | nil =>
    intro s s' _ _ _ h
    cases h
    exact .refl
  | cons r rest ih =>
    intro s s' h hnodup hopen hrun
    obtain ⟨t, ht, hclosed⟩ := hbody s r h (hopen r List.mem_cons_self)
    rw [List.foldlM_cons, ht, ok_bind] at hrun
    rw [List.map_cons, List.nodup_cons] at hnodup
    refine (htrail s r t (hopen r List.mem_cons_self) ht).trans
      (ih hclosed.refines.2 hnodup.2 (fun x hx => ?_) hrun)
    refine hclosed.open_other (fun y hy => ?_) (hopen x (List.mem_cons_of_mem r hx))
    rw [List.mem_singleton.mp hy]
    exact fun e => hnodup.1 (e ▸ List.mem_map_of_mem hx)

theorem commitReservation_trail {id : UUID} {ref : String}
    {a : Except ServiceError InventoryReservation}
    (hrun : commitReservation now s id ref principal = .ok (s', a)) : Trail s s' := by
  simp only [commitReservation, bind_eq_ok] at hrun
  obtain ⟨⟨r, item⟩, hread, hrun⟩ := hrun
  obtain ⟨-, ho, -, hget⟩ := activeReservationWithItem_ok hread
  split at hrun
  · simp only [bind_eq_ok, pure_eq_ok, Prod.mk.injEq] at hrun
    obtain ⟨t, ht, rfl, -⟩ := hrun
    exact resolveReservation_trail ho hget (show ReservationStatus.expired ≠ .active by decide)
      (show ReservationStatus.expired ≠ .committed by decide) ht
  · simp only [bind_eq_ok, pure_eq_ok, Prod.mk.injEq] at hrun
    obtain ⟨t, ht, rfl, -⟩ := hrun
    exact commitUnits_trail ho hget ht

theorem releaseReservation_trail {id : UUID} {reason : MovementReason} {note : Option String}
    {a : InventoryReservation}
    (hrun : releaseReservation s id reason note principal = .ok (s', a)) : Trail s s' := by
  simp only [releaseReservation, bind_eq_ok, pure_eq_ok, Prod.mk.injEq] at hrun
  obtain ⟨⟨r, item⟩, hread, t, ht, rfl, -⟩ := hrun
  obtain ⟨-, ho, -, hget⟩ := activeReservationWithItem_ok hread
  exact resolveReservation_trail ho hget (show ReservationStatus.released ≠ .active by decide)
    (show ReservationStatus.released ≠ .committed by decide) ht

theorem commitReservationGroup_trail (h : Inv s) {g : UUID}
    {a : Except ServiceError (List InventoryReservation)}
    (hrun : commitReservationGroup now s g principal = .ok (s', a)) : Trail s s' := by
  simp only [commitReservationGroup, bind_eq_ok] at hrun
  obtain ⟨rs, hlock, hrun⟩ := hrun
  obtain ⟨rfl, -⟩ := lockedGroup_ok hlock
  split at hrun
  · simp only [pure_eq_ok, Prod.mk.injEq] at hrun
    obtain ⟨rfl, -⟩ := hrun
    exact .refl
  simp only [bind_eq_ok, require_eq_ok] at hrun
  obtain ⟨_, hactive, hrun⟩ := hrun
  have hnodup := Store.nodup_listReservationsByGroup s g
  split at hrun
  · simp only [bind_eq_ok, pure_eq_ok, Prod.mk.injEq] at hrun
    obtain ⟨t, ht, rfl, -⟩ := hrun
    exact foldlM_trail (fun _ _ h ho => expireMember_closes h ho principal)
      (fun _ _ _ => expireMember_trail) h hnodup (open_of_group hactive) ht
  · simp only [bind_eq_ok, pure_eq_ok, Prod.mk.injEq] at hrun
    obtain ⟨t, ht, rfl, -⟩ := hrun
    exact foldlM_trail (fun _ _ h ho => commitMember_closes h ho principal g)
      (fun _ _ _ => commitMember_trail) h hnodup (open_of_group hactive) ht

theorem releaseReservationGroup_trail (h : Inv s) {g : UUID} {reason : MovementReason}
    {note : Option String} {a : List InventoryReservation}
    (hrun : releaseReservationGroup s g reason note principal = .ok (s', a)) : Trail s s' := by
  simp only [releaseReservationGroup, bind_eq_ok] at hrun
  obtain ⟨rs, hlock, hrun⟩ := hrun
  obtain ⟨rfl, -⟩ := lockedGroup_ok hlock
  split at hrun
  · simp only [pure_eq_ok, Prod.mk.injEq] at hrun
    obtain ⟨rfl, -⟩ := hrun
    exact .refl
  simp only [bind_eq_ok, require_eq_ok, pure_eq_ok, Prod.mk.injEq] at hrun
  obtain ⟨_, hactive, t, ht, rfl, -⟩ := hrun
  exact foldlM_trail (fun _ _ h ho => releaseMember_closes h ho principal reason note)
    (fun _ _ _ => releaseMember_trail) h (Store.nodup_listReservationsByGroup s g)
    (open_of_group hactive) ht

/-- One row of the sweep. -/
theorem sweepReservation_trail {n n' : Nat} (ho : Open s r)
    (h : sweepReservation principal (s, n) r = (s', n')) : Trail s s' := by
  unfold sweepReservation at h
  split at h
  · cases h
    exact .refl
  next item hget =>
    split at h
    next t ht =>
      cases h
      exact resolveReservation_trail ho hget (show ReservationStatus.expired ≠ .active by decide)
        (show ReservationStatus.expired ≠ .committed by decide) ht
    · cases h
      exact .refl

theorem foldl_sweep_trail (principal : Principal) :
    ∀ {l : List InventoryReservation} {s s' : Store} {n n' : Nat}, Inv s →
      (l.map InventoryReservation.id).Nodup → (∀ r ∈ l, Open s r) →
      l.foldl (sweepReservation principal) (s, n) = (s', n') → Trail s s' := by
  intro l
  induction l with
  | nil =>
    intro s s' n n' _ _ _ h
    cases h
    exact .refl
  | cons r rest ih =>
    intro s s' n n' h hnodup hopen hrun
    have ho := hopen r List.mem_cons_self
    obtain ⟨t, ht, hclosed⟩ := foldl_sweep_closes principal [r] n h (List.nodup_singleton _)
      fun x hx => List.mem_singleton.mp hx ▸ ho
    rw [List.foldl_cons, List.foldl_nil] at ht
    rw [List.foldl_cons, ht] at hrun
    rw [List.map_cons, List.nodup_cons] at hnodup
    refine (sweepReservation_trail ho ht).trans
      (ih hclosed.refines.2 hnodup.2 (fun x hx => ?_) hrun)
    refine hclosed.open_other (fun y hy => ?_) (hopen x (List.mem_cons_of_mem r hx))
    rw [List.mem_singleton.mp hy]
    exact fun e => hnodup.1 (e ▸ List.mem_map_of_mem hx)

theorem expireReservations_trail (h : Inv s) (now : DateTime) (principal : Principal) (limit : Nat)
    (tie : UUID → Nat) : Trail s (expireReservations now s principal limit tie).1 :=
  foldl_sweep_trail principal h (Store.nodup_listExpiredActive s now limit tie)
    (fun _ hr =>
      ⟨Table.get?_key (Store.mem_listExpiredActive hr).1, (Store.mem_listExpiredActive hr).2.1⟩)
    (Prod.mk.eta.symm)

end Resolving

/-! ## Making reservations -/

section Reserving

variable {env : Env} {now : DateTime} {s t s' : Store} {principal : Principal}
  {key : Option String}

theorem createReservation_trail {data : ReservationCreate} {r : InventoryReservation}
    (hrun : createReservation env now s data principal key = .ok (s', r)) : Trail s s' := by
  simp only [createReservation, bind_eq_ok] at hrun
  obtain ⟨_, -, hrun⟩ := hrun
  split at hrun
  · simp only [pure_eq_ok, Prod.mk.injEq] at hrun
    obtain ⟨rfl, -⟩ := hrun
    exact .refl
  simp only [Store.draw, bind_eq_ok, orRaise_eq_ok, Store.putItem_eq_ok,
    Store.addReservation_eq_ok, pure_eq_ok, Prod.mk.injEq] at hrun
  obtain ⟨item, hget, _, -, _, -, expiresAt, -, _, ⟨-, rfl⟩, t₀, ⟨-, rs, hins, ht₀⟩, t, ht, u,
    hu, rfl, -⟩ := hrun
  have hid : item.id = data.inventoryItemId := Table.key_of_get? hget
  obtain ⟨hitems, hrs, hmovements⟩ := movement_ok ht
  rw [← ht₀] at hitems hrs hmovements
  have hput : s.items.get? (item.holdBack data.quantity).id = some item := hid ▸ hget
  have hposts := posts_put hput hitems rfl rfl hmovements rfl rfl
    (Prod.ext (add_zero _).symm rfl) (sub_zero _).symm (fun k => ?_) (hrs ▸ .insert hins)
  · exact (hposts.same (((Store.event_books _ _ _ _).trans
      (Store.addLowStockEventIfNeeded_books _ _)).trans (Store.recordIdempotency_books hu))).trail
  · rw [hrs]
    exact (soldOf_insert hins rfl k).trans
      ((add_zero _).symm.trans (congrArg _ (ite_self _).symm))

/-- Units have been taken from the items `ids`, and no movement says so yet. -/
structure Taken (ids : List UUID) (s s' : Store) : Prop where
  movements : s'.movements = s.movements
  stock : ∀ k, (balanceOf s'.items k).1 = (balanceOf s.items k).1
  other : ∀ k, k ∉ ids → balanceOf s'.items k = balanceOf s.items k
  present : ∀ k, (s'.items.get? k).isSome = (s.items.get? k).isSome
  before : ∀ k ∈ ids, (s.items.get? k).isSome
  sold : ∀ k, soldOf s'.reservations.toMultiset k = soldOf s.reservations.toMultiset k
  items : s.items.Evolves InventoryItem.version InventoryItem.origin s'.items
  reservations : s.reservations.Evolves InventoryReservation.version InventoryReservation.terms s'.reservations

theorem Taken.of_same (h : s.SameBooks s') : Taken [] s s' where
  movements := h.movements
  stock _ := by rw [h.items]
  other _ _ := by rw [h.items]
  present _ := by rw [h.items]
  before _ hk := absurd hk List.not_mem_nil
  sold _ := by rw [h.reservations]
  items := .of_eq h.items
  reservations := .of_eq h.reservations

theorem Taken.append {ids ids' : List UUID} (h : Taken ids s t) (h' : Taken ids' t s') :
    Taken (ids ++ ids') s s' where
  movements := h'.movements.trans h.movements
  stock k := (h'.stock k).trans (h.stock k)
  other k hk := by
    rw [List.mem_append, not_or] at hk
    rw [h'.other k hk.2, h.other k hk.1]
  present k := (h'.present k).trans (h.present k)
  before k hk := by
    rcases List.mem_append.mp hk with hk | hk
    · exact h.before k hk
    · rw [← h.present]
      exact h'.before k hk
  sold k := (h'.sold k).trans (h.sold k)
  items := h.items.trans h'.items
  reservations := h.reservations.trans h'.reservations

/-- One item holds units back, and one reservation holds them. -/
theorem taken_single {item : InventoryItem} {r : InventoryReservation} {rs : Reservations}
    (hget : s.items.get? item.id = some item) (hins : s.reservations.insert? r = some rs)
    (ha : r.status = .active) (hitems : s'.items = s.items.put (item.holdBack r.quantity))
    (hrs : s'.reservations = rs) (hmovements : s'.movements = s.movements) :
    Taken [item.id] s s' where
  movements := hmovements
  stock k := by
    have hput : s.items.get? (item.holdBack r.quantity).id = some item := hget
    rw [hitems]
    by_cases hk : k = (item.holdBack r.quantity).id
    · rw [hk, balanceOf_put hput, balanceOf_of_get? hput]
      rfl
    · rw [balanceOf_put_ne s.items hk]
  other k hk := by
    rw [hitems]
    exact balanceOf_put_ne s.items fun e => hk (e ▸ List.mem_singleton_self _)
  present k := by
    rw [hitems, Table.get?_put]
    split
    · rw [Option.isSome_map]
    · rfl
  before k hk := by
    rw [List.mem_singleton.mp hk, hget]
    rfl
  sold k := by
    rw [hrs]
    exact soldOf_insert hins ha k
  items := by
    rw [hitems]
    exact .put (show s.items.get? (item.holdBack r.quantity).id = some item from hget)
      (Nat.lt_succ_self _) rfl
  reservations := by
    rw [hrs]
    exact .insert hins

theorem takeFromItems_taken {terms : BatchTerms} :
    ∀ {ids : List UUID} {remaining : Int} {s s' : Store} {taken taken' : List InventoryReservation},
      takeFromItems env terms ids remaining (s, taken) = .ok (s', taken') →
        ∃ l, taken' = taken ++ l ∧ Taken (l.map InventoryReservation.inventoryItemId) s s' := by
  intro ids
  induction ids with
  | nil =>
    intro remaining s s' taken taken' hrun
    cases hrun
    exact ⟨[], (List.append_nil _).symm, .of_same (.refl s)⟩
  | cons id rest ih =>
    intro remaining s s' taken taken' hrun
    simp only [takeFromItems] at hrun
    split at hrun
    · cases hrun
      exact ⟨[], (List.append_nil _).symm, .of_same (.refl s)⟩
    split at hrun
    · exact ih hrun
    next item hget =>
    split at hrun
    · exact ih hrun
    simp only [Store.draw, bind_eq_ok, Store.putItem_eq_ok, Store.addReservation_eq_ok] at hrun
    obtain ⟨_, ⟨-, rfl⟩, t, ⟨-, rs, hins, ht⟩, hrun⟩ := hrun
    have hid : item.id = id := Table.key_of_get? hget
    have hfirst : Taken [item.id] s t :=
      taken_single (hid ▸ hget) hins rfl (ht ▸ rfl) (ht ▸ rfl) (ht ▸ rfl)
    obtain ⟨l, rfl, hl⟩ := ih hrun
    exact ⟨_ :: l, (List.append_assoc _ _ _).trans rfl, hfirst.append hl⟩

theorem reserveLines_taken {terms : BatchTerms} {candidates : List InventoryItem} :
    ∀ {lines : List BatchReservationLine} {s s' : Store} {taken taken' : List InventoryReservation},
      lines.foldlM (reserveLine env terms candidates) (s, taken) = .ok (s', taken') →
        ∃ l, taken' = taken ++ l ∧ Taken (l.map InventoryReservation.inventoryItemId) s s' := by
  intro lines
  induction lines with
  | nil =>
    intro s s' taken taken' hrun
    cases hrun
    exact ⟨[], (List.append_nil _).symm, .of_same (.refl s)⟩
  | cons line rest ih =>
    intro s s' taken taken' hrun
    rw [List.foldlM_cons, bind_eq_ok] at hrun
    obtain ⟨⟨t, mid⟩, hline, hrest⟩ := hrun
    simp only [reserveLine, bind_eq_ok] at hline
    obtain ⟨_, -, _, -, hline⟩ := hline
    obtain ⟨l, rfl, hl⟩ := takeFromItems_taken hline
    obtain ⟨l', rfl, hl'⟩ := ih hrest
    exact ⟨l ++ l', List.append_assoc _ _ _, by rw [List.map_append]; exact hl.append hl'⟩

/-- The loop over the touched items posts one movement for each of them. -/
theorem recordTouched_posts {before : Store} {g : UUID} :
    ∀ {touched : List UUID} {t s' : Store},
      (∀ k ∈ touched, (before.items.get? k).isSome ∧ (t.items.get? k).isSome) →
      touched.foldlM (recordTouched before principal g) t = .ok s' →
      s'.items = t.items ∧ s'.reservations = t.reservations ∧
        ∃ ms, s'.movements = t.movements ++ ms ∧
          ms.map InventoryMovement.inventoryItemId = touched ∧
          ∀ m ∈ ms, m.result = balanceOf t.items m.inventoryItemId ∧
            m.change = (0, (balanceOf t.items m.inventoryItemId).2 -
              (balanceOf before.items m.inventoryItemId).2) ∧ m.movementType = .reservation := by
  intro touched
  induction touched with
  | nil =>
    intro t s' _ h
    cases h
    exact ⟨rfl, rfl, [], (List.append_nil _).symm, rfl, fun _ hm => absurd hm List.not_mem_nil⟩
  | cons id rest ih =>
    intro t s' hthere h
    rw [List.foldlM_cons, bind_eq_ok] at h
    obtain ⟨u, hu, hrest⟩ := h
    obtain ⟨hold, hnew⟩ := hthere id List.mem_cons_self
    obtain ⟨old, hold⟩ := Option.isSome_iff_exists.mp hold
    obtain ⟨item, hnew⟩ := Option.isSome_iff_exists.mp hnew
    simp only [recordTouched, hold, hnew, bind_eq_ok, pure_eq_ok] at hu
    obtain ⟨v, hv, rfl⟩ := hu
    obtain ⟨hitems, hrs, hmovements⟩ := movement_ok hv
    have hbooks := Store.addLowStockEventIfNeeded_books v item
    have hitems' := hbooks.items.trans hitems
    obtain ⟨hi, hr, ms, hms, hids, hall⟩ := ih (fun k hk => by
      rw [hitems']
      exact hthere k (List.mem_cons_of_mem id hk)) hrest
    have hid : item.id = id := Table.key_of_get? hnew
    refine ⟨hi.trans hitems', hr.trans (hbooks.reservations.trans hrs), _,
      hms.trans ((congrArg (· ++ ms) (hbooks.movements.trans hmovements)).trans
        (List.append_assoc _ _ _)), ?_, ?_⟩
    · rw [List.singleton_append, List.map_cons, hids]
      exact congrArg (· :: rest) hid
    · intro m hm
      rcases List.mem_cons.mp hm with rfl | hm
      · refine ⟨?_, ?_, rfl⟩
        · exact (balanceOf_of_get? (hid.symm ▸ hnew)).symm
        · rw [balanceOf_of_get? (hid.symm ▸ hnew), balanceOf_of_get? (hid.symm ▸ hold)]
          rfl
      · rw [hitems'] at hall
        exact hall m hm

theorem nodup_eraseDups {α : Type} [DecidableEq α] (l : List α) : l.eraseDups.Nodup := by
  induction hn : l.length using Nat.strong_induction_on generalizing l with
  | _ n ih =>
    cases l with
    | nil => exact List.nodup_nil
    | cons a rest =>
      rw [List.eraseDups_cons, List.nodup_cons]
      have hlen : (rest.filter fun b => !b == a).length < n := by
        rw [← hn, List.length_cons]
        exact Nat.lt_succ_of_le (List.length_filter_le _ _)
      refine ⟨fun hmem => ?_, ih _ hlen _ rfl⟩
      have := (List.mem_filter.mp (List.mem_eraseDups.mp hmem)).2
      simp at this

theorem foldl_recordCreated_books (l : List InventoryReservation) (s : Store) :
    Store.SameBooks s (l.foldl recordCreated s) := by
  induction l generalizing s with
  | nil => exact .refl s
  | cons r rest ih =>
    refine Store.SameBooks.trans ?_ (ih _)
    unfold recordCreated
    split
    · exact Store.event_books _ _ _ _
    · exact .refl s

theorem createBatchReservation_trail {data : BatchReservationCreate} {g : UUID}
    {rs : List InventoryReservation}
    (hrun : createBatchReservation env now s data principal key = .ok (s', g, rs)) :
    Trail s s' := by
  simp only [createBatchReservation, bind_eq_ok] at hrun
  obtain ⟨existing, -, hrun⟩ := hrun
  split at hrun
  · simp only [pure_eq_ok, Prod.mk.injEq] at hrun
    obtain ⟨rfl, -⟩ := hrun
    exact .refl
  simp only [Store.draw, bind_eq_ok, pure_eq_ok, Prod.mk.injEq] at hrun
  obtain ⟨e, -, ⟨t, made⟩, hlines, t', ht', u, hu, rfl, -⟩ := hrun
  obtain ⟨_, rfl, htaken⟩ := reserveLines_taken hlines
  have hdrew : Store.SameBooks s { s with drawn := s.drawn + 1 } := ⟨rfl, rfl, rfl⟩
  have htaken : Taken (made.map InventoryReservation.inventoryItemId) s t :=
    (Taken.of_same hdrew).append htaken
  obtain ⟨hitems, hrs, ms, hms, hids, hall⟩ := recordTouched_posts (fun k hk => by
    have hbefore := htaken.before k (List.mem_eraseDups.mp hk)
    exact ⟨hbefore, (htaken.present k).trans hbefore⟩) ht'
  have hposts : Posts ms s t' := by
    refine ⟨hms.trans (congrArg (· ++ ms) htaken.movements), ?_, ?_, ?_, ?_, ?_, ?_, ?_⟩
    · rw [hids]
      exact nodup_eraseDups _
    · intro m hm
      obtain ⟨hresult, hchange, -⟩ := hall m hm
      rw [hitems]
      refine ⟨hresult, ?_⟩
      rw [hchange]
      refine Prod.ext ?_ ?_
      · exact (htaken.stock _).trans (add_zero _).symm
      · exact (add_sub_cancel _ _).symm
    · intro k hk
      rw [hitems]
      refine htaken.other k fun hmem => hk ?_
      rw [hids]
      exact List.mem_eraseDups.mpr hmem
    · intro m hm
      obtain ⟨-, hchange, htype⟩ := hall m hm
      have hzero : m.onHandDelta = 0 := congrArg Prod.fst hchange
      simp [InventoryMovement.Accounted, InventoryMovement.received, InventoryMovement.sold, hzero]
    · intro k
      have hnone : total InventoryMovement.inventoryItemId InventoryMovement.sold ms k = 0 := by
        refine List.sum_eq_zero fun x hx => ?_
        obtain ⟨m, hm, rfl⟩ := List.mem_map.mp hx
        obtain ⟨-, -, htype⟩ := hall m (List.mem_of_mem_filter hm)
        rw [InventoryMovement.sold, htype]
        rfl
      rw [hnone, add_zero, hrs, htaken.sold]
    · rw [hitems]
      exact htaken.items
    · rw [hrs]
      exact htaken.reservations
  exact (hposts.same ((foldl_recordCreated_books _ _).trans (Store.recordIdempotency_books hu))).trail

end Reserving

/-! ## A request -/

section Step

variable {env : Env} {now : DateTime} {s s' : Store}

theorem createWarehouse_books {data : WarehouseCreate} {w : Warehouse}
    (hrun : createWarehouse env s data = .ok (s', w)) : s.SameBooks s' := by
  simp only [createWarehouse, Store.draw, bind_eq_ok, pure_eq_ok, Prod.mk.injEq] at hrun
  obtain ⟨_, -, _, -, rfl, -⟩ := hrun
  exact ⟨rfl, rfl, rfl⟩

theorem updateWarehouse_books {id : UUID} {data : WarehouseUpdate} {version : Nat} {w : Warehouse}
    (hrun : updateWarehouse s id data version = .ok (s', w)) : s.SameBooks s' := by
  simp only [updateWarehouse, bind_eq_ok, pure_eq_ok, Prod.mk.injEq] at hrun
  obtain ⟨_, -, _, -, _, -, _, -, rfl, -⟩ := hrun
  exact ⟨rfl, rfl, rfl⟩

theorem syncCatalogSku_books {data : CatalogSkuSync} {c : CatalogSku}
    (hrun : syncCatalogSku s data = .ok (s', c)) : s.SameBooks s' := by
  simp only [syncCatalogSku, bind_eq_ok] at hrun
  obtain ⟨_, -, hrun⟩ := hrun
  split at hrun
  · simp only [pure_eq_ok, Prod.mk.injEq] at hrun
    obtain ⟨rfl, -⟩ := hrun
    exact ⟨rfl, rfl, rfl⟩
  · simp only [bind_eq_ok, pure_eq_ok, Prod.mk.injEq] at hrun
    obtain ⟨_, -, rfl, -⟩ := hrun
    exact ⟨rfl, rfl, rfl⟩

theorem execute_trail (h : Inv s) {req : Request} (hrun : execute env now s req = .ok s') :
    Trail s s' := by
  cases req with
  | createWarehouse _ =>
    obtain ⟨a, hrun⟩ := fst_map_eq_ok.mp hrun
    exact (createWarehouse_books hrun).trail
  | updateWarehouse _ _ _ =>
    obtain ⟨a, hrun⟩ := fst_map_eq_ok.mp hrun
    exact (updateWarehouse_books hrun).trail
  | syncCatalogSku _ =>
    obtain ⟨a, hrun⟩ := fst_map_eq_ok.mp hrun
    exact (syncCatalogSku_books hrun).trail
  | createItem _ _ _ =>
    obtain ⟨a, hrun⟩ := fst_map_eq_ok.mp hrun
    exact createItem_trail hrun
  | updateItem _ _ _ _ =>
    obtain ⟨a, hrun⟩ := fst_map_eq_ok.mp hrun
    exact updateItem_trail hrun
  | adjustStock _ _ _ _ _ =>
    obtain ⟨a, hrun⟩ := fst_map_eq_ok.mp hrun
    exact adjustStock_trail hrun
  | createReservation _ _ _ =>
    obtain ⟨a, hrun⟩ := fst_map_eq_ok.mp hrun
    exact createReservation_trail hrun
  | createBatchReservation _ _ _ =>
    obtain ⟨a, hrun⟩ := fst_map_eq_ok.mp hrun
    exact createBatchReservation_trail hrun
  | commitReservation _ _ _ =>
    obtain ⟨a, hrun⟩ := fst_map_eq_ok.mp hrun
    exact commitReservation_trail hrun
  | releaseReservation _ _ _ =>
    obtain ⟨a, hrun⟩ := fst_map_eq_ok.mp hrun
    exact releaseReservation_trail hrun
  | commitReservationGroup _ _ =>
    obtain ⟨a, hrun⟩ := fst_map_eq_ok.mp hrun
    exact commitReservationGroup_trail h hrun
  | releaseReservationGroup _ _ _ =>
    obtain ⟨a, hrun⟩ := fst_map_eq_ok.mp hrun
    exact releaseReservationGroup_trail h hrun
  | expireReservations principal limit tie =>
    cases hrun
    exact expireReservations_trail h now principal limit tie

theorem step_trail (h : Inv s) (call : DateTime × Request) : Trail s (step env s call) := by
  unfold step
  split
  next s' hrun => exact execute_trail h hrun
  next => exact .refl

end Step

end Inventory
end Marketplace
