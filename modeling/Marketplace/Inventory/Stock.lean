import Marketplace.Inventory.Routes

/-!
# Inventory: the stock pool behind the tables

The two counters of an item and the status of a reservation are one pool of
stock written down twice: `on_hand_quantity` is the stock, the active
reservations are the holds, and `reserved_quantity` caches how much they hold.
`Balanced` says that the two tables agree, and that the pool they describe is
sound.

The service changes the tables in five ways, and each is one move of the pool
that keeps them balanced.
-/

namespace Marketplace
namespace Inventory

open Base

abbrev Items := Table InventoryItem.id

abbrev Reservations := Table InventoryReservation.id

def hold (r : InventoryReservation) : UUID × ℤ := (r.inventoryItemId, r.quantity)

/-- The holds of the active reservations among `m`. -/
def holdsOf (m : Multiset InventoryReservation) : Multiset (UUID × ℤ) :=
  (m.filter fun r => r.status = .active).map hold

theorem holdsOf_cons_active {r : InventoryReservation} {m : Multiset InventoryReservation}
    (h : r.status = .active) : holdsOf (r ::ₘ m) = hold r ::ₘ holdsOf m := by
  simp [holdsOf, h]

theorem holdsOf_cons_closed {r : InventoryReservation} {m : Multiset InventoryReservation}
    (h : r.status ≠ .active) : holdsOf (r ::ₘ m) = holdsOf m := by
  simp [holdsOf, h]

def stockOf (items : Items) (i : UUID) : ℤ :=
  match items.get? i with
  | some item => item.onHandQuantity
  | none => 0

def pool (items : Items) (rs : Reservations) : Pool UUID := ⟨stockOf items, holdsOf rs.toMultiset⟩

structure Balanced (items : Items) (rs : Reservations) : Prop where
  sound : (pool items rs).Sound
  reserved : ∀ item ∈ items, item.reservedQuantity = (pool items rs).held item.id
  threshold : ∀ item ∈ items, 0 ≤ item.lowStockThreshold
  fits : ∀ item ∈ items, item.onHandQuantity < 2 ^ 31
  stocked : ∀ r ∈ rs, ∃ item ∈ items, item.id = r.inventoryItemId
  positive : ∀ r ∈ rs, 0 < r.quantity

/-- Moves of the pool that end in balanced tables. -/
def Moves (items : Items) (rs : Reservations) (items' : Items) (rs' : Reservations) : Prop :=
  Pool.Steps (pool items rs) (pool items' rs') ∧ Balanced items' rs'

theorem Moves.refl {items : Items} {rs : Reservations} (h : Balanced items rs) :
    Moves items rs items rs := ⟨.refl, h⟩

theorem Moves.trans {i₁ i₂ i₃ : Items} {r₁ r₂ r₃ : Reservations} (h : Moves i₁ r₁ i₂ r₂)
    (h' : Moves i₂ r₂ i₃ r₃) : Moves i₁ r₁ i₃ r₃ := ⟨h.1.trans h'.1, h'.2⟩

/-! ## The pool and the tables -/

theorem stockOf_of_mem {items : Items} {item : InventoryItem} (h : item ∈ items) :
    stockOf items item.id = item.onHandQuantity := by
  rw [stockOf, Table.get?_key h]

theorem stockOf_put {items : Items} {old item : InventoryItem}
    (h : items.get? item.id = some old) :
    stockOf (items.put item) = Function.update (stockOf items) item.id item.onHandQuantity := by
  funext i
  by_cases hi : i = item.id
  · subst hi
    rw [Function.update_self, stockOf, Table.get?_put_self h rfl]
  · rw [Function.update_of_ne hi, stockOf, Table.get?_put_ne hi, stockOf]

theorem stockOf_insert? {items items' : Items} {item : InventoryItem}
    (h : items.insert? item = some items') :
    stockOf items' = Function.update (stockOf items) item.id item.onHandQuantity := by
  funext i
  by_cases hi : i = item.id
  · subst hi
    rw [Function.update_self, stockOf, Table.get?_insert? h, if_pos rfl]
  · rw [Function.update_of_ne hi, stockOf, Table.get?_insert? h, if_neg hi, stockOf]

namespace Balanced

variable {items : Items} {rs : Reservations}

theorem empty : Balanced Table.empty Table.empty where
  sound := Pool.Sound.empty
  reserved _ h := absurd h (Table.not_mem_empty _)
  threshold _ h := absurd h (Table.not_mem_empty _)
  fits _ h := absurd h (Table.not_mem_empty _)
  stocked _ h := absurd h (Table.not_mem_empty _)
  positive _ h := absurd h (Table.not_mem_empty _)

/-- Nothing is held of an item that does not exist. -/
theorem held_absent (h : Balanced items rs) {i : UUID} (hi : ∀ item ∈ items, item.id ≠ i) :
    (pool items rs).held i = 0 := by
  have hnone : (holdsOf rs.toMultiset).filter (fun x => x.1 = i) = 0 := by
    refine Multiset.filter_eq_nil.mpr fun x hx => ?_
    obtain ⟨r, hr, rfl⟩ := Multiset.mem_map.mp hx
    obtain ⟨item, hitem, hid⟩ := h.stocked r (Multiset.mem_of_mem_filter hr)
    exact fun e => hi item hitem (hid.trans e)
  show (((holdsOf rs.toMultiset).filter fun x => x.1 = i).map Prod.snd).sum = 0
  rw [hnone]
  rfl

theorem reserved_nonneg (h : Balanced items rs) {item : InventoryItem} (hi : item ∈ items) :
    0 ≤ item.reservedQuantity := by
  rw [h.reserved item hi]
  exact h.sound.held_nonneg item.id

theorem reserved_le (h : Balanced items rs) {item : InventoryItem} (hi : item ∈ items) :
    item.reservedQuantity ≤ item.onHandQuantity := by
  rw [h.reserved item hi, ← stockOf_of_mem hi]
  exact h.sound.covered item.id

/-- An active reservation is covered by what its item holds back. -/
theorem le_reserved (h : Balanced items rs) {item : InventoryItem} (hi : item ∈ items)
    {r : InventoryReservation} (hr : r ∈ rs) (ha : r.status = .active)
    (hid : r.inventoryItemId = item.id) : r.quantity ≤ item.reservedQuantity := by
  rw [h.reserved item hi, ← hid]
  have hmem : hold r ∈ holdsOf rs.toMultiset :=
    Multiset.mem_map_of_mem hold (Multiset.mem_filter.mpr ⟨hr, ha⟩)
  exact h.sound.le_held hmem

/-- The item of a reservation can always be read. -/
theorem item_of (h : Balanced items rs) {r : InventoryReservation} (hr : r ∈ rs) :
    ∃ item, items.get? r.inventoryItemId = some item := by
  obtain ⟨item, hitem, hid⟩ := h.stocked r hr
  exact ⟨item, hid ▸ Table.get?_key hitem⟩

/-! ## The five changes -/

/-- A new item, with nothing reserved. -/
theorem addItem (h : Balanced items rs) {items' : Items} {item : InventoryItem}
    (hins : items.insert? item = some items') (hres : item.reservedQuantity = 0)
    (hchk : item.Storable) : Moves items rs items' rs := by
  have hnew : ∀ i ∈ items, i.id ≠ item.id := (Table.insert?_eq_some hins).1
  have hheld : (pool items rs).held item.id = 0 := h.held_absent hnew
  have hstep : Pool.Step (pool items rs) (pool items' rs) := by
    rw [show pool items' rs = ⟨Function.update (stockOf items) item.id item.onHandQuantity,
      holdsOf rs.toMultiset⟩ by rw [pool, stockOf_insert? hins]]
    exact .restock (pool items rs) item.id item.onHandQuantity (hheld.trans_le hchk.2.1)
  refine ⟨.single hstep, h.sound.step hstep, ?_, ?_, ?_, ?_, h.positive⟩
  · intro i hi
    rcases (Table.mem_insert? hins).mp hi with hi | rfl
    · exact h.reserved i hi
    · rw [hres]
      exact hheld.symm
  · intro i hi
    rcases (Table.mem_insert? hins).mp hi with hi | rfl
    · exact h.threshold i hi
    · exact hchk.2.2.2.2
  · intro i hi
    rcases (Table.mem_insert? hins).mp hi with hi | rfl
    · exact h.fits i hi
    · exact hchk.1
  · intro r hr
    obtain ⟨i, hi, hid⟩ := h.stocked r hr
    exact ⟨i, (Table.mem_insert? hins).mpr (Or.inl hi), hid⟩

/-- What overwriting an item leaves to check: its own row. -/
theorem of_put (h : Balanced items rs) {rs' : Reservations} {old item : InventoryItem}
    (hget : items.get? item.id = some old) (hsound : (pool (items.put item) rs').Sound)
    (hself : item.reservedQuantity = (pool (items.put item) rs').held item.id)
    (hother : ∀ i, i ≠ item.id → (pool (items.put item) rs').held i = (pool items rs).held i)
    (hthr : 0 ≤ item.lowStockThreshold) (hfits : item.onHandQuantity < 2 ^ 31)
    (hpos : ∀ r ∈ rs', 0 < r.quantity)
    (hsame : ∀ r' ∈ rs', r'.inventoryItemId = item.id ∨
      ∃ r ∈ rs, r.inventoryItemId = r'.inventoryItemId) :
    Balanced (items.put item) rs' := by
  have hmem : item ∈ items.put item := Table.mem_of_get? (Table.get?_put_self hget rfl)
  refine ⟨hsound, ?_, ?_, ?_, ?_, hpos⟩
  · intro i hi
    rcases Table.mem_put.mp hi with ⟨rfl, -⟩ | ⟨hi, hne⟩
    · exact hself
    · rw [hother i.id hne]
      exact h.reserved i hi
  · intro i hi
    rcases Table.mem_put.mp hi with ⟨rfl, -⟩ | ⟨hi, -⟩
    · exact hthr
    · exact h.threshold i hi
  · intro i hi
    rcases Table.mem_put.mp hi with ⟨rfl, -⟩ | ⟨hi, -⟩
    · exact hfits
    · exact h.fits i hi
  · intro r' hr'
    by_cases hid : r'.inventoryItemId = item.id
    · exact ⟨item, hmem, hid.symm⟩
    · obtain ⟨r, hr, he⟩ := (hsame r' hr').resolve_left hid
      obtain ⟨i, hi, hii⟩ := h.stocked r hr
      refine ⟨i, Table.mem_put.mpr (Or.inr ⟨hi, fun e => hid ?_⟩), hii.trans he⟩
      rw [← he, ← hii]
      exact e

/-- A new stock level, or any other change that leaves the reserved count. -/
theorem editItem (h : Balanced items rs) {old item : InventoryItem}
    (hget : items.get? item.id = some old) (hres : item.reservedQuantity = old.reservedQuantity)
    (hchk : item.Storable) : Moves items rs (items.put item) rs := by
  have hmem : old ∈ items := Table.mem_of_get? hget
  have hheld : (pool items rs).held item.id = item.reservedQuantity := by
    rw [hres, h.reserved old hmem, Table.key_of_get? hget]
  have hstep : Pool.Step (pool items rs) (pool (items.put item) rs) := by
    rw [show pool (items.put item) rs =
      ⟨Function.update (stockOf items) item.id item.onHandQuantity, holdsOf rs.toMultiset⟩ by
        rw [pool, stockOf_put hget]]
    exact .restock (pool items rs) item.id item.onHandQuantity (hheld.trans_le hchk.2.2.2.1)
  refine ⟨.single hstep, h.of_put hget (h.sound.step hstep) hheld.symm (fun _ _ => rfl)
    hchk.2.2.2.2 hchk.1 h.positive fun r hr => Or.inr ⟨r, hr, rfl⟩⟩

/-- A new reservation, whose units the item now holds back. -/
theorem reserve (h : Balanced items rs) {old item : InventoryItem} {r : InventoryReservation}
    {rs' : Reservations} (hget : items.get? item.id = some old)
    (hins : rs.insert? r = some rs') (hstock : item.onHandQuantity = old.onHandQuantity)
    (hres : item.reservedQuantity = old.reservedQuantity + r.quantity) (hchk : item.Storable)
    (ha : r.status = .active) (hid : r.inventoryItemId = item.id) (hq : 0 < r.quantity) :
    Moves items rs (items.put item) rs' := by
  have hmem : old ∈ items := Table.mem_of_get? hget
  have hkey : old.id = item.id := Table.key_of_get? hget
  have hheld : (pool items rs).held item.id = old.reservedQuantity := by
    rw [h.reserved old hmem, hkey]
  have hstock' : stockOf (items.put item) = stockOf items := by
    rw [stockOf_put hget, hstock, ← stockOf_of_mem hmem, hkey, Function.update_eq_self]
  have hpool : pool (items.put item) rs' =
      ⟨stockOf items, (item.id, r.quantity) ::ₘ holdsOf rs.toMultiset⟩ := by
    rw [pool, hstock', Table.toMultiset_insert? hins, holdsOf_cons_active ha, hold, hid]
  have hstep : Pool.Step (pool items rs) (pool (items.put item) rs') := by
    rw [hpool]
    refine .hold (pool items rs) item.id r.quantity hq ?_
    have hon : (pool items rs).onHand item.id = item.onHandQuantity := by
      rw [hstock, ← stockOf_of_mem hmem, hkey]
      rfl
    have hle := hchk.2.2.2.1
    rw [Pool.free, hheld, hon]
    omega
  refine ⟨.single hstep, h.of_put hget (h.sound.step hstep) ?_ ?_ hchk.2.2.2.2 hchk.1 ?_ ?_⟩
  · rw [hpool, Pool.held_cons, if_pos rfl, hres, ← hheld, add_comm]
    rfl
  · intro i hi
    rw [hpool, Pool.held_cons, if_neg (Ne.symm hi), zero_add]
    rfl
  · intro x hx
    rcases (Table.mem_insert? hins).mp hx with hx | rfl
    · exact h.positive x hx
    · exact hq
  · intro x hx
    rcases (Table.mem_insert? hins).mp hx with hx | rfl
    · exact Or.inr ⟨x, hx, rfl⟩
    · exact Or.inl hid

end Balanced

/-- The row of a reservation that has been resolved: the same units of the same
customer, no longer active. -/
structure Closes (r closed : InventoryReservation) : Prop where
  id : closed.id = r.id
  item : closed.inventoryItemId = r.inventoryItemId
  quantity : closed.quantity = r.quantity
  customer : closed.customerId = r.customerId
  group : closed.reservationGroupId = r.reservationGroupId
  expiry : closed.expiresAt = r.expiresAt
  status : closed.status ≠ .active

namespace Balanced

variable {items : Items} {rs : Reservations}

/-- Closing an active reservation takes exactly its hold out of the pool. -/
theorem holds_close {r closed : InventoryReservation} (hr : r ∈ rs) (ha : r.status = .active)
    (hc : Closes r closed) :
    ∃ m, holdsOf rs.toMultiset = (r.inventoryItemId, r.quantity) ::ₘ m ∧
      holdsOf (rs.put closed).toMultiset = m := by
  obtain ⟨m, hm, hput⟩ := Table.exists_rows_eq_cons hr
  refine ⟨holdsOf m, ?_, ?_⟩
  · rw [hm, holdsOf_cons_active ha, hold]
  · rw [hput closed hc.id, holdsOf_cons_closed hc.status]

/-- Either way of closing a reservation: `out` of its units leave the stock,
none when it is released or expired and all when it is committed. -/
theorem close (h : Balanced items rs) {old item : InventoryItem} {r closed : InventoryReservation}
    {out : ℤ} (hget : items.get? item.id = some old) (hr : r ∈ rs) (ha : r.status = .active)
    (hc : Closes r closed) (hid : r.inventoryItemId = item.id)
    (hout : out = 0 ∨ out = r.quantity)
    (hstock : item.onHandQuantity = old.onHandQuantity - out)
    (hres : item.reservedQuantity = old.reservedQuantity - r.quantity)
    (hthr : 0 ≤ item.lowStockThreshold) :
    Moves items rs (items.put item) (rs.put closed) := by
  have hfits : item.onHandQuantity < 2 ^ 31 := by
    have hold := h.fits old (Table.mem_of_get? hget)
    have hpos := h.positive r hr
    rcases hout with rfl | rfl <;> omega
  obtain ⟨m, hm, hm'⟩ := holds_close hr ha hc
  have hmem : old ∈ items := Table.mem_of_get? hget
  have hkey : old.id = item.id := Table.key_of_get? hget
  have hpool : pool items rs = ⟨stockOf items, (item.id, r.quantity) ::ₘ m⟩ := by
    rw [pool, hm, hid]
  have hstep : Pool.Step (pool items rs) (pool (items.put item) (rs.put closed)) := by
    rw [hpool, pool, hm', stockOf_put hget, hstock, ← stockOf_of_mem hmem, hkey]
    rcases hout with rfl | rfl
    · rw [sub_zero, Function.update_eq_self]
      exact .drop _ _ _ _
    · exact .consume _ _ _ _
  have hself : (pool items rs).held item.id =
      r.quantity + (pool (items.put item) (rs.put closed)).held item.id := by
    rw [hpool, Pool.held_cons, if_pos rfl, pool, hm']
    rfl
  refine ⟨.single hstep, h.of_put hget (h.sound.step hstep) ?_ ?_ hthr hfits ?_ ?_⟩
  · have := h.reserved old hmem
    rw [hkey] at this
    omega
  · intro i hi
    rw [hpool, Pool.held_cons, if_neg (Ne.symm hi), zero_add, pool, hm']
    rfl
  · intro x hx
    rcases Table.mem_put.mp hx with ⟨rfl, -⟩ | ⟨hx, -⟩
    · rw [hc.quantity]
      exact h.positive r hr
    · exact h.positive x hx
  · intro x hx
    rcases Table.mem_put.mp hx with ⟨rfl, -⟩ | ⟨hx, -⟩
    · exact Or.inl (hc.item.trans hid)
    · exact Or.inr ⟨x, hx, rfl⟩

theorem storable (h : Balanced items rs) {item : InventoryItem} (hi : item ∈ items) :
    item.Storable := by
  have hnn := h.reserved_nonneg hi
  have hcov := h.reserved_le hi
  exact ⟨h.fits item hi, by omega, hnn, hcov, h.threshold item hi⟩

/-- An item that gives back the units of one of its active reservations can be
stored. -/
theorem storable_close (h : Balanced items rs) {old item : InventoryItem}
    {r : InventoryReservation} {out : ℤ} (hmem : old ∈ items) (hr : r ∈ rs)
    (ha : r.status = .active) (hid : r.inventoryItemId = old.id)
    (hout : out = 0 ∨ out = r.quantity)
    (hstock : item.onHandQuantity = old.onHandQuantity - out)
    (hres : item.reservedQuantity = old.reservedQuantity - r.quantity)
    (hthr : item.lowStockThreshold = old.lowStockThreshold) : item.Storable := by
  have hle := h.le_reserved hmem hr ha hid
  have hpos := h.positive r hr
  have hcov := h.reserved_le hmem
  have hnn := h.reserved_nonneg hmem
  have hfits := h.fits old hmem
  refine ⟨?_, ?_, ?_, ?_, ?_⟩
  · rcases hout with rfl | rfl <;> omega
  · rcases hout with rfl | rfl <;> omega
  · omega
  · rcases hout with rfl | rfl <;> omega
  · rw [hthr]
    exact h.threshold old hmem

end Balanced

end Inventory
end Marketplace
