import Marketplace.Inventory.Closing

/-!
# Inventory: what an operation does

One lemma for each operation says everything later modules need about the store
it commits.  `Effect` is what all operations have in common; the operations that
close or add reservations say which.  Nothing after this module unfolds an
operation.
-/

namespace Marketplace
namespace Inventory

open Base

/-- The identifier was drawn between the two stores. -/
def Fresh (env : Env) (s s' : Store) (id : UUID) : Prop :=
  ∃ i, s.drawn ≤ i ∧ i < s'.drawn ∧ env.uuid4.value i = id

structure Effect (env : Env) (s s' : Store) : Prop where
  refines : Refines s s'
  drawn : s.drawn ≤ s'.drawn
  mono : ∀ rec ∈ s.idempotency, rec ∈ s'.idempotency
  items : ∀ i ∈ s'.items, (∃ j ∈ s.items, j.id = i.id) ∨ Fresh env s s' i.id
  /-- A group is an old one or, in a step that adds no item, a fresh one. -/
  groups : ∀ r' ∈ s'.reservations, ∀ g, r'.reservationGroupId = some g →
    (∃ r ∈ s.reservations, r.reservationGroupId = some g ∧ r.customerId = r'.customerId) ∨
      (Fresh env s s' g ∧ ∀ i ∈ s'.items, ∃ j ∈ s.items, j.id = i.id)
  /-- At most one record is new.  What it names is an old item or fresh, and a
  group that it names and that is new belongs to the actor of the record. -/
  records : ∃ k, ∀ rec ∈ s'.idempotency, rec ∈ s.idempotency ∨ (rec.key = k ∧
    ∀ id, rec.resourceId = some id → ((∃ j ∈ s.items, j.id = id) ∨ Fresh env s s' id) ∧
      ∀ r' ∈ s'.reservations, r'.reservationGroupId = some id →
        (∃ r ∈ s.reservations, r.reservationGroupId = some id) ∨ r'.customerId = rec.actorId)

section Common

variable {env : Env} {s s' : Store}

theorem old_group {r' : InventoryReservation} (hr : r' ∈ s.reservations) {g : UUID}
    (hg : r'.reservationGroupId = some g) :
    ∃ r ∈ s.reservations, r.reservationGroupId = some g ∧ r.customerId = r'.customerId :=
  ⟨r', hr, hg, rfl⟩

theorem Effect.refl (h : Inv s) : Effect env s s where
  refines := .refl h
  drawn := le_rfl
  mono _ h := h
  items i hi := Or.inl ⟨i, hi, rfl⟩
  groups _ hr _ hg := Or.inl (old_group hr hg)
  records := ⟨(0, ""), fun _ h => Or.inl h⟩

/-- A step that leaves the reservations and the idempotency records alone. -/
theorem Effect.of_quiet (hmoves : Refines s s') (hrs : s'.reservations = s.reservations)
    (hidem : s'.idempotency = s.idempotency) (hdrawn : s.drawn ≤ s'.drawn)
    (hitems : ∀ i ∈ s'.items, ∃ j ∈ s.items, j.id = i.id) : Effect env s s' where
  refines := hmoves
  drawn := hdrawn
  mono _ hrec := hidem ▸ hrec
  items i hi := Or.inl (hitems i hi)
  groups _ hr _ hg := Or.inl (old_group (hrs ▸ hr) hg)
  records := ⟨(0, ""), fun _ hrec => Or.inl (hidem ▸ hrec)⟩

theorem ClosedAll.effect {close : InventoryReservation → InventoryReservation}
    {l : List InventoryReservation} (h : ClosedAll close l s s') : Effect env s s' where
  refines := h.refines
  drawn := h.drawn.ge
  mono _ hrec := h.idempotency ▸ hrec
  items i hi := Or.inl (h.itemIds i hi)
  groups r' hr' g hg := by
    rcases h.mem hr' with ⟨r, hr, rfl⟩ | ⟨hr, -⟩
    · refine Or.inl ⟨r, Table.mem_of_get? (h.opened r hr).1, ?_, (h.closes r hr).customer.symm⟩
      rw [← (h.closes r hr).group]
      exact hg
    · exact Or.inl (old_group hr hg)
  records := ⟨(0, ""), fun _ hrec => Or.inl (h.idempotency ▸ hrec)⟩

/-- Closing reservations after an effect is still one. -/
theorem Effect.closed {t : Store} (h : Effect env s t)
    {close : InventoryReservation → InventoryReservation} {l : List InventoryReservation}
    (hc : ClosedAll close l t s') : Effect env s s' := by
  have hfresh : ∀ id, Fresh env s t id → Fresh env s s' id := fun id ⟨i, hi, hi', he⟩ =>
    ⟨i, hi, hc.drawn ▸ hi', he⟩
  have hback : ∀ r' ∈ s'.reservations, ∃ r ∈ t.reservations,
      r.reservationGroupId = r'.reservationGroupId ∧ r.customerId = r'.customerId := by
    intro r' hr'
    rcases hc.mem hr' with ⟨r, hr, rfl⟩ | ⟨hr, -⟩
    · exact ⟨r, Table.mem_of_get? (hc.opened r hr).1, (hc.closes r hr).group.symm,
        (hc.closes r hr).customer.symm⟩
    · exact ⟨r', hr, rfl, rfl⟩
  have hitems : ∀ i ∈ s'.items, (∃ j ∈ s.items, j.id = i.id) ∨ Fresh env s s' i.id := by
    intro i hi
    obtain ⟨j, hj, hji⟩ := hc.itemIds i hi
    rw [← hji]
    exact (h.items j hj).imp_right (hfresh j.id)
  refine ⟨h.refines.trans hc.refines, hc.drawn ▸ h.drawn,
    fun rec hrec => hc.idempotency ▸ h.mono rec hrec, hitems, ?_, ?_⟩
  · intro r' hr' g hg
    obtain ⟨r, hr, hrg, hrc⟩ := hback r' hr'
    rcases h.groups r hr g (hrg.trans hg) with ⟨x, hx, hxg, hxc⟩ | ⟨hf, hold⟩
    · exact Or.inl ⟨x, hx, hxg, hxc.trans hrc⟩
    · refine Or.inr ⟨hfresh g hf, fun i hi => ?_⟩
      obtain ⟨j, hj, hji⟩ := hc.itemIds i hi
      exact hji ▸ hold j hj
  · obtain ⟨k, hk⟩ := h.records
    refine ⟨k, fun rec hrec => ?_⟩
    rcases hk rec (hc.idempotency ▸ hrec) with hold | ⟨hkey, hnew⟩
    · exact Or.inl hold
    · refine Or.inr ⟨hkey, fun id hid => ⟨(hnew id hid).1.imp_right (hfresh id), ?_⟩⟩
      intro r' hr' hg
      obtain ⟨r, hr, hrg, hrc⟩ := hback r' hr'
      exact ((hnew id hid).2 r hr (hrg.trans hg)).imp_right fun howner => hrc.symm.trans howner

/-- What a record written at the end of a step names. -/
theorem Store.Recorded.names {t : Store} {actorId resourceId : UUID} {key : Option String}
    (h : Store.Recorded t s' actorId key resourceId)
    (hid : (∃ j ∈ s.items, j.id = resourceId) ∨ Fresh env s s' resourceId)
    (hold : ∀ r' ∈ s'.reservations, r'.reservationGroupId = some resourceId →
      (∃ r ∈ s.reservations, r.reservationGroupId = some resourceId) ∨ r'.customerId = actorId) :
    ∃ k, ∀ rec ∈ s'.idempotency, rec ∈ t.idempotency ∨ (rec.key = k ∧
      ∀ id, rec.resourceId = some id → ((∃ j ∈ s.items, j.id = id) ∨ Fresh env s s' id) ∧
        ∀ r' ∈ s'.reservations, r'.reservationGroupId = some id →
          (∃ r ∈ s.reservations, r.reservationGroupId = some id) ∨ r'.customerId = rec.actorId) := by
  refine ⟨(actorId, (givenKey key).getD ""), fun rec hr => ?_⟩
  rcases h.records rec hr with hr | ⟨hactor, hkey, hres⟩
  · exact Or.inl hr
  · refine Or.inr ⟨by rw [IdempotencyRecord.key, hactor, hkey]; rfl, fun id hid' => ?_⟩
    cases hres.symm.trans hid'
    exact ⟨hid, fun r' hr' hg => hactor ▸ hold r' hr' hg⟩

end Common

/-! ## Stock keeping -/

section StockKeeping

variable {env : Env} {s s' : Store}

theorem createWarehouse_effect (h : Inv s) {data : WarehouseCreate} {w : Warehouse}
    (hrun : createWarehouse env s data = .ok (s', w)) :
    Effect env s s' ∧ s'.reservations = s.reservations := by
  simp only [createWarehouse, Store.draw, bind_eq_ok, orRaise_eq_ok, pure_eq_ok,
    Prod.mk.injEq] at hrun
  obtain ⟨_, -, _, -, rfl, -⟩ := hrun
  exact ⟨.of_quiet (.refl h) rfl rfl (Nat.le_succ _) fun i hi => ⟨i, hi, rfl⟩, rfl⟩

theorem updateWarehouse_effect (h : Inv s) {id : UUID} {data : WarehouseUpdate} {version : Nat}
    {w : Warehouse} (hrun : updateWarehouse s id data version = .ok (s', w)) :
    Effect env s s' ∧ s'.reservations = s.reservations := by
  simp only [updateWarehouse, bind_eq_ok, pure_eq_ok, Prod.mk.injEq] at hrun
  obtain ⟨_, -, _, -, _, -, _, -, rfl, -⟩ := hrun
  exact ⟨.of_quiet (.refl h) rfl rfl le_rfl fun i hi => ⟨i, hi, rfl⟩, rfl⟩

theorem syncCatalogSku_effect (h : Inv s) {data : CatalogSkuSync} {c : CatalogSku}
    (hrun : syncCatalogSku s data = .ok (s', c)) :
    Effect env s s' ∧ s'.reservations = s.reservations := by
  simp only [syncCatalogSku, bind_eq_ok] at hrun
  obtain ⟨_, -, hrun⟩ := hrun
  split at hrun
  · simp only [pure_eq_ok, Prod.mk.injEq] at hrun
    obtain ⟨rfl, -⟩ := hrun
    exact ⟨.of_quiet (.refl h) rfl rfl le_rfl fun i hi => ⟨i, hi, rfl⟩, rfl⟩
  · simp only [bind_eq_ok, pure_eq_ok, Prod.mk.injEq] at hrun
    obtain ⟨_, -, rfl, -⟩ := hrun
    exact ⟨.of_quiet (.refl h) rfl rfl le_rfl fun i hi => ⟨i, hi, rfl⟩, rfl⟩

theorem recordInitialStock_same {item : InventoryItem} {principal : Principal}
    (h : recordInitialStock s item principal = .ok s') : Store.SameTables s s' := by
  unfold recordInitialStock at h
  split at h
  · exact Store.movement_same h
  · cases h
    exact .refl s

theorem managedItem_ok {id : UUID} {principal : Principal} {item : InventoryItem}
    (h : managedItem s id principal = .ok item) : s.items.get? id = some item := by
  simp only [managedItem, bind_eq_ok, orRaise_eq_ok, pure_eq_ok] at h
  obtain ⟨_, hget, _, -, rfl⟩ := h
  exact hget

theorem createItem_effect (h : Inv s) {data : InventoryItemCreate} {principal : Principal}
    {key : Option String} {item : InventoryItem}
    (hrun : createItem env s data principal key = .ok (s', item)) :
    Effect env s s' ∧ s'.reservations = s.reservations := by
  simp only [createItem, bind_eq_ok] at hrun
  obtain ⟨_, -, hrun⟩ := hrun
  split at hrun
  · simp only [pure_eq_ok, Prod.mk.injEq] at hrun
    obtain ⟨rfl, -⟩ := hrun
    exact ⟨.refl h, rfl⟩
  simp only [Store.draw, bind_eq_ok, orRaise_eq_ok, require_eq_ok, Store.addItem_eq_ok,
    pure_eq_ok, Prod.mk.injEq] at hrun
  obtain ⟨_, -, _, -, _, -, _, -, _, -, _, ⟨hchk, -, items, hins, rfl⟩, t, ht, u, hu, rfl, -⟩ := hrun
  have hrec := (Store.recordIdempotency_recorded hu).of_same
    ((recordInitialStock_same ht).trans (Store.event_same _ _ _))
  have hfresh : Fresh env s u (env.uuid4.value s.drawn) :=
    ⟨s.drawn, le_rfl, by rw [hrec.drawn]; exact Nat.lt_succ_self _, rfl⟩
  refine ⟨⟨?_, ?_, hrec.mono, ?_, ?_, ?_⟩, hrec.reservations⟩
  · rw [Refines, hrec.items, hrec.reservations]
    exact h.addItem hins rfl hchk
  · rw [hrec.drawn]
    exact Nat.le_succ _
  · intro i hi
    rw [hrec.items] at hi
    rcases (Table.mem_insert? hins).mp hi with hi | rfl
    · exact Or.inl ⟨i, hi, rfl⟩
    · exact Or.inr hfresh
  · exact fun _ hr _ hg => Or.inl (old_group (hrec.reservations ▸ hr) hg)
  · exact hrec.names (Or.inr hfresh) fun r' hr' hg => Or.inl ⟨r', hrec.reservations ▸ hr', hg⟩

theorem updateItem_effect (h : Inv s) {id : UUID} {data : InventoryItemUpdate} {version : Nat}
    {principal : Principal} {item : InventoryItem}
    (hrun : updateItem s id data version principal = .ok (s', item)) :
    Effect env s s' ∧ s'.reservations = s.reservations := by
  simp only [updateItem, bind_eq_ok, Store.putItem_eq_ok, pure_eq_ok, Prod.mk.injEq] at hrun
  obtain ⟨old, hold, _, -, _, -, _, -, _, ⟨hchk, rfl⟩, rfl, -⟩ := hrun
  have hmem : old ∈ s.items := Table.mem_of_get? (managedItem_ok hold)
  have hget : s.items.get? old.id = some old := Table.get?_key hmem
  refine ⟨.of_quiet (h.editItem hget rfl hchk) rfl rfl le_rfl fun i hi => ?_, rfl⟩
  rcases Table.mem_put.mp hi with ⟨rfl, -⟩ | ⟨hi, -⟩
  · exact ⟨old, hmem, rfl⟩
  · exact ⟨i, hi, rfl⟩

theorem adjustStock_effect (h : Inv s) {id : UUID} {data : StockAdjustment} {version : Nat}
    {principal : Principal} {key : Option String} {item : InventoryItem}
    (hrun : adjustStock env s id data version principal key = .ok (s', item)) :
    Effect env s s' ∧ s'.reservations = s.reservations := by
  simp only [adjustStock, bind_eq_ok] at hrun
  obtain ⟨_, -, hrun⟩ := hrun
  split at hrun
  · simp only [pure_eq_ok, Prod.mk.injEq] at hrun
    obtain ⟨rfl, -⟩ := hrun
    exact ⟨.refl h, rfl⟩
  simp only [bind_eq_ok, Store.putItem_eq_ok, pure_eq_ok, Prod.mk.injEq] at hrun
  obtain ⟨old, hold, _, -, _, -, _, ⟨hchk, rfl⟩, t, ht, u, hu, rfl, -⟩ := hrun
  have hmem : old ∈ s.items := Table.mem_of_get? (managedItem_ok hold)
  have hrec := (Store.recordIdempotency_recorded hu).of_same ((Store.movement_same ht).trans
    ((Store.event_same _ _ _).trans (Store.addLowStockEventIfNeeded_same _)))
  refine ⟨⟨?_, hrec.drawn.ge, hrec.mono, ?_, ?_, ?_⟩, hrec.reservations⟩
  · rw [Refines, hrec.items, hrec.reservations]
    exact h.editItem (Table.get?_key hmem : s.items.get? old.id = some old) rfl hchk
  · intro i hi
    rw [hrec.items] at hi
    rcases Table.mem_put.mp hi with ⟨rfl, -⟩ | ⟨hi, -⟩
    · exact Or.inl ⟨old, hmem, rfl⟩
    · exact Or.inl ⟨i, hi, rfl⟩
  · exact fun _ hr _ hg => Or.inl (old_group (hrec.reservations ▸ hr) hg)
  · exact hrec.names (Or.inl ⟨old, hmem, rfl⟩) fun r' hr' hg =>
      Or.inl ⟨r', hrec.reservations ▸ hr', hg⟩

end StockKeeping

/-! ## Making reservations -/

/-- The reservations of `new` have been added, and nothing else happened to the
reservations. -/
structure Added (new : List InventoryReservation) (s s' : Store) : Prop where
  refines : Refines s s'
  rows : s'.reservations.rows = s.reservations.rows ++ new
  active : ∀ r ∈ new, r.status = .active
  itemIds : ∀ i ∈ s'.items, ∃ j ∈ s.items, j.id = i.id
  idempotency : s'.idempotency = s.idempotency
  drawn : s.drawn ≤ s'.drawn

theorem Added.nil {s : Store} (h : Inv s) : Added [] s s where
  refines := .refl h
  rows := (List.append_nil _).symm
  active _ hr := absurd hr List.not_mem_nil
  itemIds i hi := ⟨i, hi, rfl⟩
  idempotency := rfl
  drawn := le_rfl

theorem Added.append {l l' : List InventoryReservation} {s t s' : Store} (h : Added l s t)
    (h' : Added l' t s') : Added (l ++ l') s s' where
  refines := h.refines.trans h'.refines
  rows := by rw [h'.rows, h.rows, List.append_assoc]
  active r hr := (List.mem_append.mp hr).elim (h.active r) (h'.active r)
  itemIds i hi := by
    obtain ⟨j, hj, hji⟩ := h'.itemIds i hi
    obtain ⟨k, hk, hkj⟩ := h.itemIds j hj
    exact ⟨k, hk, hkj.trans hji⟩
  idempotency := h'.idempotency.trans h.idempotency
  drawn := h.drawn.trans h'.drawn

theorem Added.mem {l : List InventoryReservation} {s s' : Store} (h : Added l s s')
    {r : InventoryReservation} : r ∈ s'.reservations ↔ r ∈ s.reservations ∨ r ∈ l := by
  rw [Table.mem_def, h.rows, List.mem_append]
  rfl

/-- Holding units back and storing the reservation that holds them. -/
theorem added_single {s s' : Store} {item : InventoryItem} {r : InventoryReservation}
    {rs : Reservations} (h : Inv s) (hget : s.items.get? item.id = some item)
    (hchk : (item.holdBack r.quantity).Storable) (hq : 0 < r.quantity)
    (hins : s.reservations.insert? r = some rs) (ha : r.status = .active)
    (hid : r.inventoryItemId = item.id)
    (hitems : s'.items = s.items.put (item.holdBack r.quantity)) (hrs : s'.reservations = rs)
    (hidem : s'.idempotency = s.idempotency) (hdrawn : s.drawn ≤ s'.drawn) :
    Added [r] s s' where
  refines := by
    rw [Refines, hitems, hrs]
    exact h.reserve (show s.items.get? (item.holdBack r.quantity).id = some item from hget) hins
      rfl rfl hchk ha hid hq
  rows := by rw [hrs]; exact (Table.insert?_eq_some hins).2
  active x hx := by rw [List.mem_singleton.mp hx]; exact ha
  itemIds i hi := by
    rw [hitems] at hi
    rcases Table.mem_put.mp hi with ⟨rfl, -⟩ | ⟨hi, -⟩
    · exact ⟨item, Table.mem_of_get? hget, rfl⟩
    · exact ⟨i, hi, rfl⟩
  idempotency := hidem
  drawn := hdrawn

section Reserving

variable {env : Env} {now : DateTime} {s s' : Store} {principal : Principal}
  {key : Option String}

/-- Adding reservations and then recording what was made. -/
theorem Added.effect {l : List InventoryReservation} {t : Store} {actorId resourceId : UUID}
    (h : Added l s t) (hrec : Store.Recorded t s' actorId key resourceId)
    (hgroups : ∀ r ∈ l, ∀ g, r.reservationGroupId = some g → Fresh env s t g)
    (hfresh : Fresh env s t resourceId)
    (howner : ∀ r ∈ l, r.reservationGroupId = some resourceId → r.customerId = actorId) :
    Effect env s s' := by
  have hmem : ∀ r ∈ s'.reservations, r ∈ s.reservations ∨ r ∈ l := fun r hr =>
    h.mem.mp (hrec.reservations ▸ hr)
  have hitems : ∀ i ∈ s'.items, ∃ j ∈ s.items, j.id = i.id := hrec.items ▸ h.itemIds
  have hlift : ∀ id, Fresh env s t id → Fresh env s s' id := fun id ⟨i, hi, hi', he⟩ =>
    ⟨i, hi, hrec.drawn ▸ hi', he⟩
  refine ⟨?_, hrec.drawn ▸ h.drawn, ?_, fun i hi => Or.inl (hitems i hi), ?_, ?_⟩
  · rw [Refines, hrec.items, hrec.reservations]
    exact h.refines
  · exact fun rec hr => hrec.mono rec (h.idempotency.symm ▸ hr)
  · intro r hr g hg
    rcases hmem r hr with hold | hnew
    · exact Or.inl (old_group hold hg)
    · exact Or.inr ⟨hlift g (hgroups r hnew g hg), hitems⟩
  · obtain ⟨k, hk⟩ := hrec.names (Or.inr (hlift resourceId hfresh)) fun r hr hg => by
      rcases hmem r hr with hold | hnew
      · exact Or.inl ⟨r, hold, hg⟩
      · exact Or.inr (howner r hnew hg)
    exact ⟨k, fun rec hr => (hk rec hr).imp_left fun hr' => h.idempotency ▸ hr'⟩

theorem createReservation_effect (h : Inv s) {data : ReservationCreate}
    {r : InventoryReservation}
    (hrun : createReservation env now s data principal key = .ok (s', r)) :
    Effect env s s' ∧ (s'.reservations = s.reservations ∨
      (r.reservationGroupId = none ∧ ∀ x, x ∈ s'.reservations ↔ x ∈ s.reservations ∨ x = r)) := by
  simp only [createReservation, bind_eq_ok] at hrun
  obtain ⟨_, -, hrun⟩ := hrun
  split at hrun
  · simp only [pure_eq_ok, Prod.mk.injEq] at hrun
    obtain ⟨rfl, -⟩ := hrun
    exact ⟨.refl h, Or.inl rfl⟩
  simp only [Store.draw, bind_eq_ok, orRaise_eq_ok, Store.putItem_eq_ok,
    Store.addReservation_eq_ok, pure_eq_ok, Prod.mk.injEq] at hrun
  obtain ⟨item, hget, _, -, _, -, expiresAt, -, _, ⟨hchk, rfl⟩, t₀, ⟨hq, rs, hins, ht₀⟩, t, ht, u,
    hu, rfl, rfl⟩ := hrun
  have hid : item.id = data.inventoryItemId := Table.key_of_get? hget
  have hadd : Added [data.reservation (env.uuid4.value s.drawn) item.id principal.subject
      expiresAt] s t₀ :=
    added_single h (hid ▸ hget) hchk hq hins rfl rfl (ht₀ ▸ rfl) (ht₀ ▸ rfl) (ht₀ ▸ rfl)
      (ht₀ ▸ Nat.le_succ s.drawn)
  have hrec := (Store.recordIdempotency_recorded hu).of_same ((Store.movement_same ht).trans
    ((Store.event_same _ _ _).trans (Store.addLowStockEventIfNeeded_same _)))
  have hfresh : Fresh env s t₀ (env.uuid4.value s.drawn) :=
    ⟨s.drawn, le_rfl, ht₀ ▸ Nat.lt_succ_self s.drawn, rfl⟩
  refine ⟨hadd.effect hrec ?_ hfresh ?_, Or.inr ⟨rfl, fun x => ?_⟩⟩
  · intro r hr g hg
    rw [List.mem_singleton.mp hr] at hg
    cases hg
  · intro r hr hg
    rw [List.mem_singleton.mp hr] at hg
    cases hg
  · rw [hrec.reservations, hadd.mem, List.mem_singleton]
    rfl

/-- What every reservation made for a batch looks like. -/
def Meets (terms : BatchTerms) (r : InventoryReservation) : Prop :=
  r.customerId = terms.customerId ∧ r.reservationGroupId = some terms.groupId ∧
    r.expiresAt = terms.expiresAt

theorem takeFromItems_added {terms : BatchTerms} :
    ∀ {ids : List UUID} {remaining : Int} {s s' : Store} {taken taken' : List InventoryReservation},
      Inv s → takeFromItems env terms ids remaining (s, taken) = .ok (s', taken') →
        ∃ l, taken' = taken ++ l ∧ Added l s s' ∧ ∀ r ∈ l, Meets terms r := by
  intro ids
  induction ids with
  | nil =>
    intro remaining s s' taken taken' h hrun
    cases hrun
    exact ⟨[], (List.append_nil _).symm, .nil h, nofun⟩
  | cons id rest ih =>
    intro remaining s s' taken taken' h hrun
    simp only [takeFromItems] at hrun
    split at hrun
    · cases hrun
      exact ⟨[], (List.append_nil _).symm, .nil h, nofun⟩
    split at hrun
    · exact ih h hrun
    next item hget =>
    split at hrun
    · exact ih h hrun
    simp only [Store.draw, bind_eq_ok, Store.putItem_eq_ok, Store.addReservation_eq_ok] at hrun
    obtain ⟨_, ⟨hchk, rfl⟩, t, ⟨hq, rs, hins, ht⟩, hrun⟩ := hrun
    have hid : item.id = id := Table.key_of_get? hget
    have hadd : Added [terms.reservation (env.uuid4.value s.drawn) item.id
        (min item.availableQuantity remaining)] s t :=
      added_single h (hid ▸ hget) hchk hq hins rfl rfl (ht ▸ rfl) (ht ▸ rfl) (ht ▸ rfl)
        (ht ▸ Nat.le_succ s.drawn)
    obtain ⟨l, rfl, hl, hmeets⟩ := ih hadd.refines.2 hrun
    refine ⟨_ :: l, (List.append_assoc _ _ _).trans rfl, hadd.append hl, fun r hr => ?_⟩
    rcases List.mem_cons.mp hr with rfl | hr
    · exact ⟨rfl, rfl, rfl⟩
    · exact hmeets r hr

theorem reserveLine_added {terms : BatchTerms} {candidates : List InventoryItem}
    {line : BatchReservationLine} {taken taken' : List InventoryReservation} (h : Inv s)
    (hrun : reserveLine env terms candidates (s, taken) line = .ok (s', taken')) :
    ∃ l, taken' = taken ++ l ∧ Added l s s' ∧ ∀ r ∈ l, Meets terms r := by
  simp only [reserveLine, bind_eq_ok] at hrun
  obtain ⟨_, -, _, -, hrun⟩ := hrun
  exact takeFromItems_added h hrun

theorem reserveLines_added {terms : BatchTerms} {candidates : List InventoryItem} :
    ∀ {lines : List BatchReservationLine} {s s' : Store} {taken taken' : List InventoryReservation},
      Inv s → lines.foldlM (reserveLine env terms candidates) (s, taken) = .ok (s', taken') →
        ∃ l, taken' = taken ++ l ∧ Added l s s' ∧ ∀ r ∈ l, Meets terms r := by
  intro lines
  induction lines with
  | nil =>
    intro s s' taken taken' h hrun
    cases hrun
    exact ⟨[], (List.append_nil _).symm, .nil h, nofun⟩
  | cons line rest ih =>
    intro s s' taken taken' h hrun
    rw [List.foldlM_cons, bind_eq_ok] at hrun
    obtain ⟨⟨t, mid⟩, hline, hrest⟩ := hrun
    obtain ⟨l, rfl, hl, hmeets⟩ := reserveLine_added h hline
    obtain ⟨l', rfl, hl', hmeets'⟩ := ih hl.refines.2 hrest
    refine ⟨l ++ l', List.append_assoc _ _ _, hl.append hl', fun r hr => ?_⟩
    exact (List.mem_append.mp hr).elim (hmeets r) (hmeets' r)

theorem recordTouched_same {before : Store} {g id : UUID}
    (h : recordTouched before principal g s id = .ok s') : Store.SameTables s s' := by
  unfold recordTouched at h
  split at h
  · simp only [bind_eq_ok, pure_eq_ok] at h
    obtain ⟨t, ht, rfl⟩ := h
    exact (Store.movement_same ht).trans (Store.addLowStockEventIfNeeded_same _)
  · cases h
    exact .refl s

theorem recordCreated_same (s : Store) (r : InventoryReservation) :
    Store.SameTables s (recordCreated s r) := by
  unfold recordCreated
  split
  · exact Store.event_same _ _ _
  · exact .refl s

theorem foldl_recordCreated_same (l : List InventoryReservation) (s : Store) :
    Store.SameTables s (l.foldl recordCreated s) := by
  induction l generalizing s with
  | nil => exact .refl s
  | cons r rest ih => exact (recordCreated_same s r).trans (ih _)

/-- A batch replays a recorded group, or makes a new one. -/
theorem createBatchReservation_effect (h : Inv s) {data : BatchReservationCreate} {g : UUID}
    {rs : List InventoryReservation}
    (hrun : createBatchReservation env now s data principal key = .ok (s', g, rs)) :
    Effect env s s' ∧
      ((s' = s ∧ rs = s.listReservationsByGroup g ∧ ∃ k, givenKey key = some k ∧
        ∃ rec ∈ s.idempotency, rec.key = (data.customerId, k) ∧ rec.resourceId = some g) ∨
      (g = env.uuid4.value s.drawn ∧ s.drawn < s'.drawn ∧
        (∃ e, ∀ r ∈ rs, r.customerId = data.customerId ∧ r.reservationGroupId = some g ∧
          r.expiresAt = e ∧ r.status = .active) ∧
        (∀ x, x ∈ s'.reservations ↔ x ∈ s.reservations ∨ x ∈ rs) ∧
        ∀ k, givenKey key = some k →
          ∃ rec ∈ s'.idempotency, rec.key = (data.customerId, k) ∧ rec.resourceId = some g)) := by
  simp only [createBatchReservation, bind_eq_ok] at hrun
  obtain ⟨existing, hlook, hrun⟩ := hrun
  split at hrun
  next gid r rest hre =>
    simp only [pure_eq_ok, Prod.mk.injEq] at hrun
    obtain ⟨rfl, rfl, rfl⟩ := hrun
    obtain ⟨_, hres, hpair⟩ := Option.map_eq_some_iff.mp hre
    obtain ⟨rec, rfl, hid⟩ := Option.bind_eq_some_iff.mp hres
    obtain ⟨rfl, hrs⟩ := Prod.mk.inj hpair
    obtain ⟨k, hk, hmem, hkey⟩ := Store.idempotencyLookup_some hlook
    exact ⟨.refl h, Or.inl ⟨rfl, hrs.symm, k, hk, rec, hmem, hkey, hid⟩⟩
  next hre =>
    simp only [Store.draw, bind_eq_ok, pure_eq_ok, Prod.mk.injEq] at hrun
    obtain ⟨e, -, ⟨t, made⟩, hlines, t', ht', u, hu, rfl, rfl, rfl⟩ := hrun
    have hdrew : Inv { s with drawn := s.drawn + 1 } := h
    obtain ⟨_, rfl, hl, hmeets⟩ := reserveLines_added hdrew hlines
    have hadd : Added made s t := { hl with drawn := (Nat.le_succ s.drawn).trans hl.drawn }
    have hloop : Store.SameTables t t' :=
      foldlM_keeps (fun _ x => Store.SameTables t x)
        (fun _ _ _ _ hx hrun => hx.trans (recordTouched_same hrun)) (.refl t) ht'
    have hrec := (Store.recordIdempotency_recorded hu).of_same
      (hloop.trans (foldl_recordCreated_same _ _))
    have hfresh : Fresh env s t (env.uuid4.value s.drawn) := ⟨s.drawn, le_rfl, hl.drawn, rfl⟩
    refine ⟨hadd.effect hrec ?_ hfresh ?_, Or.inr ⟨rfl, ?_, ⟨e, ?_⟩, ?_, hrec.kept⟩⟩
    · intro r hr g hg
      cases (hmeets r hr).2.1.symm.trans hg
      exact hfresh
    · exact fun r hr _ => (hmeets r hr).1
    · rw [hrec.drawn]
      exact hl.drawn
    · exact fun r hr => ⟨(hmeets r hr).1, (hmeets r hr).2.1, (hmeets r hr).2.2, hl.active r hr⟩
    · intro x
      rw [hrec.reservations, hadd.mem]

end Reserving

/-! ## Resolving reservations -/

section Resolving

variable {now : DateTime} {s s' : Store} {principal : Principal}

theorem activeReservationWithItem_ok {id : UUID} {r : InventoryReservation} {item : InventoryItem}
    (h : activeReservationWithItem s id principal = .ok (r, item)) :
    r.id = id ∧ Open s r ∧ canResolve r.customerId principal = true ∧
      s.items.get? r.inventoryItemId = some item := by
  simp only [activeReservationWithItem, bind_eq_ok, orRaise_eq_ok, require_eq_ok, pure_eq_ok,
    Prod.mk.injEq] at h
  obtain ⟨r', hget, _, hcan, _, ha, item', hitem, rfl, rfl⟩ := h
  have hid : r'.id = id := Table.key_of_get? hget
  exact ⟨hid, ⟨hid ▸ hget, ha⟩, hcan, hitem⟩

theorem activeReservationWithItem_succeeds (h : Inv s) {r : InventoryReservation} (ho : Open s r)
    (hcan : canResolve r.customerId principal = true) :
    ∃ item, activeReservationWithItem s r.id principal = .ok (r, item) ∧
      s.items.get? r.inventoryItemId = some item := by
  obtain ⟨item, hget⟩ := h.item_of (Table.mem_of_get? ho.1)
  refine ⟨item, ?_, hget⟩
  simp only [activeReservationWithItem, ho.1, orRaise, ok_bind, require_pos hcan,
    require_pos ho.2, hget]
  rfl

/-- Committing one reservation closes it: as expired when its time is up, as
committed otherwise. -/
theorem commitReservation_closes (h : Inv s) {id : UUID} {ref : String}
    {a : Except ServiceError InventoryReservation}
    (hrun : commitReservation now s id ref principal = .ok (s', a)) :
    ∃ r, r.id = id ∧ canResolve r.customerId principal = true ∧ Open s r ∧
      (r.expiresAt ≤ now ∧ ClosedAll (closeAs .expired) [r] s s' ∨
        now < r.expiresAt ∧ ClosedAll (commitAs (some ref)) [r] s s') := by
  simp only [commitReservation, bind_eq_ok] at hrun
  obtain ⟨⟨r, item⟩, hread, hrun⟩ := hrun
  obtain ⟨hid, ho, hcan, hget⟩ := activeReservationWithItem_ok hread
  refine ⟨r, hid, hcan, ho, ?_⟩
  split at hrun
  next hexp =>
    simp only [bind_eq_ok, pure_eq_ok, Prod.mk.injEq] at hrun
    obtain ⟨t, ht, rfl, -⟩ := hrun
    obtain ⟨t', ht', hc⟩ := resolveReservation_closes h ho hget principal
      (show ReservationStatus.expired ≠ .active by decide) .reservationExpired none
    cases ht.symm.trans ht'
    exact Or.inl ⟨of_decide_eq_true hexp, hc⟩
  next hexp =>
    simp only [bind_eq_ok, pure_eq_ok, Prod.mk.injEq] at hrun
    obtain ⟨t, ht, rfl, -⟩ := hrun
    obtain ⟨t', ht', hc⟩ := commitUnits_closes h ho hget principal (some ref) "order" ref
    cases ht.symm.trans ht'
    exact Or.inr ⟨not_le.mp fun hle => hexp (decide_eq_true hle), hc⟩

theorem commitReservation_effect (h : Inv s) {id : UUID} {ref : String}
    {a : Except ServiceError InventoryReservation}
    (hrun : commitReservation now s id ref principal = .ok (s', a)) :
    ∃ r, r.id = id ∧ canResolve r.customerId principal = true ∧ Open s r ∧
      (ClosedAll (closeAs .expired) [r] s s' ∨ ClosedAll (commitAs (some ref)) [r] s s') := by
  obtain ⟨r, hid, hcan, ho, hc⟩ := commitReservation_closes h hrun
  exact ⟨r, hid, hcan, ho, hc.imp And.right And.right⟩

theorem commitReservation_succeeds (h : Inv s) {r : InventoryReservation} (ho : Open s r)
    (hcan : canResolve r.customerId principal = true) (ref : String) :
    ∃ s' a, commitReservation now s r.id ref principal = .ok (s', a) := by
  obtain ⟨item, hread, hget⟩ := activeReservationWithItem_succeeds h ho hcan
  simp only [commitReservation, hread, ok_bind]
  split
  · obtain ⟨t, ht, -⟩ := resolveReservation_closes h ho hget principal
      (show ReservationStatus.expired ≠ .active by decide) .reservationExpired none
    exact ⟨_, _, by rw [ht]; rfl⟩
  · obtain ⟨t, ht, -⟩ := commitUnits_closes h ho hget principal (some ref) "order" ref
    exact ⟨_, _, by rw [ht]; rfl⟩

theorem releaseReservation_effect (h : Inv s) {id : UUID} {reason : MovementReason}
    {note : Option String} {a : InventoryReservation}
    (hrun : releaseReservation s id reason note principal = .ok (s', a)) :
    ∃ r, r.id = id ∧ canResolve r.customerId principal = true ∧ Open s r ∧
      ClosedAll (closeAs .released) [r] s s' := by
  simp only [releaseReservation, bind_eq_ok, pure_eq_ok, Prod.mk.injEq] at hrun
  obtain ⟨⟨r, item⟩, hread, t, ht, rfl, -⟩ := hrun
  obtain ⟨hid, ho, hcan, hget⟩ := activeReservationWithItem_ok hread
  obtain ⟨t', ht', hc⟩ := resolveReservation_closes h ho hget principal
    (show ReservationStatus.released ≠ .active by decide) reason note
  cases ht.symm.trans ht'
  exact ⟨r, hid, hcan, ho, hc⟩

theorem releaseReservation_succeeds (h : Inv s) {r : InventoryReservation} (ho : Open s r)
    (hcan : canResolve r.customerId principal = true) (reason : MovementReason)
    (note : Option String) :
    ∃ s' a, releaseReservation s r.id reason note principal = .ok (s', a) := by
  obtain ⟨item, hread, hget⟩ := activeReservationWithItem_succeeds h ho hcan
  obtain ⟨t, ht, -⟩ := resolveReservation_closes h ho hget principal
    (show ReservationStatus.released ≠ .active by decide) reason note
  simp only [releaseReservation, hread, ok_bind, ht]
  exact ⟨_, _, rfl⟩

theorem expireReservations_effect (h : Inv s) (now : DateTime) (principal : Principal) (limit : Nat)
    (tie : UUID → Nat) :
    ClosedAll (closeAs .expired) (s.listExpiredActive now limit tie) s
      (expireReservations now s principal limit tie).1 := by
  have hopen : ∀ r ∈ s.listExpiredActive now limit tie, Open s r := fun r hr =>
    ⟨Table.get?_key (Store.mem_listExpiredActive hr).1, (Store.mem_listExpiredActive hr).2.1⟩
  obtain ⟨s', hs', hc⟩ := foldl_sweep_closes principal _ 0 h
    (Store.nodup_listExpiredActive s now limit tie) hopen
  rw [expireReservations, hs']
  exact hc

end Resolving
end Inventory
end Marketplace
