import Marketplace.Inventory.Stock

/-!
# Inventory: closing reservations

Resolving a reservation cannot fail in a balanced store: the check constraints
hold of every row it writes, and the item of a reservation can always be read.
So the loops over a group and the sweep close every reservation they are given,
and `ClosedAll` says what that leaves behind.
-/

namespace Marketplace
namespace Inventory

open Base

abbrev Inv (s : Store) : Prop := Balanced s.items s.reservations

abbrev Refines (s s' : Store) : Prop := Moves s.items s.reservations s'.items s'.reservations

/-! ## The helpers -/

namespace Store

variable {s s' : Store}

/-- The two stores agree on everything but the movements and the outbox. -/
structure SameTables (s s' : Store) : Prop where
  items : s'.items = s.items
  reservations : s'.reservations = s.reservations
  idempotency : s'.idempotency = s.idempotency
  drawn : s'.drawn = s.drawn

theorem SameTables.refl (s : Store) : SameTables s s := ⟨rfl, rfl, rfl, rfl⟩

theorem SameTables.trans {s₁ s₂ s₃ : Store} (h : SameTables s₁ s₂) (h' : SameTables s₂ s₃) :
    SameTables s₁ s₃ :=
  ⟨h'.items.trans h.items, h'.reservations.trans h.reservations,
    h'.idempotency.trans h.idempotency, h'.drawn.trans h.drawn⟩

theorem event_same (e : String) (i : InventoryItem) (r : Option InventoryReservation) :
    SameTables s (s.event e i r) := ⟨rfl, rfl, rfl, rfl⟩

theorem addLowStockEventIfNeeded_same (i : InventoryItem) :
    SameTables s (s.addLowStockEventIfNeeded i) := by
  unfold addLowStockEventIfNeeded
  split
  · exact event_same _ _ _
  · exact .refl s

theorem movement_same {item : InventoryItem} {principal : Principal} {t : MovementType}
    {reason : MovementReason} {dOnHand dReserved : Int} {refType refId note : Option String}
    (h : s.movement item principal t reason dOnHand dReserved refType refId note = .ok s') :
    SameTables s s' := by
  simp only [movement, addMovement_eq_ok] at h
  obtain ⟨-, rfl⟩ := h
  exact ⟨rfl, rfl, rfl, rfl⟩

/-- What a request leaves in the idempotency table: the records there were, and
one more when it carries a key. -/
structure Recorded (s s' : Store) (actorId : UUID) (key : Option String) (resourceId : UUID) :
    Prop where
  items : s'.items = s.items
  reservations : s'.reservations = s.reservations
  drawn : s'.drawn = s.drawn
  mono : ∀ rec ∈ s.idempotency, rec ∈ s'.idempotency
  records : ∀ rec ∈ s'.idempotency, rec ∈ s.idempotency ∨
    (rec.actorId = actorId ∧ givenKey key = some rec.idempotencyKey ∧
      rec.resourceId = some resourceId)
  kept : ∀ k, givenKey key = some k →
    ∃ rec ∈ s'.idempotency, rec.key = (actorId, k) ∧ rec.resourceId = some resourceId

theorem idempotencyLookup_some {actorId : UUID} {key : Option String} {hash : String}
    {rec : IdempotencyRecord} (h : s.idempotencyLookup actorId key hash = .ok (some rec)) :
    ∃ k, givenKey key = some k ∧ rec ∈ s.idempotency ∧ rec.key = (actorId, k) := by
  unfold idempotencyLookup at h
  cases hk : givenKey key with
  | none =>
    rw [hk] at h
    cases h
  | some k =>
    rw [hk] at h
    cases hget : s.idempotency.get? (actorId, k) with
    | none =>
      simp only [hget] at h
      cases h
    | some existing =>
      simp only [hget, bind_eq_ok, pure_eq_ok, Option.some.injEq] at h
      obtain ⟨_, -, rfl⟩ := h
      exact ⟨k, rfl, Table.get?_eq_some.mp hget⟩

theorem Recorded.of_same {t : Store} {actorId resourceId : UUID} {key : Option String}
    (h : Recorded t s' actorId key resourceId) (hs : SameTables s t) :
    Recorded s s' actorId key resourceId where
  items := h.items.trans hs.items
  reservations := h.reservations.trans hs.reservations
  drawn := h.drawn.trans hs.drawn
  mono rec hrec := h.mono rec (hs.idempotency ▸ hrec)
  records rec hrec := (h.records rec hrec).imp_left fun hr => hs.idempotency ▸ hr
  kept := h.kept

theorem recordIdempotency_recorded {actorId resourceId : UUID} {key : Option String}
    {hash type : String} (h : s.recordIdempotency actorId key hash type resourceId = .ok s') :
    Recorded s s' actorId key resourceId := by
  unfold recordIdempotency at h
  cases hk : givenKey key with
  | none =>
    rw [hk] at h
    cases h
    refine ⟨rfl, rfl, rfl, fun _ hrec => hrec, fun _ hrec => Or.inl hrec, fun k hk' => ?_⟩
    rw [hk] at hk'
    cases hk'
  | some k =>
    rw [hk] at h
    obtain ⟨rs, hins, rfl⟩ := addIdempotencyRecord_eq_ok.mp h
    refine ⟨rfl, rfl, rfl, fun rec hrec => ?_, fun rec hrec => ?_, fun k' hk' => ?_⟩
    · exact (Table.mem_insert? hins).mpr (Or.inl hrec)
    · rcases (Table.mem_insert? hins).mp hrec with hrec | rfl
      · exact Or.inl hrec
      · exact Or.inr ⟨rfl, hk, rfl⟩
    · cases hk.symm.trans hk'
      exact ⟨_, (Table.mem_insert? hins).mpr (Or.inr rfl), rfl, rfl⟩

end Store

/-! ## Closing reservations -/

/-- The reservation is stored as it stands, and active. -/
def Open (s : Store) (r : InventoryReservation) : Prop :=
  s.reservations.get? r.id = some r ∧ r.status = .active

def closeAs (target : ReservationStatus) (r : InventoryReservation) : InventoryReservation :=
  { r with status := target, version := r.version + 1 }

def commitAs (orderReference : Option String) (r : InventoryReservation) : InventoryReservation :=
  { r with status := .committed, orderReference := orderReference, version := r.version + 1 }

theorem closeAs_closes {target : ReservationStatus} (h : target ≠ .active)
    (r : InventoryReservation) : Closes r (closeAs target r) := ⟨rfl, rfl, rfl, rfl, rfl, rfl, h⟩

theorem commitAs_closes (ref : Option String) (r : InventoryReservation) :
    Closes r (commitAs ref r) := ⟨rfl, rfl, rfl, rfl, rfl, rfl, nofun⟩

/-- The reservations of `l` have been closed as `close` says, and nothing else
happened to the reservations. -/
structure ClosedAll (close : InventoryReservation → InventoryReservation)
    (l : List InventoryReservation) (s s' : Store) : Prop where
  opened : ∀ r ∈ l, Open s r
  closes : ∀ r ∈ l, Closes r (close r)
  refines : Refines s s'
  closed : ∀ r ∈ l, s'.reservations.get? r.id = some (close r)
  other : ∀ id, (∀ r ∈ l, r.id ≠ id) → s'.reservations.get? id = s.reservations.get? id
  itemIds : ∀ i ∈ s'.items, ∃ j ∈ s.items, j.id = i.id
  idempotency : s'.idempotency = s.idempotency
  drawn : s'.drawn = s.drawn

theorem ClosedAll.nil {close : InventoryReservation → InventoryReservation} {s : Store}
    (h : Inv s) : ClosedAll close [] s s where
  opened _ hr := absurd hr List.not_mem_nil
  closes _ hr := absurd hr List.not_mem_nil
  refines := .refl h
  closed _ hr := absurd hr List.not_mem_nil
  other _ _ := rfl
  itemIds i hi := ⟨i, hi, rfl⟩
  idempotency := rfl
  drawn := rfl

theorem ClosedAll.cons {close : InventoryReservation → InventoryReservation}
    {r : InventoryReservation} {l : List InventoryReservation} {s t s' : Store}
    (hr : ∀ x ∈ l, x.id ≠ r.id) (h : ClosedAll close [r] s t) (h' : ClosedAll close l t s') :
    ClosedAll close (r :: l) s s' where
  opened x hx := by
    rcases List.mem_cons.mp hx with rfl | hx
    · exact h.opened x List.mem_cons_self
    · obtain ⟨hget, ha⟩ := h'.opened x hx
      refine ⟨(h.other x.id fun y hy => ?_).symm.trans hget, ha⟩
      rw [List.mem_singleton.mp hy]
      exact (hr x hx).symm
  closes x hx := by
    rcases List.mem_cons.mp hx with rfl | hx
    · exact h.closes x List.mem_cons_self
    · exact h'.closes x hx
  refines := h.refines.trans h'.refines
  closed x hx := by
    rcases List.mem_cons.mp hx with rfl | hx
    · rw [h'.other _ hr]
      exact h.closed x List.mem_cons_self
    · exact h'.closed x hx
  other id hid := by
    rw [h'.other id fun x hx => hid x (List.mem_cons_of_mem r hx)]
    refine h.other id fun x hx => ?_
    rw [List.mem_singleton.mp hx]
    exact hid r List.mem_cons_self
  itemIds i hi := by
    obtain ⟨j, hj, hji⟩ := h'.itemIds i hi
    obtain ⟨k, hk, hkj⟩ := h.itemIds j hj
    exact ⟨k, hk, hkj.trans hji⟩
  idempotency := h'.idempotency.trans h.idempotency
  drawn := h'.drawn.trans h.drawn

theorem ClosedAll.congr {close close' : InventoryReservation → InventoryReservation}
    {l : List InventoryReservation} {s s' : Store} (h : ClosedAll close l s s')
    (he : ∀ r ∈ l, close r = close' r) : ClosedAll close' l s s' :=
  { h with
    closes := fun r hr => he r hr ▸ h.closes r hr
    closed := fun r hr => he r hr ▸ h.closed r hr }

/-- An open reservation of another row is still open after closing. -/
theorem ClosedAll.open_other {close : InventoryReservation → InventoryReservation}
    {l : List InventoryReservation} {s s' : Store} (h : ClosedAll close l s s')
    {r : InventoryReservation} (hr : ∀ x ∈ l, x.id ≠ r.id) (ho : Open s r) : Open s' r :=
  ⟨(h.other r.id hr).trans ho.1, ho.2⟩

/-- An item that gives back the units of `r`, `out` of which leave the stock. -/
def giveBack (item : InventoryItem) (r : InventoryReservation) (out : Int) : InventoryItem :=
  { item with
    onHandQuantity := item.onHandQuantity - out
    reservedQuantity := item.reservedQuantity - r.quantity
    version := item.version + 1 }

/-- A reservation after closing is one of those closed, or was there before. -/
theorem ClosedAll.mem {close : InventoryReservation → InventoryReservation}
    {l : List InventoryReservation} {s s' : Store} (h : ClosedAll close l s s')
    {x : InventoryReservation} (hx : x ∈ s'.reservations) :
    (∃ r ∈ l, x = close r) ∨ (x ∈ s.reservations ∧ ∀ r ∈ l, r.id ≠ x.id) := by
  by_cases hl : ∃ r ∈ l, r.id = x.id
  · obtain ⟨r, hr, he⟩ := hl
    have hget := h.closed r hr
    rw [he, Table.get?_key hx] at hget
    exact Or.inl ⟨r, hr, Option.some.inj hget⟩
  · have hne : ∀ r ∈ l, r.id ≠ x.id := fun r hr e => hl ⟨r, hr, e⟩
    have hget := h.other x.id hne
    rw [Table.get?_key hx] at hget
    exact Or.inr ⟨Table.mem_of_get? hget.symm, hne⟩

/-- The two row writes that close one reservation. -/
theorem closed_single {close : InventoryReservation → InventoryReservation} {s s' : Store}
    {r : InventoryReservation} {item : InventoryItem} {out : ℤ} (h : Inv s) (ho : Open s r)
    (hget : s.items.get? r.inventoryItemId = some item) (hc : Closes r (close r))
    (hout : out = 0 ∨ out = r.quantity) (hitems : s'.items = s.items.put (giveBack item r out))
    (hrs : s'.reservations = s.reservations.put (close r))
    (hidem : s'.idempotency = s.idempotency) (hdrawn : s'.drawn = s.drawn) :
    ClosedAll close [r] s s' := by
  have hmem : r ∈ s.reservations := Table.mem_of_get? ho.1
  have hold : item ∈ s.items := Table.mem_of_get? hget
  have hkey : item.id = r.inventoryItemId := Table.key_of_get? hget
  have hmoves : Moves s.items s.reservations (s.items.put (giveBack item r out))
      (s.reservations.put (close r)) :=
    h.close (by rw [giveBack, hkey]; exact hget) hmem ho.2 hc hkey.symm hout rfl rfl
      (h.threshold item hold)
  refine ⟨?_, ?_, by rw [Refines, hitems, hrs]; exact hmoves, ?_, ?_, ?_, hidem, hdrawn⟩
  · intro x hx
    rw [List.mem_singleton.mp hx]
    exact ho
  · intro x hx
    rw [List.mem_singleton.mp hx]
    exact hc
  · intro x hx
    rw [List.mem_singleton.mp hx, hrs]
    exact Table.get?_put_self ho.1 hc.id
  · intro id hne
    rw [hrs]
    refine Table.get?_put_ne fun e => hne r List.mem_cons_self ?_
    rw [e, hc.id]
  · intro i hi
    rw [hitems] at hi
    rcases Table.mem_put.mp hi with ⟨rfl, -⟩ | ⟨hi, -⟩
    · exact ⟨item, hold, rfl⟩
    · exact ⟨i, hi, rfl⟩

section Closing

variable {s s' : Store} {r : InventoryReservation} {item : InventoryItem} {principal : Principal}

theorem resolveReservation_writes {target : ReservationStatus} {reason : MovementReason}
    {note : Option String}
    (h : resolveReservation s r item principal target reason note = .ok s') :
    s'.items = s.items.put (giveBack item r 0) ∧
      s'.reservations = s.reservations.put (closeAs target r) ∧
      s'.idempotency = s.idempotency ∧ s'.drawn = s.drawn := by
  simp only [resolveReservation, Store.movement, bind_eq_ok, Store.putItem_eq_ok,
    Store.addMovement_eq_ok, pure_eq_ok] at h
  obtain ⟨_, ⟨-, rfl⟩, _, ⟨-, rfl⟩, rfl⟩ := h
  have hitem : giveBack item r 0 = { item with
      reservedQuantity := item.reservedQuantity - r.quantity, version := item.version + 1 } := by
    simp only [giveBack, sub_zero]
  exact ⟨by rw [hitem]; rfl, rfl, rfl, rfl⟩

theorem commitUnits_writes {orderReference : Option String} {refType refId : String}
    (h : commitUnits s r item principal orderReference refType refId = .ok s') :
    s'.items = s.items.put (giveBack item r r.quantity) ∧
      s'.reservations = s.reservations.put (commitAs orderReference r) ∧
      s'.idempotency = s.idempotency ∧ s'.drawn = s.drawn := by
  simp only [commitUnits, Store.movement, bind_eq_ok, Store.putItem_eq_ok,
    Store.addMovement_eq_ok, pure_eq_ok] at h
  obtain ⟨_, ⟨-, rfl⟩, _, ⟨-, rfl⟩, rfl⟩ := h
  exact ⟨rfl, rfl, rfl, rfl⟩

/-- A movement of no more units than the item has had is written down. -/
theorem movement_written (s : Store) (hitem : item.Storable) (principal : Principal)
    (t : MovementType) (reason : MovementReason) (dOnHand dReserved : Int)
    (hOnHand : -2 ^ 31 ≤ dOnHand ∧ dOnHand < 2 ^ 31)
    (hReserved : -2 ^ 31 ≤ dReserved ∧ dReserved < 2 ^ 31) (hmoves : dOnHand ≠ 0 ∨ dReserved ≠ 0)
    (refType refId note : Option String) :
    ∃ s', s.movement item principal t reason dOnHand dReserved refType refId note = .ok s' := by
  obtain ⟨hfits, honHand, hreserved, hcovered, -⟩ := hitem
  have hresulting : -2 ^ 31 ≤ item.onHandQuantity ∧ -2 ^ 31 ≤ item.reservedQuantity ∧
      item.reservedQuantity < 2 ^ 31 := by omega
  exact ⟨_, Store.addMovement_eq_ok.mpr ⟨⟨hOnHand, hReserved, ⟨hresulting.1, hfits⟩,
    hresulting.2, hmoves⟩, rfl⟩⟩

/-- The units of an active reservation fit the column of a movement. -/
theorem quantity_fits (h : Inv s) (ho : Open s r)
    (hget : s.items.get? r.inventoryItemId = some item) :
    0 < r.quantity ∧ r.quantity < 2 ^ 31 := by
  have hitem : item ∈ s.items := Table.mem_of_get? hget
  have hr : r ∈ s.reservations := Table.mem_of_get? ho.1
  have hle := h.le_reserved hitem hr ho.2 (Table.key_of_get? hget).symm
  have hcov := h.reserved_le hitem
  have hfits := h.fits item hitem
  exact ⟨h.positive r hr, by omega⟩

theorem resolveReservation_closes (h : Inv s) (ho : Open s r)
    (hget : s.items.get? r.inventoryItemId = some item) (principal : Principal)
    {target : ReservationStatus} (ht : target ≠ .active) (reason : MovementReason)
    (note : Option String) :
    ∃ s', resolveReservation s r item principal target reason note = .ok s' ∧
      ClosedAll (closeAs target) [r] s s' := by
  have hmem : r ∈ s.reservations := Table.mem_of_get? ho.1
  have hkey : r.inventoryItemId = item.id := (Table.key_of_get? hget).symm
  obtain ⟨hpos, hfits⟩ := quantity_fits h ho hget
  have hchk : InventoryItem.Storable { item with
      reservedQuantity := item.reservedQuantity - r.quantity, version := item.version + 1 } :=
    h.storable_close (Table.mem_of_get? hget) hmem ho.2 hkey (Or.inl rfl) (sub_zero _).symm rfl rfl
  obtain ⟨s', hrun⟩ :
      ∃ s', resolveReservation s r item principal target reason note = .ok s' := by
    obtain ⟨t, ht⟩ := movement_written _ hchk principal .release reason
      0 (-r.quantity) (by omega) (by omega) (Or.inr (by omega))
      (some "reservation") (some (UUID.str r.id)) note
    exact ⟨_, bind_eq_ok.mpr ⟨_, Store.putItem_eq_ok.mpr ⟨hchk, rfl⟩,
      bind_eq_ok.mpr ⟨t, ht, rfl⟩⟩⟩
  obtain ⟨hitems, hrs, hidem, hdrawn⟩ := resolveReservation_writes hrun
  exact ⟨s', hrun, closed_single h ho hget (closeAs_closes ht r) (Or.inl rfl) hitems hrs hidem
    hdrawn⟩

theorem commitUnits_closes (h : Inv s) (ho : Open s r)
    (hget : s.items.get? r.inventoryItemId = some item) (principal : Principal)
    (orderReference : Option String) (refType refId : String) :
    ∃ s', commitUnits s r item principal orderReference refType refId = .ok s' ∧
      ClosedAll (commitAs orderReference) [r] s s' := by
  have hmem : r ∈ s.reservations := Table.mem_of_get? ho.1
  have hkey : r.inventoryItemId = item.id := (Table.key_of_get? hget).symm
  obtain ⟨hpos, hfits⟩ := quantity_fits h ho hget
  have hchk : InventoryItem.Storable { item with
      reservedQuantity := item.reservedQuantity - r.quantity
      onHandQuantity := item.onHandQuantity - r.quantity, version := item.version + 1 } :=
    h.storable_close (Table.mem_of_get? hget) hmem ho.2 hkey (Or.inr rfl) rfl rfl rfl
  obtain ⟨s', hrun⟩ :
      ∃ s', commitUnits s r item principal orderReference refType refId = .ok s' := by
    obtain ⟨t, ht⟩ := movement_written _ hchk principal .commitment .customerOrder
      (-r.quantity) (-r.quantity) (by omega) (by omega) (Or.inl (by omega))
      (some refType) (some refId) none
    exact ⟨_, bind_eq_ok.mpr ⟨_, Store.putItem_eq_ok.mpr ⟨hchk, rfl⟩,
      bind_eq_ok.mpr ⟨t, ht, rfl⟩⟩⟩
  obtain ⟨hitems, hrs, hidem, hdrawn⟩ := commitUnits_writes hrun
  exact ⟨s', hrun, closed_single h ho hget (commitAs_closes orderReference r) (Or.inr rfl) hitems
    hrs hidem hdrawn⟩

/-! ### The members of a group, one after the other -/

theorem expireMember_closes (h : Inv s) (ho : Open s r) (principal : Principal) :
    ∃ s', expireMember principal s r = .ok s' ∧ ClosedAll (closeAs .expired) [r] s s' := by
  obtain ⟨item, hget⟩ := h.item_of (Table.mem_of_get? ho.1)
  rw [expireMember, hget]
  exact resolveReservation_closes h ho hget principal
    (show ReservationStatus.expired ≠ .active by decide) .reservationExpired none

theorem releaseMember_closes (h : Inv s) (ho : Open s r) (principal : Principal)
    (reason : MovementReason) (note : Option String) :
    ∃ s', releaseMember principal reason note s r = .ok s' ∧
      ClosedAll (closeAs .released) [r] s s' := by
  obtain ⟨item, hget⟩ := h.item_of (Table.mem_of_get? ho.1)
  rw [releaseMember, hget]
  exact resolveReservation_closes h ho hget principal
    (show ReservationStatus.released ≠ .active by decide) reason note

theorem commitMember_closes (h : Inv s) (ho : Open s r) (principal : Principal) (g : UUID) :
    ∃ s', commitMember principal g s r = .ok s' ∧ ClosedAll (closeAs .committed) [r] s s' := by
  obtain ⟨item, hget⟩ := h.item_of (Table.mem_of_get? ho.1)
  rw [commitMember, hget]
  obtain ⟨s', hrun, hc⟩ := commitUnits_closes h ho hget principal r.orderReference
    "reservation_group" (UUID.str g)
  refine ⟨s', hrun, hc.congr fun x hx => ?_⟩
  rw [List.mem_singleton.mp hx]
  rfl

/-- A loop whose body closes one reservation closes them all. -/
theorem foldlM_closes {close : InventoryReservation → InventoryReservation}
    {body : Store → InventoryReservation → Except Failure Store}
    (hbody : ∀ s r, Inv s → Open s r → ∃ s', body s r = .ok s' ∧ ClosedAll close [r] s s') :
    ∀ {l : List InventoryReservation} {s : Store}, Inv s →
      (l.map InventoryReservation.id).Nodup → (∀ r ∈ l, Open s r) →
      ∃ s', l.foldlM body s = .ok s' ∧ ClosedAll close l s s' := by
  intro l
  induction l with
  | nil =>
    intro s h _ _
    exact ⟨s, rfl, .nil h⟩
  | cons r rest ih =>
    intro s h hnodup hopen
    obtain ⟨t, ht, hclosed⟩ := hbody s r h (hopen r List.mem_cons_self)
    rw [List.map_cons, List.nodup_cons] at hnodup
    have hne : ∀ x ∈ rest, x.id ≠ r.id := fun x hx e =>
      hnodup.1 (e ▸ List.mem_map_of_mem hx)
    have hopen' : ∀ x ∈ rest, Open t x := by
      intro x hx
      refine hclosed.open_other ?_ (hopen x (List.mem_cons_of_mem r hx))
      intro y hy
      rw [List.mem_singleton.mp hy]
      exact (hne x hx).symm
    obtain ⟨s', hs', hrest⟩ := ih hclosed.refines.2 hnodup.2 hopen'
    exact ⟨s', by rw [List.foldlM_cons, ht]; exact hs', .cons hne hclosed hrest⟩

/-- The sweep never skips a row: its savepoints never roll back. -/
theorem foldl_sweep_closes (principal : Principal) :
    ∀ (l : List InventoryReservation) {s : Store} (n : Nat), Inv s →
      (l.map InventoryReservation.id).Nodup → (∀ r ∈ l, Open s r) →
      ∃ s', l.foldl (sweepReservation principal) (s, n) = (s', n + l.length) ∧
        ClosedAll (closeAs .expired) l s s' := by
  intro l
  induction l with
  | nil =>
    intro s n h _ _
    exact ⟨s, rfl, .nil h⟩
  | cons r rest ih =>
    intro s n h hnodup hopen
    have ho := hopen r List.mem_cons_self
    obtain ⟨item, hget⟩ := h.item_of (Table.mem_of_get? ho.1)
    obtain ⟨t, ht, hclosed⟩ := resolveReservation_closes h ho hget principal
      (show ReservationStatus.expired ≠ .active by decide) .reservationExpired none
    rw [List.map_cons, List.nodup_cons] at hnodup
    have hne : ∀ x ∈ rest, x.id ≠ r.id := fun x hx e =>
      hnodup.1 (e ▸ List.mem_map_of_mem hx)
    have hopen' : ∀ x ∈ rest, Open t x := by
      intro x hx
      refine hclosed.open_other ?_ (hopen x (List.mem_cons_of_mem r hx))
      intro y hy
      rw [List.mem_singleton.mp hy]
      exact (hne x hx).symm
    obtain ⟨s', hs', hrest⟩ := ih (n + 1) hclosed.refines.2 hnodup.2 hopen'
    refine ⟨s', ?_, .cons hne hclosed hrest⟩
    have hone : sweepReservation principal (s, n) r = (t, n + 1) := by
      simp only [sweepReservation, hget, ht]
    rw [List.foldl_cons, hone, hs', List.length_cons, Nat.add_right_comm, Nat.add_assoc]

end Closing
end Inventory
end Marketplace
