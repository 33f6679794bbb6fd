import Marketplace.Inventory.Lifecycle

/-!
# Inventory: what a batch reserves

A batch is made if and only if its expiry lies inside the window and the active
items of each line's seller and SKU have its quantity to spare between them.
Then it holds back exactly these quantities, taken from the items one after the
other, and nothing of any other seller or SKU.

The loops are followed through one equation: after any part of a batch, the rows
of the items are the rows there were with the units of the reservations made so
far held back.
-/

namespace Marketplace
namespace Inventory

open Base

/-! ## Units held back -/

def InventoryItem.pair (item : InventoryItem) : UUID × String := (item.sellerId, item.sku)

/-- What the reservations hold of one item. -/
abbrev unitsOf (rs : List InventoryReservation) (itemId : UUID) : Int :=
  total InventoryReservation.inventoryItemId InventoryReservation.quantity rs itemId

/-- The item with the units of the reservations held back. -/
def InventoryItem.heldFor (rs : List InventoryReservation) (item : InventoryItem) : InventoryItem :=
  { item with
    reservedQuantity := item.reservedQuantity + unitsOf rs item.id
    version := item.version + rs.countP fun r => r.inventoryItemId = item.id }

/-- The active items of a seller and SKU. -/
def Store.offered (s : Store) (pair : UUID × String) : List InventoryItem :=
  s.items.rows.filter fun i => i.pair = pair ∧ i.isActive

/-- The units of it that are free. -/
def Store.available (s : Store) (pair : UUID × String) : Int :=
  ((s.offered pair).map InventoryItem.availableQuantity).sum

/-- The units that are free of the items named. -/
def Store.availableOf (s : Store) (ids : List UUID) : Int :=
  ((ids.filterMap s.items.get?).map InventoryItem.availableQuantity).sum

section HeldFor

variable {rs rs' : List InventoryReservation} {item : InventoryItem} {s s' : Store}

@[simp] theorem heldFor_id : (item.heldFor rs).id = item.id := rfl

@[simp] theorem heldFor_pair : (item.heldFor rs).pair = item.pair := rfl

@[simp] theorem heldFor_isActive : (item.heldFor rs).isActive = item.isActive := rfl

theorem heldFor_available :
    (item.heldFor rs).availableQuantity = item.availableQuantity - unitsOf rs item.id := by
  simp only [InventoryItem.availableQuantity, InventoryItem.heldFor]
  omega

theorem heldFor_append : (item.heldFor rs).heldFor rs' = item.heldFor (rs ++ rs') := by
  simp only [InventoryItem.heldFor, unitsOf, total_append, List.countP_append, add_assoc]
  rfl

theorem heldFor_other (h : ∀ r ∈ rs, r.inventoryItemId ≠ item.id) : item.heldFor rs = item := by
  have hcount : (rs.countP fun r => r.inventoryItemId = item.id) = 0 :=
    List.countP_eq_zero.mpr fun r hr => by simpa using h r hr
  simp only [InventoryItem.heldFor, unitsOf, total_eq_zero h, hcount, add_zero]

theorem heldFor_single {r : InventoryReservation} (h : r.inventoryItemId = item.id) :
    item.heldFor [r] = item.holdBack r.quantity := by
  simp only [InventoryItem.heldFor, InventoryItem.holdBack, unitsOf, total_singleton, if_pos h,
    List.countP_singleton, decide_eq_true h, if_true]

/-- The items with the units of `rs` held back. -/
def Store.Holds (rs : List InventoryReservation) (s s' : Store) : Prop :=
  s'.items.rows = s.items.rows.map (InventoryItem.heldFor rs)

theorem Store.Holds.nil (h : s'.items = s.items) : Store.Holds [] s s' := by
  have hid : InventoryItem.heldFor [] = id := funext fun item => heldFor_other (by simp)
  rw [Store.Holds, h, hid, List.map_id]

theorem Store.Holds.append {t : Store} (h : Store.Holds rs s t) (h' : Store.Holds rs' t s') :
    Store.Holds (rs ++ rs') s s' := by
  rw [Store.Holds, h', h, List.map_map]
  exact List.map_congr_left fun item _ => heldFor_append

/-- One item holds the units of one reservation back. -/
theorem Store.Holds.single {r : InventoryReservation} (hitem : item ∈ s.items)
    (hid : r.inventoryItemId = item.id)
    (hitems : s'.items = s.items.put (item.holdBack r.quantity)) : Store.Holds [r] s s' := by
  rw [Store.Holds, hitems]
  refine List.map_congr_left fun x hx => ?_
  by_cases hk : x.id = item.id
  · rw [if_pos (show x.id = (item.holdBack r.quantity).id from hk),
      Table.eq_of_key_eq hx hitem hk, heldFor_single hid]
  · rw [if_neg (show ¬x.id = (item.holdBack r.quantity).id from hk)]
    refine (heldFor_other fun y hy e => hk ?_).symm
    rw [List.mem_singleton.mp hy] at e
    exact e.symm.trans hid

theorem Store.Holds.get? (h : Store.Holds rs s s') (id : UUID) :
    s'.items.get? id = (s.items.get? id).map (InventoryItem.heldFor rs) := by
  rw [Table.get?, h, List.find?_map, Table.get?]
  rfl

theorem Store.Holds.availableOf (h : Store.Holds rs s s') {ids : List UUID}
    (hother : ∀ r ∈ rs, r.inventoryItemId ∉ ids) : s'.availableOf ids = s.availableOf ids := by
  have hget : ∀ id ∈ ids, s'.items.get? id = s.items.get? id := by
    intro id hid
    rw [h.get?]
    cases hrow : s.items.get? id with
    | none => rfl
    | some item =>
      have hkey : item.id = id := Table.key_of_get? hrow
      rw [Option.map_some, heldFor_other fun r hr e => hother r hr (e.trans hkey ▸ hid)]
  rw [Store.availableOf, Store.availableOf, List.filterMap_congr hget]

theorem Store.Holds.offered (h : Store.Holds rs s s') (pair : UUID × String) :
    s'.offered pair = (s.offered pair).map (InventoryItem.heldFor rs) := by
  rw [Store.offered, h, List.filter_map, Store.offered]
  rfl

theorem Store.Holds.ids (h : Store.Holds rs s s') (pair : UUID × String) :
    (s'.offered pair).map InventoryItem.id = (s.offered pair).map InventoryItem.id := by
  rw [h.offered, List.map_map]
  rfl

theorem nodup_offered (s : Store) (pair : UUID × String) :
    ((s.offered pair).map InventoryItem.id).Nodup :=
  s.items.nodup.sublist (List.filter_sublist.map _)

/-- A seller's SKU loses what the reservations hold of its items. -/
theorem Store.Holds.available (h : Store.Holds rs s s') (pair : UUID × String) :
    s'.available pair = s.available pair -
      ((rs.filter fun r => r.inventoryItemId ∈ (s.offered pair).map InventoryItem.id).map
        InventoryReservation.quantity).sum := by
  rw [← sum_total (nodup_offered s pair), Store.available, h.offered, Store.available]
  induction s.offered pair with
  | nil => rfl
  | cons item rest ih =>
    simp only [List.map_cons, List.sum_cons, ih, heldFor_available, unitsOf]
    omega

/-- The free units of a seller's SKU, read off its items one by one. -/
theorem available_eq (s : Store) (pair : UUID × String) :
    s.available pair = s.availableOf ((s.offered pair).map InventoryItem.id) := by
  have hread : (((s.offered pair).map InventoryItem.id).filterMap s.items.get?) = s.offered pair := by
    rw [List.filterMap_map]
    refine (List.filterMap_congr fun item hitem => ?_).trans List.filterMap_some
    exact Table.get?_key (List.mem_of_mem_filter hitem)
  rw [Store.availableOf, hread, Store.available]

theorem availableOf_perm (s : Store) {ids ids' : List UUID} (h : ids.Perm ids') :
    s.availableOf ids = s.availableOf ids' :=
  ((h.filterMap _).map _).sum_eq

end HeldFor

/-! ## Identifiers of reservations -/

/-- The identifiers of the reservations come from the supply. -/
def Drawn (env : Env) (s : Store) : Prop :=
  ∀ r ∈ s.reservations, env.uuid4.Issued s.drawn r.id

section Drawn

variable {env : Env} {s s' : Store}

theorem Drawn.empty (env : Env) : Drawn env Store.empty :=
  fun _ h => absurd h (Table.not_mem_empty _)

theorem Drawn.of_same (h : Drawn env s) (hrs : s'.reservations = s.reservations)
    (hdrawn : s.drawn ≤ s'.drawn) : Drawn env s' := fun r hr => (h r (hrs ▸ hr)).mono hdrawn

/-- The next identifier is not taken. -/
theorem Drawn.insert (h : Drawn env s) {r : InventoryReservation}
    (hid : r.id = env.uuid4.value s.drawn) : ∃ rs, s.reservations.insert? r = some rs :=
  Table.insert?_isSome fun x hx e => Supply.not_issued le_rfl (hid ▸ e ▸ h x hx)

theorem Drawn.added (h : Drawn env s) {r : InventoryReservation} {rs : Reservations}
    (hid : r.id = env.uuid4.value s.drawn) (hins : s.reservations.insert? r = some rs)
    (hrs : s'.reservations = rs) (hdrawn : s'.drawn = s.drawn + 1) : Drawn env s' := by
  intro x hx
  rw [hrs, Table.mem_insert? hins] at hx
  rw [hdrawn]
  rcases hx with hx | rfl
  · exact (h x hx).mono (Nat.le_succ _)
  · rw [hid]
    exact Supply.issued_succ

theorem Drawn.closed (h : Drawn env s) {close : InventoryReservation → InventoryReservation}
    {l : List InventoryReservation} (hc : ClosedAll close l s s') : Drawn env s' := by
  intro x hx
  rw [hc.drawn]
  rcases hc.mem hx with ⟨r, hr, rfl⟩ | ⟨hx, -⟩
  · rw [(hc.closes r hr).id]
    exact h r (Table.mem_of_get? (hc.opened r hr).1)
  · exact h x hx

end Drawn

/-! ## One line -/

/-- The reservations of `l` hold `units` units of the items `ids` and nothing
else, and the items hold them back. -/
structure Fills (env : Env) (ids : List UUID) (units : Int) (l : List InventoryReservation)
    (s s' : Store) : Prop where
  holds : Store.Holds l s s'
  units : (l.map InventoryReservation.quantity).sum = units
  within : ∀ r ∈ l, r.inventoryItemId ∈ ids
  positive : ∀ r ∈ l, 0 < r.quantity
  inv : Inv s'
  drawn : Drawn env s'

section Fill

variable {env : Env} {s t s' : Store} {terms : BatchTerms}

theorem Fills.nil (h : Inv s) (hd : Drawn env s) (ids : List UUID) : Fills env ids 0 [] s s where
  holds := .nil rfl
  units := rfl
  within _ hr := absurd hr List.not_mem_nil
  positive _ hr := absurd hr List.not_mem_nil
  inv := h
  drawn := hd

theorem Fills.cons {r : InventoryReservation} {l : List InventoryReservation} {id : UUID}
    {ids : List UUID} {units : Int} (hholds : Store.Holds [r] s t) (hid : r.inventoryItemId = id)
    (hq : 0 < r.quantity) (h : Fills env ids units l t s') :
    Fills env (id :: ids) (r.quantity + units) (r :: l) s s' where
  holds := hholds.append h.holds
  units := by rw [List.map_cons, List.sum_cons, h.units]
  within x hx := by
    rcases List.mem_cons.mp hx with rfl | hx
    · exact hid ▸ List.mem_cons_self
    · exact List.mem_cons_of_mem id (h.within x hx)
  positive x hx := by
    rcases List.mem_cons.mp hx with rfl | hx
    · exact hq
    · exact h.positive x hx
  inv := h.inv
  drawn := h.drawn

theorem Fills.skip {l : List InventoryReservation} {id : UUID} {ids : List UUID} {units : Int}
    (h : Fills env ids units l s s') : Fills env (id :: ids) units l s s' :=
  { h with within := fun r hr => List.mem_cons_of_mem id (h.within r hr) }

theorem available_nonneg (h : Inv s) {item : InventoryItem} (hitem : item ∈ s.items) :
    0 ≤ item.availableQuantity := sub_nonneg.mpr (h.reserved_le hitem)

theorem availableOf_nonneg (h : Inv s) (ids : List UUID) : 0 ≤ s.availableOf ids := by
  refine List.sum_nonneg fun n hn => ?_
  obtain ⟨item, hitem, rfl⟩ := List.mem_map.mp hn
  obtain ⟨id, -, hget⟩ := List.mem_filterMap.mp hitem
  exact available_nonneg h (Table.mem_of_get? hget)

/-- An item that holds back free units can be stored. -/
theorem storable_holdBack (h : Inv s) {item : InventoryItem} (hitem : item ∈ s.items) {n : Int}
    (hn : 0 ≤ n) (hle : n ≤ item.availableQuantity) : (item.holdBack n).Storable := by
  have hnonneg := h.reserved_nonneg hitem
  have hcovered := h.reserved_le hitem
  simp only [InventoryItem.availableQuantity] at hle
  simp only [InventoryItem.Storable, InventoryItem.Checks, InventoryItem.holdBack]
  exact ⟨h.fits item hitem, by omega, by omega, by omega, h.threshold item hitem⟩

theorem availableOf_cons (s : Store) (id : UUID) (ids : List UUID) :
    s.availableOf (id :: ids) = (((s.items.get? id).map InventoryItem.availableQuantity).getD 0) +
      s.availableOf ids := by
  simp only [Store.availableOf, List.filterMap_cons]
  cases s.items.get? id with
  | none => exact (zero_add _).symm
  | some item => rfl

/-- Items that have the units to spare between them give exactly these. -/
theorem takeFromItems_fills :
    ∀ {ids : List UUID} {remaining : Int} {s : Store} (taken : List InventoryReservation),
      Inv s → Drawn env s → ids.Nodup → 0 ≤ remaining → remaining ≤ s.availableOf ids →
        ∃ s' l, takeFromItems env terms ids remaining (s, taken) = .ok (s', taken ++ l) ∧
          Fills env ids remaining l s s' := by
  intro ids
  induction ids with
  | nil =>
    intro remaining s taken h hd _ hnonneg hle
    have hzero : remaining = 0 := le_antisymm hle hnonneg
    exact ⟨s, [], by rw [List.append_nil]; rfl, hzero ▸ .nil h hd []⟩
  | cons id rest ih =>
    intro remaining s taken h hd hnodup hnonneg hle
    rw [List.nodup_cons] at hnodup
    rw [availableOf_cons] at hle
    simp only [takeFromItems]
    by_cases hdone : remaining ≤ 0
    · have hzero : remaining = 0 := le_antisymm hdone hnonneg
      exact ⟨s, [], by rw [if_pos hdone, List.append_nil], hzero ▸ .nil h hd _⟩
    rw [if_neg hdone]
    cases hget : s.items.get? id with
    | none =>
      rw [hget] at hle
      obtain ⟨s', l, hrun, hfill⟩ := ih taken h hd hnodup.2 hnonneg (by simpa using hle)
      exact ⟨s', l, hrun, hfill.skip⟩
    | some item =>
      have hitem : item ∈ s.items := Table.mem_of_get? hget
      have hkey : item.id = id := Table.key_of_get? hget
      have havailable := available_nonneg h hitem
      rw [hget, Option.map_some, Option.getD_some] at hle
      simp only
      by_cases hnone : min item.availableQuantity remaining ≤ 0
      · rw [if_pos hnone]
        obtain ⟨s', l, hrun, hfill⟩ := ih taken h hd hnodup.2 hnonneg (by omega)
        exact ⟨s', l, hrun, hfill.skip⟩
      rw [if_neg hnone]
      set take := min item.availableQuantity remaining with htake
      have hchk : (item.holdBack take).Storable := storable_holdBack h hitem (by omega) (by omega)
      set r := terms.reservation (env.uuid4.value s.drawn) item.id take with hr
      obtain ⟨rs, hins⟩ := hd.insert (r := r) rfl
      set t : Store := { s with
        items := s.items.put (item.holdBack take), reservations := rs, drawn := s.drawn + 1 }
        with ht
      have hholds : Store.Holds [r] s t := .single hitem rfl rfl
      have hadded : Added [r] s t :=
        added_single h (hkey ▸ hget) hchk (show 0 < r.quantity by rw [hr]; exact not_le.mp hnone)
          hins rfl rfl rfl rfl rfl (Nat.le_succ s.drawn)
      have hrest : remaining - take ≤ t.availableOf rest := by
        have hrestnonneg := availableOf_nonneg h rest
        rw [hholds.availableOf fun x hx => by
          rw [List.mem_singleton.mp hx, show r.inventoryItemId = id from hkey]
          exact hnodup.1]
        omega
      obtain ⟨s', l, hrun, hfill⟩ := ih (taken ++ [r]) hadded.refines.2
        (hd.added rfl hins rfl rfl) hnodup.2 (by omega) hrest
      refine ⟨s', r :: l, ?_, ?_⟩
      · have hq : 0 < r.quantity := not_le.mp hnone
        rw [List.append_assoc] at hrun
        refine bind_eq_ok.mpr ⟨_, Store.putItem_eq_ok.mpr ⟨hchk, rfl⟩, ?_⟩
        exact bind_eq_ok.mpr ⟨t, Store.addReservation_eq_ok.mpr ⟨hq, rs, hins, rfl⟩, hrun⟩
      · have hsum : r.quantity + (remaining - take) = remaining := by
          show take + (remaining - take) = remaining
          omega
        rw [← hsum]
        exact .cons hholds hkey (not_le.mp hnone) hfill

end Fill

/-! ## All lines -/

theorem candidates_perm (s : Store) {pairs : List (UUID × String)} {pair : UUID × String}
    (h : pair ∈ pairs) :
    ((s.getItemsForReservation pairs).filter fun i => (i.sellerId, i.sku) = pair).Perm
      (s.offered pair) := by
  refine ((List.perm_insertionSort _ _).filter _).trans (.of_eq ?_)
  rw [List.filter_filter, Store.offered]
  refine List.filter_congr fun i _ => ?_
  by_cases hp : (i.sellerId, i.sku) = pair
  · simp [InventoryItem.pair, hp, h]
  · simp [InventoryItem.pair, hp]

/-- An item is offered under its own seller and SKU only. -/
theorem offered_apart (s : Store) {pair pair' : UUID × String} (hne : pair ≠ pair') {id : UUID}
    (hid : id ∈ (s.offered pair).map InventoryItem.id) :
    id ∉ (s.offered pair').map InventoryItem.id := by
  intro hid'
  obtain ⟨i, hi, rfl⟩ := List.mem_map.mp hid
  obtain ⟨j, hj, hji⟩ := List.mem_map.mp hid'
  simp only [Store.offered, List.mem_filter, decide_eq_true_eq] at hi hj
  obtain ⟨hi, hpair, -⟩ := hi
  obtain ⟨hj, hpair', -⟩ := hj
  rw [Table.eq_of_key_eq hj hi hji] at hpair'
  exact hne (hpair.symm.trans hpair')

/-- What the reservations hold of the items a seller's SKU was offered from. -/
def heldOf (s : Store) (rs : List InventoryReservation) (pair : UUID × String) : Int :=
  ((rs.filter fun r => r.inventoryItemId ∈ (s.offered pair).map InventoryItem.id).map
    InventoryReservation.quantity).sum

theorem heldOf_append (s : Store) (rs rs' : List InventoryReservation) (pair : UUID × String) :
    heldOf s (rs ++ rs') pair = heldOf s rs pair + heldOf s rs' pair := by
  simp only [heldOf, List.filter_append, List.map_append, List.sum_append]

theorem Fills.heldOf {env : Env} {before s s' : Store} {pair : UUID × String} {ids : List UUID}
    {units : Int} {l : List InventoryReservation} (h : Fills env ids units l s s')
    (hids : ids.Perm ((before.offered pair).map InventoryItem.id)) (pair' : UUID × String) :
    heldOf before l pair' = if pair = pair' then units else 0 := by
  have hwithin : ∀ r ∈ l, r.inventoryItemId ∈ (before.offered pair).map InventoryItem.id :=
    fun r hr => hids.mem_iff.mp (h.within r hr)
  rw [Inventory.heldOf]
  by_cases hp : pair = pair'
  · rw [if_pos hp, ← hp, List.filter_eq_self.mpr fun r hr => decide_eq_true (hwithin r hr), h.units]
  · rw [if_neg hp, List.filter_eq_nil_iff.mpr fun r hr hmem =>
      offered_apart before hp (hwithin r hr) (of_decide_eq_true hmem)]
    rfl

/-- The units the lines of a batch ask of a seller's SKU. -/
abbrev orderedOf (lines : List BatchReservationLine) (pair : UUID × String) : Int :=
  total BatchReservationLine.pair BatchReservationLine.quantity lines pair

/-- The reservations of `l` hold what the lines ask for, of the items of `before`. -/
structure FillsLines (env : Env) (before : Store) (lines : List BatchReservationLine)
    (l : List InventoryReservation) (s s' : Store) : Prop where
  holds : Store.Holds l s s'
  exact : ∀ pair, heldOf before l pair = orderedOf lines pair
  positive : ∀ r ∈ l, 0 < r.quantity
  stocked : ∀ r ∈ l, ∃ line ∈ lines,
    r.inventoryItemId ∈ (before.offered line.pair).map InventoryItem.id
  inv : Inv s'
  drawn : Drawn env s'

section Lines

variable {env : Env} {before s : Store} {terms : BatchTerms} {pairs : List (UUID × String)}
  {held : List InventoryReservation}

/-- A line is filled if and only if its seller's SKU had the units to spare
before the batch. -/
theorem reserveLine_cases (terms : BatchTerms) (h : Inv s) (hd : Drawn env s)
    (hholds : Store.Holds held before s) {line : BatchReservationLine} (hpair : line.pair ∈ pairs)
    (hapart : ∀ r ∈ held, r.inventoryItemId ∉ (before.offered line.pair).map InventoryItem.id)
    (taken : List InventoryReservation) :
    (line.quantity ≤ before.available line.pair ∧ ∃ ids s' l,
      ids.Perm ((before.offered line.pair).map InventoryItem.id) ∧
        reserveLine env terms (before.getItemsForReservation pairs) (s, taken) line =
          .ok (s', taken ++ l) ∧ Fills env ids line.quantity l s s') ∨
    (before.available line.pair < line.quantity ∧ ∃ e,
      reserveLine env terms (before.getItemsForReservation pairs) (s, taken) line = .error e ∧
        (e.statusCode = 422 ∨ e.statusCode = 409)) := by
  have hperm := candidates_perm before hpair
  have hq : 0 < line.quantity := line.quantity_valid.1
  simp only [reserveLine]
  set items := (before.getItemsForReservation pairs).filter
    fun i => (i.sellerId, i.sku) = line.pair with hitems
  have hids := hperm.map InventoryItem.id
  have havailable : ((items.filterMap fun i => s.items.get? i.id).map
      InventoryItem.availableQuantity).sum = before.available line.pair := by
    have hof : ((items.filterMap fun i => s.items.get? i.id).map
        InventoryItem.availableQuantity).sum = s.availableOf (items.map InventoryItem.id) := by
      rw [Store.availableOf, List.filterMap_map]
      rfl
    rw [hof, availableOf_perm s hids, hholds.availableOf hapart, ← available_eq]
  by_cases hnil : items = []
  · have hzero : before.available line.pair = 0 := by
      rw [← havailable, hnil]
      rfl
    rw [require_neg (not_not.mpr hnil), error_bind]
    exact Or.inr ⟨hzero ▸ hq, _, rfl, Or.inl rfl⟩
  rw [require_pos hnil, ok_bind, havailable]
  by_cases hle : line.quantity ≤ before.available line.pair
  · rw [require_pos hle, ok_bind]
    have hnodup : (items.map InventoryItem.id).Nodup :=
      hids.nodup_iff.mpr (nodup_offered before line.pair)
    have henough : line.quantity ≤ s.availableOf (items.map InventoryItem.id) := by
      rw [availableOf_perm s hids, hholds.availableOf hapart, ← available_eq]
      exact hle
    obtain ⟨s', l, hrun, hfill⟩ := takeFromItems_fills taken h hd hnodup hq.le henough
    exact Or.inl ⟨hle, _, s', l, hids, hrun, hfill⟩
  · rw [require_neg hle, error_bind]
    exact Or.inr ⟨not_le.mp hle, _, rfl, Or.inr rfl⟩

theorem reserveLines_cases :
    ∀ {lines : List BatchReservationLine} {s : Store} {held : List InventoryReservation}
      (taken : List InventoryReservation), Inv s → Drawn env s → Store.Holds held before s →
      (∀ line ∈ lines, line.pair ∈ pairs) → (lines.map BatchReservationLine.pair).Nodup →
      (∀ line ∈ lines, ∀ r ∈ held,
        r.inventoryItemId ∉ (before.offered line.pair).map InventoryItem.id) →
      ((∀ line ∈ lines, line.quantity ≤ before.available line.pair) ∧ ∃ s' l,
        lines.foldlM (reserveLine env terms (before.getItemsForReservation pairs)) (s, taken) =
          .ok (s', taken ++ l) ∧ FillsLines env before lines l s s') ∨
      ((∃ line ∈ lines, before.available line.pair < line.quantity) ∧ ∃ e,
        lines.foldlM (reserveLine env terms (before.getItemsForReservation pairs)) (s, taken) =
          .error e ∧ (e.statusCode = 422 ∨ e.statusCode = 409)) := by
  intro lines
  induction lines with
  | nil =>
    intro s held taken h hd _ _ _ _
    refine Or.inl ⟨fun _ hline => absurd hline List.not_mem_nil, s, [], ?_, ?_⟩
    · rw [List.append_nil]
      rfl
    · exact ⟨.nil rfl, fun _ => rfl, fun _ hr => absurd hr List.not_mem_nil,
        fun _ hr => absurd hr List.not_mem_nil, h, hd⟩
  | cons line rest ih =>
    intro s held taken h hd hholds hpairs hnodup hapart
    rw [List.map_cons, List.nodup_cons] at hnodup
    rw [List.foldlM_cons]
    have hline := List.mem_cons_self (a := line) (l := rest)
    rcases reserveLine_cases terms h hd hholds (hpairs line hline) (hapart line hline) taken with
      ⟨hle, ids, t, l, hids, hrun, hfill⟩ | ⟨hlt, e, hrun, he⟩
    · have hnext : ∀ line' ∈ rest, ∀ r ∈ held ++ l,
          r.inventoryItemId ∉ (before.offered line'.pair).map InventoryItem.id := by
        intro line' hline' r hr
        rcases List.mem_append.mp hr with hr | hr
        · exact hapart line' (List.mem_cons_of_mem line hline') r hr
        · refine offered_apart before ?_ (hids.mem_iff.mp (hfill.within r hr))
          exact fun e => hnodup.1 (e ▸ List.mem_map_of_mem hline')
      rw [hrun, ok_bind]
      rcases ih (taken ++ l) hfill.inv hfill.drawn (hholds.append hfill.holds)
          (fun line' hline' => hpairs line' (List.mem_cons_of_mem line hline')) hnodup.2 hnext with
        ⟨hall, s', l', hrun', hfills⟩ | ⟨⟨line', hline', hlt⟩, e, hrun', he⟩
      · refine Or.inl ⟨List.forall_mem_cons.mpr ⟨hle, hall⟩, s', l ++ l', ?_, ?_⟩
        · rw [hrun', List.append_assoc]
        · refine ⟨hfill.holds.append hfills.holds, fun pair => ?_, ?_, ?_, hfills.inv,
            hfills.drawn⟩
          · rw [heldOf_append, hfill.heldOf hids, hfills.exact, ← total_singleton, ← total_append]
            rfl
          · exact fun r hr => (List.mem_append.mp hr).elim (hfill.positive r) (hfills.positive r)
          · intro r hr
            rcases List.mem_append.mp hr with hr | hr
            · exact ⟨line, List.mem_cons_self, hids.mem_iff.mp (hfill.within r hr)⟩
            · obtain ⟨line', hline', hmem⟩ := hfills.stocked r hr
              exact ⟨line', List.mem_cons_of_mem line hline', hmem⟩
      · exact Or.inr ⟨⟨line', List.mem_cons_of_mem line hline', hlt⟩, e, hrun', he⟩
    · rw [hrun, error_bind]
      exact Or.inr ⟨⟨line, List.mem_cons_self, hlt⟩, e, rfl, he⟩

end Lines

/-! ## The whole batch -/

/-- The expiry asked for, or the default, lies ahead and inside the maximum. -/
def InWindow (env : Env) (now : DateTime) (asked : Option DateTime) : Prop :=
  now < asked.getD (now + minutes env.settings.defaultReservationMinutes) ∧
    asked.getD (now + minutes env.settings.defaultReservationMinutes) ≤
      now + minutes env.settings.maxReservationMinutes

/-- The key was used for this very batch, and its group is there. -/
def Replays (env : Env) (s : Store) (data : BatchReservationCreate) (key : Option String) : Prop :=
  ∃ k, givenKey key = some k ∧ ∃ rec ∈ s.idempotency, rec.key = (data.customerId, k) ∧
    rec.requestHash = env.requestHash (.createBatchReservation data) ∧
      ∃ g, rec.resourceId = some g ∧ ∃ r ∈ s.reservations, r.reservationGroupId = some g

/-- The key is not used, the expiry is inside the window, and the stock covers
every line. -/
def Fillable (env : Env) (now : DateTime) (s : Store) (data : BatchReservationCreate)
    (key : Option String) : Prop :=
  (∀ k, givenKey key = some k → ∀ rec ∈ s.idempotency, rec.key ≠ (data.customerId, k)) ∧
    InWindow env now data.expiresAt ∧ ∀ line ∈ data.lines, line.quantity ≤ s.available line.pair

/-- The reservations are the new group `g` of the customer, recorded under the
digest of the batch.  They hold what the lines ask for, and the items hold back
just that. -/
structure Filled (env : Env) (data : BatchReservationCreate) (s s' : Store) (g : UUID)
    (rs : List InventoryReservation) : Prop where
  fresh : Fresh env s s' g
  records : ∀ rec ∈ s'.idempotency, rec ∈ s.idempotency ∨ (rec.actorId = data.customerId ∧
    rec.requestHash = env.requestHash (.createBatchReservation data) ∧ rec.resourceId = some g)
  rows : s'.reservations.rows = s.reservations.rows ++ rs
  grouped : ∀ r ∈ rs, r.reservationGroupId = some g ∧ r.customerId = data.customerId ∧
    r.status = .active
  stocked : ∀ r ∈ rs, ∃ line ∈ data.lines,
    r.inventoryItemId ∈ (s.offered line.pair).map InventoryItem.id
  holds : Store.Holds rs s s'
  exact : ∀ pair, heldOf s rs pair = orderedOf data.lines pair
  available : ∀ pair, s'.available pair = s.available pair - orderedOf data.lines pair

section Batch

variable {env : Env} {now : DateTime} {s s' : Store} {principal : Principal} {key : Option String}
  {data : BatchReservationCreate}

theorem inWindow_iff {asked : Option DateTime} :
    InWindow env now asked ↔ ∃ e, reservationExpiry env now asked = .ok e := by
  constructor
  · rintro ⟨hfuture, hmax⟩
    simp only [reservationExpiry, require_pos hfuture, require_pos hmax, ok_bind]
    exact ⟨_, rfl⟩
  · rintro ⟨e, he⟩
    simp only [reservationExpiry, bind_eq_ok, require_eq_ok] at he
    obtain ⟨_, hfuture, _, hmax, -⟩ := he
    exact ⟨hfuture, hmax⟩

theorem reserveLines_batch (h : Inv s) (hd : Drawn env s) (data : BatchReservationCreate)
    (terms : BatchTerms) :
    ((∀ line ∈ data.lines, line.quantity ≤ s.available line.pair) ∧ ∃ t rs,
      data.lines.foldlM (reserveLine env terms
        (s.getItemsForReservation (data.lines.map BatchReservationLine.pair)))
        ({ s with drawn := s.drawn + 1 }, []) = .ok (t, rs) ∧
          FillsLines env s data.lines rs { s with drawn := s.drawn + 1 } t) ∨
    ((∃ line ∈ data.lines, s.available line.pair < line.quantity) ∧ ∃ e,
      data.lines.foldlM (reserveLine env terms
        (s.getItemsForReservation (data.lines.map BatchReservationLine.pair)))
        ({ s with drawn := s.drawn + 1 }, []) = .error e ∧
          (e.statusCode = 422 ∨ e.statusCode = 409)) :=
  reserveLines_cases [] h (hd.of_same rfl (Nat.le_succ s.drawn)) (.nil rfl)
    (fun _ hline => List.mem_map_of_mem hline) data.unique_lines
    (fun _ _ _ hr => absurd hr List.not_mem_nil)

/-- After the lines have been filled, what is left to do cannot fail on a key
that is not used. -/
theorem FillsLines.touched {lines : List BatchReservationLine} {rs : List InventoryReservation}
    {t : Store} (hinv : Inv s)
    (h : FillsLines env s lines rs { s with drawn := s.drawn + 1 } t) :
    ∀ id ∈ (rs.map InventoryReservation.inventoryItemId).eraseDups, ∃ old item,
      s.items.get? id = some old ∧ t.items.get? id = some item ∧
        old.Storable ∧ item.Storable ∧ item.reservedQuantity - old.reservedQuantity ≠ 0 := by
  intro id hid
  rw [List.mem_eraseDups] at hid
  obtain ⟨r, hr, rfl⟩ := List.mem_map.mp hid
  obtain ⟨line, -, hstocked⟩ := h.stocked r hr
  obtain ⟨old, hold, hkey⟩ := List.mem_map.mp hstocked
  have hget : s.items.get? r.inventoryItemId = some old :=
    hkey ▸ Table.get?_key (List.mem_of_mem_filter hold)
  have hget' : t.items.get? r.inventoryItemId = some (old.heldFor rs) := by
    rw [h.holds.get?]
    exact congrArg (Option.map (InventoryItem.heldFor rs)) hget
  refine ⟨old, old.heldFor rs, hget, hget', hinv.storable (Table.mem_of_get? hget),
    h.inv.storable (Table.mem_of_get? hget'), ?_⟩
  have hpos : 0 < unitsOf rs r.inventoryItemId := total_pos h.positive hr
  simp only [InventoryItem.heldFor, hkey]
  omega

theorem free_of_recordIdempotency {actorId resourceId : UUID} {hash resourceType : String}
    (hrun : s.recordIdempotency actorId key hash resourceType resourceId = .ok s') :
    ∀ k, givenKey key = some k → ∀ rec ∈ s.idempotency, rec.key ≠ (actorId, k) := by
  intro k hk
  simp only [Store.recordIdempotency, hk, Store.addIdempotencyRecord_eq_ok] at hrun
  obtain ⟨_, hins, -⟩ := hrun
  exact (Table.insert?_eq_some hins).1

/-- A recorded request leaves the records there were, and its own. -/
theorem recordIdempotency_mem {actorId resourceId : UUID} {hash resourceType : String}
    (hrun : s.recordIdempotency actorId key hash resourceType resourceId = .ok s')
    {rec : IdempotencyRecord} : rec ∈ s'.idempotency ↔ rec ∈ s.idempotency ∨
      ∃ k, givenKey key = some k ∧ rec = ⟨actorId, k, hash, resourceType, some resourceId⟩ := by
  unfold Store.recordIdempotency at hrun
  split at hrun
  next hnone =>
    cases hrun
    exact ⟨Or.inl, fun h => h.resolve_right fun ⟨k, hk, _⟩ => by rw [hnone] at hk; cases hk⟩
  next k hk =>
    rw [Store.addIdempotencyRecord_eq_ok] at hrun
    obtain ⟨idempotency, hins, rfl⟩ := hrun
    rw [Table.mem_insert? hins]
    refine or_congr_right ⟨fun h => ⟨k, hk, h⟩, fun ⟨k', hk', h⟩ => ?_⟩
    cases hk.symm.trans hk'
    exact h

theorem batch_of_replays (now : DateTime) (principal : Principal)
    (hr : Replays env s data key) :
    ∃ g rs, createBatchReservation env now s data principal key = .ok (s, g, rs) := by
  obtain ⟨k, hk, rec, hrec, hkey, hhash, g, hg, r, hmem, hgroup⟩ := hr
  have hlook : s.idempotencyLookup data.customerId key
      (env.requestHash (.createBatchReservation data)) = .ok (some rec) := by
    simp only [Store.idempotencyLookup, hk, hkey ▸ Table.get?_key hrec, require_pos hhash, ok_bind]
    rfl
  have hin : r ∈ s.listReservationsByGroup g := Store.mem_listReservationsByGroup.mpr ⟨hmem, hgroup⟩
  simp only [createBatchReservation, hlook, ok_bind, Option.bind_some, hg, Option.map_some]
  cases hl : s.listReservationsByGroup g with
  | nil =>
    rw [hl] at hin
    cases hin
  | cons x xs => exact ⟨g, x :: xs, rfl⟩

theorem idempotencyLookup_hash {actorId : UUID} {hash : String} {rec : IdempotencyRecord}
    (h : s.idempotencyLookup actorId key hash = .ok (some rec)) :
    ∃ k, givenKey key = some k ∧ rec ∈ s.idempotency ∧ rec.key = (actorId, k) ∧
      rec.requestHash = hash := by
  unfold Store.idempotencyLookup at h
  split at h
  · cases h
  next k hk =>
  split at h
  · cases h
  next existing hget =>
    simp only [bind_eq_ok, require_eq_ok, pure_eq_ok, Option.some.injEq] at h
    obtain ⟨_, hhash, rfl⟩ := h
    exact ⟨k, hk, Table.mem_of_get? hget, Table.key_of_get? hget, hhash⟩

/-- A batch that does not fail is a replay, or it fills its lines. -/
theorem batch_ok (h : Inv s) (hd : Drawn env s) {g : UUID} {rs : List InventoryReservation}
    (hrun : createBatchReservation env now s data principal key = .ok (s', g, rs)) :
    (Replays env s data key ∧ s' = s) ∨
      (Fillable env now s data key ∧ Filled env data s s' g rs ∧ Drawn env s') := by
  simp only [createBatchReservation, bind_eq_ok] at hrun
  obtain ⟨existing, hlook, hrun⟩ := hrun
  split at hrun
  next _ r rest hre =>
    simp only [pure_eq_ok, Prod.mk.injEq] at hrun
    obtain ⟨gid, hres, hpair⟩ := Option.map_eq_some_iff.mp hre
    obtain ⟨rec, rfl, hid⟩ := Option.bind_eq_some_iff.mp hres
    obtain ⟨rfl, hlist⟩ := Prod.mk.inj hpair
    obtain ⟨k, hk, hmem, hkey, hhash⟩ := idempotencyLookup_hash hlook
    have hr : r ∈ s.listReservationsByGroup gid := hlist ▸ List.mem_cons_self
    exact Or.inl ⟨⟨k, hk, rec, hmem, hkey, hhash, gid, hid, r,
      Store.mem_listReservationsByGroup.mp hr⟩, hrun.1.symm⟩
  next =>
    simp only [Store.draw, bind_eq_ok, pure_eq_ok, Prod.mk.injEq] at hrun
    obtain ⟨e, he, ⟨t, made⟩, hlines, t', ht', u, hu, rfl, rfl, rfl⟩ := hrun
    have hdrew : Inv { s with drawn := s.drawn + 1 } := h
    obtain ⟨_, rfl, hadded, hmeets⟩ := reserveLines_added hdrew hlines
    have hloop : Store.SameTables t (made.foldl recordCreated t') :=
      (foldlM_keeps (fun _ x => Store.SameTables t x)
        (fun _ _ _ _ hx hrun => hx.trans (recordTouched_same hrun)) (.refl t) ht').trans
        (foldl_recordCreated_same _ _)
    have hrec := Store.recordIdempotency_recorded hu
    have hfree := free_of_recordIdempotency hu
    rw [hloop.idempotency, hadded.idempotency] at hfree
    rcases reserveLines_batch h hd data _ with ⟨hall, t₁, rs, hrun, hfills⟩ | ⟨-, _, hrun, -⟩
    · cases hlines.symm.trans hrun
      have hitems : u.items = t.items := hrec.items.trans hloop.items
      have hrows : u.reservations = t.reservations := hrec.reservations.trans hloop.reservations
      refine Or.inr ⟨⟨hfree, inWindow_iff.mpr ⟨e, he⟩, hall⟩,
        ⟨⟨s.drawn, le_rfl, ?_, rfl⟩, fun rec hmem => ?_, ?_, fun r hr => ?_, hfills.stocked, ?_,
          hfills.exact, fun pair => ?_⟩, ?_⟩
      · rw [hrec.drawn, hloop.drawn]
        exact hadded.drawn
      · rw [recordIdempotency_mem hu, hloop.idempotency, hadded.idempotency] at hmem
        refine hmem.imp_right ?_
        rintro ⟨k, -, rfl⟩
        exact ⟨rfl, rfl, rfl⟩
      · rw [hrows]
        exact hadded.rows
      · exact ⟨(hmeets r hr).2.1, (hmeets r hr).1, hadded.active r hr⟩
      · rw [Store.Holds, hitems]
        exact hfills.holds
      · rw [Store.available, Store.offered, hitems, ← hfills.exact]
        exact hfills.holds.available pair
      · exact hfills.drawn.of_same hrows (hrec.drawn.trans hloop.drawn).ge
    · cases hlines.symm.trans hrun

end Batch

/-! ## In every run -/

section Run

variable {env : Env} {now : DateTime} {s s' : Store}

theorem createReservation_drawn (h : Inv s) (hd : Drawn env s) {data : ReservationCreate}
    {principal : Principal} {key : Option String} {r : InventoryReservation}
    (hrun : createReservation env now s data principal key = .ok (s', r)) : Drawn env s' := by
  have hle := (createReservation_effect h hrun).1.drawn
  simp only [createReservation, bind_eq_ok] at hrun
  obtain ⟨_, -, hrun⟩ := hrun
  split at hrun
  · simp only [pure_eq_ok, Prod.mk.injEq] at hrun
    exact hrun.1 ▸ hd
  simp only [Store.draw, bind_eq_ok, orRaise_eq_ok, Store.putItem_eq_ok,
    Store.addReservation_eq_ok, pure_eq_ok, Prod.mk.injEq] at hrun
  obtain ⟨item, -, _, -, _, -, e, -, _, ⟨-, rfl⟩, t, ⟨-, rs, hins, ht⟩, u, hu, v, hv, rfl, -⟩ := hrun
  have hadded : Drawn env t := hd.added (r := data.reservation (env.uuid4.value s.drawn) item.id
    principal.subject e) rfl hins (ht ▸ rfl) (ht ▸ rfl)
  have hrec := (Store.recordIdempotency_recorded hv).of_same ((Store.movement_same hu).trans
    ((Store.event_same _ _ _).trans (Store.addLowStockEventIfNeeded_same _)))
  exact hadded.of_same hrec.reservations hrec.drawn.ge

theorem execute_drawn (h : Sane env s) (hd : Drawn env s) {req : Request}
    (hrun : execute env now s req = .ok s') : Drawn env s' := by
  have he : step env s (now, req) = s' := step_of_ok hrun
  have hdrawn : s.drawn ≤ s'.drawn := he ▸ (step_effect h.inv (now, req)).drawn
  have hsame : req.StockKeeping → Drawn env s' := fun hkeep =>
    hd.of_same (execute_stockKeeping h.inv hkeep hrun) hdrawn
  cases req with
  | createWarehouse _ => exact hsame trivial
  | updateWarehouse _ _ _ => exact hsame trivial
  | syncCatalogSku _ => exact hsame trivial
  | createItem _ _ _ => exact hsame trivial
  | updateItem _ _ _ _ => exact hsame trivial
  | adjustStock _ _ _ _ _ => exact hsame trivial
  | createReservation _ _ _ =>
    obtain ⟨r, hrun⟩ := fst_map_eq_ok.mp hrun
    exact createReservation_drawn h.inv hd hrun
  | createBatchReservation _ _ _ =>
    obtain ⟨⟨g, rs⟩, hrun⟩ := fst_map_eq_ok.mp hrun
    rcases batch_ok h.inv hd hrun with ⟨-, rfl⟩ | ⟨-, -, hd'⟩
    · exact hd
    · exact hd'
  | commitReservation id data principal =>
    obtain ⟨a, hrun⟩ := fst_map_eq_ok.mp hrun
    obtain ⟨r, -, -, -, ⟨-, hc⟩ | ⟨-, hc⟩⟩ := commitReservation_closes h.inv hrun
    · exact hd.closed hc
    · exact hd.closed hc
  | releaseReservation id data principal =>
    obtain ⟨a, hrun⟩ := fst_map_eq_ok.mp hrun
    obtain ⟨r, -, -, -, hc⟩ := releaseReservation_effect h.inv hrun
    exact hd.closed hc
  | commitReservationGroup _ _ =>
    obtain ⟨a, hrun⟩ := fst_map_eq_ok.mp hrun
    rcases commitReservationGroup_ok h.inv hrun with ⟨-, rfl, -⟩ | ⟨-, -, -, hc⟩ | ⟨-, -, -, hc⟩
    · exact hd
    · exact hd.closed hc
    · exact hd.closed hc
  | releaseReservationGroup _ _ _ =>
    obtain ⟨a, hrun⟩ := fst_map_eq_ok.mp hrun
    rcases releaseReservationGroup_ok h.inv hrun with ⟨-, rfl⟩ | ⟨-, hc⟩
    · exact hd
    · exact hd.closed hc
  | expireReservations principal limit tie =>
    obtain rfl := Except.ok.inj hrun
    exact hd.closed (expireReservations_effect h.inv now principal limit tie)

theorem Drawn.step (h : Sane env s) (hd : Drawn env s) (call : DateTime × Request) :
    Drawn env (step env s call) := by
  unfold Inventory.step
  split
  next hrun => exact execute_drawn h hd hrun
  · exact hd

end Run

theorem run_drawn (env : Env) (calls : List (DateTime × Request)) :
    Sane env (run (step env) Store.empty calls) ∧ Drawn env (run (step env) Store.empty calls) := by
  have hkeep : ∀ s call, (Sane env s ∧ Drawn env s) →
      Sane env (step env s call) ∧ Drawn env (step env s call) :=
    fun s call h => ⟨h.1.step call, h.2.step h.1 call⟩
  exact run_keeps_all hkeep calls ⟨.empty env, .empty env⟩

end Inventory
end Marketplace
