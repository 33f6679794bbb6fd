import Marketplace.Inventory.Batch

/-!
# Inventory: what the idempotency records stand for

A record under a key stands for what the request that left it has made: the row
it made is there for good, so the request can be repeated at any time and finds
its own result.  A record that names a reservation group says more: it carries
the digest of a batch, and the group holds exactly what the lines of that batch
ask for, however its reservations have ended since.
-/

namespace Marketplace
namespace Inventory

open Base

/-! ## What a group holds -/

/-- The seller and SKU a reservation is for. -/
def Store.pairOf (s : Store) (r : InventoryReservation) : Option (UUID × String) :=
  (s.items.get? r.inventoryItemId).map InventoryItem.pair

/-- The units the reservations of a group hold, or held, of a seller's SKU. -/
def Store.groupUnits (s : Store) (g : UUID) (pair : UUID × String) : Int :=
  (s.reservations.rows.map fun r =>
    if r.reservationGroupId = some g ∧ s.pairOf r = some pair then r.quantity else 0).sum

/-- A reservation of the later store is an old one, or in a group that was drawn
in between. -/
def Newcomers (env : Env) (s s' : Store) : Prop :=
  ∀ r' ∈ s'.reservations, (∃ r ∈ s.reservations, r.id = r'.id) ∨
    ∀ g, r'.reservationGroupId = some g → Fresh env s s' g

section Groups

variable {env : Env} {now : DateTime} {s s' : Store} {g : UUID}

theorem pairOf_kept (h : Inv s)
    (hitems : s.items.Evolves InventoryItem.version InventoryItem.origin s'.items)
    {r r' : InventoryReservation} (hr : r ∈ s.reservations) (hterms : r'.terms = r.terms) :
    s'.pairOf r' = s.pairOf r := by
  obtain ⟨item, hget⟩ := h.item_of hr
  obtain ⟨item', hitem', hkey, horigin, -⟩ := hitems item (Table.mem_of_get? hget)
  have hid : r'.inventoryItemId = r.inventoryItemId := (Prod.mk.inj hterms).1
  have hget' : s'.items.get? r.inventoryItemId = some item' := by
    rw [← Table.key_of_get? hget, ← hkey]
    exact Table.get?_key hitem'
  have hpair : item'.pair = item.pair := by
    simp only [InventoryItem.origin, Prod.mk.injEq] at horigin
    rw [InventoryItem.pair, InventoryItem.pair, horigin.2.2.2.1, horigin.2.2.2.2]
  rw [Store.pairOf, Store.pairOf, hid, hget', hget, Option.map_some, Option.map_some, hpair]

/-- A group that has been drawn keeps what it holds. -/
theorem groupUnits_kept (h : Inv s)
    (hitems : s.items.Evolves InventoryItem.version InventoryItem.origin s'.items)
    (hrs : s.reservations.Evolves InventoryReservation.version InventoryReservation.terms
      s'.reservations)
    (hnew : Newcomers env s s') (hg : env.uuid4.Issued s.drawn g) (pair : UUID × String) :
    s'.groupUnits g pair = s.groupUnits g pair := by
  refine Table.sum_kept (fun r hr => ?_) fun r' hr' => ?_
  · obtain ⟨r', hr', hkey, hterms, -⟩ := hrs r hr
    refine ⟨r', hr', hkey, ?_⟩
    have hpair := pairOf_kept h hitems hr hterms
    simp only [InventoryReservation.terms, Prod.mk.injEq] at hterms
    rw [hpair, hterms.2.2.1, hterms.2.2.2.1]
  · refine (hnew r' hr').imp_right fun hfresh => if_neg fun hmem => ?_
    exact (hfresh g hmem.1).not_issued hg

theorem ClosedAll.newcomers {close : InventoryReservation → InventoryReservation}
    {l : List InventoryReservation} (hc : ClosedAll close l s s') : Newcomers env s s' := by
  intro r' hr'
  rcases hc.mem hr' with ⟨r, hr, rfl⟩ | ⟨hr, -⟩
  · exact Or.inl ⟨r, Table.mem_of_get? (hc.opened r hr).1, (hc.closes r hr).id.symm⟩
  · exact Or.inl ⟨r', hr, rfl⟩

theorem Newcomers.of_same (h : s'.reservations = s.reservations) : Newcomers env s s' :=
  fun r hr => Or.inl ⟨r, h ▸ hr, rfl⟩

end Groups

/-! ## One request -/

/-- What a request adds to the reservations is in no group. -/
def Ungrouped (s s' : Store) : Prop :=
  ∀ r' ∈ s'.reservations, (∃ r ∈ s.reservations, r.id = r'.id) ∨ r'.reservationGroupId = none

/-- A request makes a group for its batch, or no group at all. -/
def Groups (env : Env) (req : Request) (s s' : Store) : Prop :=
  Ungrouped s s' ∨ ∃ data ∈ req.batch, ∃ g rs, Filled env data s s' g rs

section Request

variable {env : Env} {now : DateTime} {s s' : Store}

theorem Ungrouped.of_same (h : s'.reservations = s.reservations) : Ungrouped s s' :=
  fun r hr => Or.inl ⟨r, h ▸ hr, rfl⟩

theorem ClosedAll.ungrouped {close : InventoryReservation → InventoryReservation}
    {l : List InventoryReservation} (hc : ClosedAll close l s s') : Ungrouped s s' := by
  intro r' hr'
  rcases hc.mem hr' with ⟨r, hr, rfl⟩ | ⟨hr, -⟩
  · exact Or.inl ⟨r, Table.mem_of_get? (hc.opened r hr).1, (hc.closes r hr).id.symm⟩
  · exact Or.inl ⟨r', hr, rfl⟩

theorem execute_groups (h : Sane env s) (hd : Drawn env s) {req : Request}
    (hrun : execute env now s req = .ok s') : Groups env req s s' := by
  have hsame : req.StockKeeping → Groups env req s s' := fun hkeep =>
    Or.inl (.of_same (execute_stockKeeping h.inv hkeep hrun))
  cases req with
  | createWarehouse _ => exact hsame trivial
  | updateWarehouse _ _ _ => exact hsame trivial
  | syncCatalogSku _ => exact hsame trivial
  | createItem _ _ _ => exact hsame trivial
  | updateItem _ _ _ _ => exact hsame trivial
  | adjustStock _ _ _ _ _ => exact hsame trivial
  | createReservation _ _ _ =>
    obtain ⟨r, hrun⟩ := fst_map_eq_ok.mp hrun
    obtain ⟨-, heq | ⟨hnone, hmem⟩⟩ := createReservation_effect h.inv hrun
    · exact Or.inl (.of_same heq)
    · refine Or.inl fun x hx => ?_
      rcases (hmem x).mp hx with hx | rfl
      · exact Or.inl ⟨x, hx, rfl⟩
      · exact Or.inr hnone
  | createBatchReservation _ _ _ =>
    obtain ⟨⟨g, rs⟩, hrun⟩ := fst_map_eq_ok.mp hrun
    rcases batch_ok h.inv hd hrun with ⟨-, rfl⟩ | ⟨-, hfilled, -⟩
    · exact Or.inl (.of_same rfl)
    · exact Or.inr ⟨_, rfl, g, rs, hfilled⟩
  | commitReservation id data principal =>
    obtain ⟨a, hrun⟩ := fst_map_eq_ok.mp hrun
    obtain ⟨r, -, -, -, ⟨-, hc⟩ | ⟨-, hc⟩⟩ := commitReservation_closes h.inv hrun
    · exact Or.inl hc.ungrouped
    · exact Or.inl hc.ungrouped
  | releaseReservation id data principal =>
    obtain ⟨a, hrun⟩ := fst_map_eq_ok.mp hrun
    obtain ⟨r, -, -, -, hc⟩ := releaseReservation_effect h.inv hrun
    exact Or.inl hc.ungrouped
  | commitReservationGroup _ _ =>
    obtain ⟨a, hrun⟩ := fst_map_eq_ok.mp hrun
    rcases commitReservationGroup_ok h.inv hrun with ⟨-, rfl, -⟩ | ⟨-, -, -, hc⟩ | ⟨-, -, -, hc⟩
    · exact Or.inl (.of_same rfl)
    · exact Or.inl hc.ungrouped
    · exact Or.inl hc.ungrouped
  | releaseReservationGroup _ _ _ =>
    obtain ⟨a, hrun⟩ := fst_map_eq_ok.mp hrun
    rcases releaseReservationGroup_ok h.inv hrun with ⟨-, rfl⟩ | ⟨-, hc⟩
    · exact Or.inl (.of_same rfl)
    · exact Or.inl hc.ungrouped
  | expireReservations principal limit tie =>
    obtain rfl := Except.ok.inj hrun
    exact Or.inl (expireReservations_effect h.inv now principal limit tie).ungrouped

theorem step_groups (h : Sane env s) (hd : Drawn env s) (call : DateTime × Request) :
    Groups env call.2 s (step env s call) := by
  unfold step
  split
  next hrun => exact execute_groups h hd hrun
  · exact Or.inl (.of_same rfl)

theorem Ungrouped.newcomers (h : Ungrouped s s') : Newcomers env s s' := fun r' hr' =>
  (h r' hr').imp_right fun hnone _ hg => absurd (hnone.symm.trans hg) nofun

theorem Filled.newcomers {data : BatchReservationCreate} {g : UUID}
    {rs : List InventoryReservation} (h : Filled env data s s' g rs) : Newcomers env s s' := by
  intro r' hr'
  rw [Table.mem_def, h.rows, List.mem_append] at hr'
  rcases hr' with hr | hr
  · exact Or.inl ⟨r', hr, rfl⟩
  · refine Or.inr fun g' hg' => ?_
    cases (h.grouped r' hr).1.symm.trans hg'
    exact h.fresh

theorem Filled.ne_nil {data : BatchReservationCreate} {g : UUID}
    {rs : List InventoryReservation} (h : Filled env data s s' g rs) : rs ≠ [] := by
  rintro rfl
  obtain ⟨line, hline⟩ := List.exists_mem_of_length_pos data.lines_valid.1
  have hexact := h.exact line.pair
  have hpos : 0 < orderedOf data.lines line.pair :=
    total_pos (fun line _ => line.quantity_valid.1) hline
  rw [← hexact] at hpos
  exact absurd hpos (lt_irrefl _)

theorem Groups.newcomers {req : Request} (h : Groups env req s s') : Newcomers env s s' :=
  h.elim Ungrouped.newcomers fun ⟨_, _, _, _, hfilled⟩ => hfilled.newcomers

/-- A new group holds what the lines of its batch ask for. -/
theorem Filled.groupUnits {data : BatchReservationCreate} {g : UUID}
    {rs : List InventoryReservation} (h : Filled env data s s' g rs) (hids : Ids env s)
    (pair : UUID × String) : s'.groupUnits g pair = orderedOf data.lines pair := by
  have hold : (s.reservations.rows.map fun r =>
      if r.reservationGroupId = some g ∧ s'.pairOf r = some pair then r.quantity else 0).sum = 0 := by
    refine List.sum_eq_zero fun n hn => ?_
    obtain ⟨r, hr, rfl⟩ := List.mem_map.mp hn
    exact if_neg fun hmem => h.fresh.not_issued (hids.groups r hr g hmem.1)
  have hpair : ∀ r ∈ rs, (s'.pairOf r = some pair ↔
      r.inventoryItemId ∈ (s.offered pair).map InventoryItem.id) := by
    intro r hr
    obtain ⟨line, -, hmem⟩ := h.stocked r hr
    obtain ⟨item, hitem, hid⟩ := List.mem_map.mp hmem
    have hoffered := (List.mem_filter.mp hitem)
    have hpairs : item.pair = line.pair ∧ item.isActive = true := by simpa using hoffered.2
    have hread : s'.pairOf r = some line.pair := by
      rw [Store.pairOf, h.holds.get?, ← hid, Table.get?_key hoffered.1, ← hpairs.1]
      rfl
    rw [hread, Option.some_inj]
    constructor
    · rintro rfl
      exact hmem
    · intro hmem'
      by_contra hne
      exact offered_apart s hne hmem hmem'
  have hnew : (rs.map fun r =>
      if r.reservationGroupId = some g ∧ s'.pairOf r = some pair then r.quantity else 0).sum =
        heldOf s rs pair := by
    rw [List.sum_map_ite, List.sum_map_zero, add_zero, heldOf]
    refine congrArg (fun l => (l.map InventoryReservation.quantity).sum)
      (List.filter_congr fun r hr => ?_)
    simp only [(h.grouped r hr).1, hpair r hr, true_and]
  rw [Store.groupUnits, h.rows, List.map_append, List.sum_append, hold, hnew, zero_add, h.exact]

end Request

/-! ## A run -/

/-- What is known of the inventory in every run. -/
structure Known (env : Env) (s : Store) : Prop where
  sane : Sane env s
  drawn : Drawn env s
  together : Together s

section Run

variable {env : Env} {s : Store} {g : UUID}

theorem Known.empty (env : Env) : Known env Store.empty := ⟨.empty env, .empty env, .empty⟩

theorem Known.step (h : Known env s) (call : DateTime × Request) : Known env (step env s call) :=
  ⟨h.sane.step call, h.drawn.step h.sane call, (step_lawful h.sane h.together call).2⟩

/-- A group that has been drawn holds the same units ever after. -/
theorem step_groupUnits (h : Known env s) (hg : env.uuid4.Issued s.drawn g)
    (call : DateTime × Request) (pair : UUID × String) :
    (step env s call).groupUnits g pair = s.groupUnits g pair :=
  have htrail := step_trail h.sane.inv call
  groupUnits_kept h.sane.inv htrail.items_evolve htrail.reservations_evolve
    (step_groups h.sane h.drawn call).newcomers hg pair

/-- The group is there and holds the units. -/
structure Holding (g : UUID) (units : UUID × String → Int) (s : Store) : Prop where
  reserved : ∃ r ∈ s.reservations, r.reservationGroupId = some g
  units : ∀ pair, s.groupUnits g pair = units pair

theorem Holding.step {units : UUID × String → Int} (h : Known env s) (hg : Holding g units s)
    (call : DateTime × Request) : Holding g units (Inventory.step env s call) := by
  obtain ⟨r, hr, hrg⟩ := hg.reserved
  obtain ⟨r', hr', -, hterms, -⟩ := (step_trail h.sane.inv call).reservations_evolve r hr
  simp only [InventoryReservation.terms, Prod.mk.injEq] at hterms
  refine ⟨⟨r', hr', hterms.2.2.1.trans hrg⟩, fun pair => ?_⟩
  rw [step_groupUnits h (h.sane.ids.groups r hr g hrg) call, hg.units]

/-- A group that is closed, all of it in the same way, stays as it is. -/
theorem GroupIs.step {status : ReservationStatus} (hstatus : status ≠ .active) (h : Known env s)
    (hg : GroupIs s g status) (call : DateTime × Request) :
    GroupIs (Inventory.step env s call) g status := by
  obtain ⟨⟨r, hr, hrg⟩, hall⟩ := hg
  have hlawful := (step_lawful h.sane h.together call).1.1
  have hkept : ∀ x ∈ s.reservations, x.reservationGroupId = some g → ∀ x', Lawful call x x' →
      x' = x := by
    intro x hx hxg x' hx'
    have hclosed : x.status ≠ .active := fun e => hstatus ((hall x hx hxg).symm.trans e)
    cases hx' with
    | kept => rfl
    | committed _ _ active => exact absurd active hclosed
    | released _ active => exact absurd active hclosed
    | expired active => exact absurd active hclosed
  refine ⟨?_, fun r' hr' hg' => ?_⟩
  · obtain ⟨r', hr', -, hto⟩ := hlawful r hr
    rw [hkept r hr hrg r' hto] at hr'
    exact ⟨r, hr', hrg⟩
  · have hnew := (step_groups h.sane h.drawn call).newcomers r' hr'
    rcases hnew with ⟨x, hx, hid⟩ | hfresh
    · obtain ⟨x', hx', hid', hto⟩ := hlawful x hx
      have hsame : x' = r' := Table.eq_of_key_eq hx' hr' (hid'.trans hid)
      subst hsame
      have hxg : x.reservationGroupId = some g := by
        cases hto with
        | kept => exact hg'
        | committed => exact hg'
        | released => exact hg'
        | expired => exact hg'
      rw [hkept x hx hxg x' hto]
      exact hall x hx hxg
    · exact absurd (h.sane.ids.groups r hr g hrg) (hfresh g hg').not_issued

end Run

/-! ## What is sold of an SKU -/

/-- The units committed of a seller's SKU. -/
def Store.soldUnits (s : Store) (pair : UUID × String) : Int :=
  (s.reservations.rows.map fun r =>
    if s.pairOf r = some pair ∧ r.status = .committed then r.quantity else 0).sum

/-- The items of a seller's SKU, active or not. -/
def Store.itemsOf (s : Store) (pair : UUID × String) : List InventoryItem :=
  s.items.rows.filter fun item => item.pair = pair

/-- The units of it on hand. -/
def Store.onHand (s : Store) (pair : UUID × String) : Int :=
  ((s.itemsOf pair).map InventoryItem.onHandQuantity).sum

/-- The units of it that came in. -/
def Store.received (s : Store) (pair : UUID × String) : Int :=
  ((s.itemsOf pair).map fun item => receivedQuantity s.movements item.id).sum

section Sold

variable {s : Store} {seller : UUID × String}

theorem soldOf_eq_total (rows : List InventoryReservation) (i : UUID) :
    soldOf (rows : Multiset InventoryReservation) i =
      total InventoryReservation.inventoryItemId
        (fun r => if r.status = .committed then r.quantity else 0) rows i := by
  rw [soldOf, Multiset.filter_coe, Multiset.map_coe, Multiset.sum_coe, total, sum_filter,
    sum_filter]
  refine congrArg List.sum (List.map_congr_left fun r _ => ?_)
  by_cases hi : r.inventoryItemId = i <;> simp [hi]

theorem mem_itemsOf (h : Inv s) {r : InventoryReservation} (hr : r ∈ s.reservations) :
    r.inventoryItemId ∈ (s.itemsOf seller).map InventoryItem.id ↔ s.pairOf r = some seller := by
  obtain ⟨item, hget⟩ := h.item_of hr
  have hkey : item.id = r.inventoryItemId := Table.key_of_get? hget
  rw [Store.pairOf, hget, Option.map_some, Option.some_inj, List.mem_map]
  constructor
  · rintro ⟨x, hx, hid⟩
    obtain ⟨hmem, hpair⟩ := List.mem_filter.mp hx
    rw [Table.eq_of_key_eq (Table.mem_of_get? hget) hmem (hkey.trans hid.symm)]
    simpa using hpair
  · intro hpair
    exact ⟨item, List.mem_filter.mpr ⟨Table.mem_of_get? hget, decide_eq_true hpair⟩, hkey⟩

theorem sum_soldOf (h : Inv s) :
    ((s.itemsOf seller).map fun item => soldOf s.reservations.toMultiset item.id).sum =
      s.soldUnits seller := by
  have hids : ((s.itemsOf seller).map InventoryItem.id).Nodup :=
    s.items.nodup.sublist (List.filter_sublist.map _)
  have hsold : ((s.itemsOf seller).map fun item => soldOf s.reservations.toMultiset item.id) =
      ((s.itemsOf seller).map InventoryItem.id).map (total InventoryReservation.inventoryItemId
        (fun r => if r.status = .committed then r.quantity else 0) s.reservations.rows) := by
    rw [List.map_map]
    exact List.map_congr_left fun item _ => soldOf_eq_total _ _
  rw [hsold, sum_total hids, Store.soldUnits, sum_filter]
  refine congrArg List.sum (List.map_congr_left fun r hr => ?_)
  simp only [mem_itemsOf h hr]
  by_cases hp : s.pairOf r = some seller <;> simp [hp]

/-- What a seller's SKU received is on hand or sold. -/
theorem Explained.received (he : Explained s) (h : Inv s) (seller : UUID × String) :
    s.onHand seller + s.soldUnits seller = s.received seller := by
  have hparts : ∀ l : List InventoryItem, (∀ item ∈ l, item ∈ s.items) →
      (l.map InventoryItem.onHandQuantity).sum +
        (l.map fun item => soldOf s.reservations.toMultiset item.id).sum =
          (l.map fun item => receivedQuantity s.movements item.id).sum := by
    intro l
    induction l with
    | nil => exact fun _ => rfl
    | cons item rest ih =>
      intro hall
      have hitem := he.onHand (hall item List.mem_cons_self)
      have hrest := ih fun x hx => hall x (List.mem_cons_of_mem item hx)
      simp only [List.map_cons, List.sum_cons]
      omega
  rw [← sum_soldOf h]
  exact hparts _ fun item hitem => List.mem_of_mem_filter hitem

/-- Committed groups hold no more than what is sold. -/
theorem groups_sold (h : Inv s) {gs : List UUID} (hnodup : gs.Nodup)
    (hall : ∀ g ∈ gs, GroupIs s g .committed) (seller : UUID × String) :
    (gs.map fun g => s.groupUnits g seller).sum ≤ s.soldUnits seller := by
  have hgroups : (gs.map fun g => s.groupUnits g seller) =
      (gs.map some).map (total InventoryReservation.reservationGroupId
        (fun r => if s.pairOf r = some seller then r.quantity else 0) s.reservations.rows) := by
    rw [List.map_map]
    refine List.map_congr_left fun g _ => ?_
    rw [Function.comp_apply, total, sum_filter, Store.groupUnits]
    refine congrArg List.sum (List.map_congr_left fun r _ => ?_)
    by_cases hg : r.reservationGroupId = some g <;> simp [hg]
  rw [hgroups, sum_total (hnodup.map (Option.some_injective _)), Store.soldUnits]
  rw [sum_filter]
  refine List.sum_le_sum fun r hr => ?_
  have hpos : 0 < r.quantity := h.positive r hr
  by_cases hp : s.pairOf r = some seller
  · rw [if_pos hp]
    split
    next hg =>
      obtain ⟨g, hmem, hrg⟩ : ∃ g ∈ gs, some g = r.reservationGroupId := by simpa using hg
      rw [if_pos ⟨hp, (hall g hmem).2 r hr hrg.symm⟩]
    next => split <;> omega
  · simp [hp]

end Sold

/-! ## Records of batches -/

/-- A record that names a group stands for one of the batches: it carries its digest
and its customer, and the group holds what its lines ask for. -/
def Described (env : Env) (batches : List BatchReservationCreate) (s : Store) : Prop :=
  ∀ rec ∈ s.idempotency, ∀ g, rec.resourceId = some g →
    (∃ r ∈ s.reservations, r.reservationGroupId = some g) →
      ∃ data ∈ batches,
        rec.requestHash = env.requestHash (.createBatchReservation data) ∧
          rec.actorId = data.customerId ∧
            ∀ pair, s.groupUnits g pair = orderedOf data.lines pair

section Described

variable {env : Env} {batches : List BatchReservationCreate} {s s' : Store}

theorem Described.empty (env : Env) (batches : List BatchReservationCreate) :
    Described env batches Store.empty :=
  fun _ h => absurd h (Table.not_mem_empty _)

/-- A request that makes no group leaves no new record of one. -/
theorem Ungrouped.old_record (h : Ungrouped s s') (hids : Ids env s) (he : Effect env s s')
    (hrs : s.reservations.Evolves InventoryReservation.version InventoryReservation.terms
      s'.reservations) {rec : IdempotencyRecord} (hrec : rec ∈ s'.idempotency) {g : UUID}
    (hg : rec.resourceId = some g)
    (hgroup : ∃ r ∈ s'.reservations, r.reservationGroupId = some g) : rec ∈ s.idempotency := by
  obtain ⟨k, hk⟩ := he.records
  refine (hk rec hrec).resolve_right fun ⟨_, hnew⟩ => ?_
  obtain ⟨r', hr', hg'⟩ := hgroup
  have hold : ∃ r ∈ s.reservations, r.reservationGroupId = some g := by
    rcases h r' hr' with ⟨r, hr, hid⟩ | hnone
    · obtain ⟨x, hx, hkey, hterms, -⟩ := hrs r hr
      have hxr : x = r' := Table.eq_of_key_eq hx hr' (hkey.trans hid)
      simp only [InventoryReservation.terms, Prod.mk.injEq] at hterms
      exact ⟨r, hr, hterms.2.2.1.symm.trans (hxr ▸ hg')⟩
    · cases hnone.symm.trans hg'
  exact hids.new_record (hnew g hg).1 hold

theorem Described.step (h : Sane env s) (hd : Drawn env s) (hdesc : Described env batches s)
    (call : DateTime × Request) (hsent : ∀ data ∈ call.2.batch, data ∈ batches) :
    Described env batches (step env s call) := by
  have he : Effect env s (Inventory.step env s call) := step_effect h.inv call
  have htrail : Trail s (Inventory.step env s call) := step_trail h.inv call
  have hgroups := step_groups h hd call
  have hkept : ∀ rec ∈ s.idempotency, ∀ g, rec.resourceId = some g →
      (∃ r ∈ (Inventory.step env s call).reservations, r.reservationGroupId = some g) →
        ∃ data ∈ batches,
          rec.requestHash = env.requestHash (.createBatchReservation data) ∧
            rec.actorId = data.customerId ∧
              ∀ pair, (Inventory.step env s call).groupUnits g pair = orderedOf data.lines pair := by
    intro rec hrec g hg hgroup
    have hissued := h.ids.records rec hrec g hg
    obtain ⟨r', hr', hg'⟩ := hgroup
    obtain ⟨r, hr, hrg, -⟩ := he.old_of_issued hr' hg' hissued
    obtain ⟨data, hdata, hhash, hactor, hunits⟩ := hdesc rec hrec g hg ⟨r, hr, hrg⟩
    refine ⟨data, hdata, hhash, hactor, fun pair => ?_⟩
    rw [groupUnits_kept h.inv htrail.items_evolve htrail.reservations_evolve hgroups.newcomers
      hissued, hunits]
  intro rec hrec g hg hgroup
  rcases hgroups with hungrouped | ⟨data, hdata, g', rs, hfilled⟩
  · exact hkept rec (hungrouped.old_record h.ids he htrail.reservations_evolve hrec hg hgroup) g hg
      hgroup
  · rcases hfilled.records rec hrec with hold | ⟨hactor, hhash, hres⟩
    · exact hkept rec hold g hg hgroup
    · cases hres.symm.trans hg
      exact ⟨data, hsent data hdata, hhash, hactor, hfilled.groupUnits h.ids⟩

end Described

/-- No two of the batches with different lines have one digest. -/
def Env.Discerns (env : Env) (batches : List BatchReservationCreate) : Prop :=
  ∀ a ∈ batches, ∀ b ∈ batches, env.requestHash (.createBatchReservation a) =
    env.requestHash (.createBatchReservation b) → a.lines = b.lines

instance (env : Env) (batches : List BatchReservationCreate) : Decidable (env.Discerns batches) :=
  inferInstanceAs (Decidable (∀ a ∈ batches, ∀ b ∈ batches, _ → _))

/-- The group of a batch that went through holds what its lines ask for, whether
it was made just now or long ago. -/
theorem batch_units {now : DateTime} {env : Env} {batches : List BatchReservationCreate}
    {s s' : Store} (h : Known env s) (hdesc : Described env batches s)
    (hdigest : env.Discerns batches) {data : BatchReservationCreate} (hdata : data ∈ batches)
    {principal : Principal} {key : Option String} {g : UUID} {rs : List InventoryReservation}
    (hrun : createBatchReservation env now s data principal key = .ok (s', g, rs)) :
    Holding g (orderedOf data.lines) s' := by
  rcases batch_ok h.sane.inv h.drawn hrun with ⟨hreplay, rfl⟩ | ⟨-, hfilled, -⟩
  · obtain ⟨k, hk, rec, hrec, hkey, hhash, g', hg', hgroup⟩ := hreplay
    have hg : g' = g := by
      rcases (createBatchReservation_effect h.sane.inv hrun).2 with
        ⟨-, -, k', hk', rec', hrec', hkey', hres⟩ | ⟨-, hlt, -⟩
      · cases hk.symm.trans hk'
        cases Table.eq_of_key_eq hrec' hrec (hkey'.trans hkey.symm)
        exact Option.some.inj (hg'.symm.trans hres)
      · exact absurd hlt (lt_irrefl _)
    subst hg
    obtain ⟨data', hdata', hhash', -, hunits⟩ := hdesc rec hrec g' hg' hgroup
    refine ⟨hgroup, fun pair => ?_⟩
    rw [hunits, hdigest data' hdata' data hdata (hhash'.symm.trans hhash)]
  · obtain ⟨r, hr⟩ := List.exists_mem_of_ne_nil rs hfilled.ne_nil
    refine ⟨⟨r, ?_, (hfilled.grouped r hr).1⟩, hfilled.groupUnits h.sane.ids⟩
    rw [Table.mem_def, hfilled.rows]
    exact List.mem_append_right _ hr

/-! ## Repeating a request -/

/-- There is a record under the key with the digest, and what it names satisfies
`P`. -/
def Store.HasRecord (s : Store) (actorId : UUID) (key : Option String) (hash : String)
    (P : Option UUID → Prop) : Prop :=
  ∃ k, givenKey key = some k ∧ ∃ rec ∈ s.idempotency, rec.key = (actorId, k) ∧
    rec.requestHash = hash ∧ P rec.resourceId

/-- The request carries a key, and has been served: what its record names is there. -/
def Served (env : Env) (s : Store) : Request → Prop
  | .createItem data principal key =>
    s.HasRecord principal.subject key (env.requestHash (.createItem data))
      fun id => ∃ item ∈ s.items, id = some item.id
  | .adjustStock itemId data version principal key =>
    s.HasRecord principal.subject key (env.requestHash (.adjustStock itemId data version))
      fun _ => ∃ item ∈ s.items, item.id = itemId
  | .createReservation data principal key =>
    s.HasRecord principal.subject key (env.requestHash (.createReservation data))
      fun id => ∃ r ∈ s.reservations, id = some r.id
  | .createBatchReservation data _ key =>
    s.HasRecord data.customerId key (env.requestHash (.createBatchReservation data))
      fun id => ∃ g, id = some g ∧ ∃ r ∈ s.reservations, r.reservationGroupId = some g
  | _ => False

/-- The key of a request that takes one. -/
def Request.key : Request → Option String
  | .createItem _ _ key | .adjustStock _ _ _ _ key | .createReservation _ _ key
  | .createBatchReservation _ _ key => givenKey key
  | _ => none

section Served

variable {env : Env} {now : DateTime} {s s' : Store} {actorId : UUID} {key : Option String}
  {hash : String} {P Q : Option UUID → Prop}

theorem Store.HasRecord.mono (h : s.HasRecord actorId key hash P)
    (hmono : ∀ rec ∈ s.idempotency, rec ∈ s'.idempotency) (hPQ : ∀ id, P id → Q id) :
    s'.HasRecord actorId key hash Q := by
  obtain ⟨k, hk, rec, hrec, hkey, hhash, hp⟩ := h
  exact ⟨k, hk, rec, hmono rec hrec, hkey, hhash, hPQ _ hp⟩

theorem Store.HasRecord.lookup (h : s.HasRecord actorId key hash P) :
    ∃ rec, s.idempotencyLookup actorId key hash = .ok (some rec) ∧ P rec.resourceId := by
  obtain ⟨k, hk, rec, hrec, hkey, hhash, hp⟩ := h
  refine ⟨rec, ?_, hp⟩
  simp only [idempotencyLookup, hk, hkey ▸ Table.get?_key hrec, require_pos hhash, ok_bind]
  rfl

theorem Store.HasRecord.of_lookup {rec : IdempotencyRecord}
    (h : s.idempotencyLookup actorId key hash = .ok (some rec)) (hp : P rec.resourceId) :
    s.HasRecord actorId key hash P := by
  obtain ⟨k, hk, hrec, hkey, hhash⟩ := idempotencyLookup_hash h
  exact ⟨k, hk, rec, hrec, hkey, hhash, hp⟩

theorem Store.HasRecord.of_recorded {t : Store} {resourceType : String} {resourceId : UUID}
    (hkey : givenKey key ≠ none)
    (hrun : t.recordIdempotency actorId key hash resourceType resourceId = .ok s')
    (hp : P (some resourceId)) : s'.HasRecord actorId key hash P := by
  obtain ⟨k, hk⟩ := Option.ne_none_iff_exists'.mp hkey
  exact ⟨k, hk, _, (recordIdempotency_mem hrun).mpr (Or.inr ⟨k, hk, rfl⟩), rfl, rfl, hp⟩

/-- A request stays served. -/
theorem Served.mono (hmono : ∀ rec ∈ s.idempotency, rec ∈ s'.idempotency)
    (hitems : s.items.Evolves InventoryItem.version InventoryItem.origin s'.items)
    (hrs : s.reservations.Evolves InventoryReservation.version InventoryReservation.terms
      s'.reservations) {req : Request} (h : Served env s req) : Served env s' req := by
  have hitem : ∀ item ∈ s.items, ∃ item' ∈ s'.items, item'.id = item.id := fun item hitem => by
    obtain ⟨item', hitem', hkey, -⟩ := hitems item hitem
    exact ⟨item', hitem', hkey⟩
  cases req with
  | createItem _ _ _ =>
    simp only [Served] at h ⊢
    refine h.mono hmono fun id hid => ?_
    obtain ⟨item, hmem, rfl⟩ := hid
    obtain ⟨item', hmem', hkey⟩ := hitem item hmem
    exact ⟨item', hmem', congrArg some hkey.symm⟩
  | adjustStock _ _ _ _ _ =>
    simp only [Served] at h ⊢
    refine h.mono hmono fun id hid => ?_
    obtain ⟨item, hmem, rfl⟩ := hid
    exact hitem item hmem
  | createReservation _ _ _ =>
    simp only [Served] at h ⊢
    refine h.mono hmono fun id hid => ?_
    obtain ⟨r, hr, rfl⟩ := hid
    obtain ⟨r', hr', hkey, -⟩ := hrs r hr
    exact ⟨r', hr', congrArg some hkey.symm⟩
  | createBatchReservation _ _ _ =>
    simp only [Served] at h ⊢
    refine h.mono hmono fun id hid => ?_
    obtain ⟨g, rfl, r, hr, hg⟩ := hid
    obtain ⟨r', hr', -, hterms, -⟩ := hrs r hr
    simp only [InventoryReservation.terms, Prod.mk.injEq] at hterms
    exact ⟨g, rfl, r', hr', hterms.2.2.1.trans hg⟩
  | createWarehouse _ => exact h
  | updateWarehouse _ _ _ => exact h
  | syncCatalogSku _ => exact h
  | updateItem _ _ _ _ => exact h
  | commitReservation _ _ _ => exact h
  | releaseReservation _ _ _ => exact h
  | commitReservationGroup _ _ => exact h
  | releaseReservationGroup _ _ _ => exact h
  | expireReservations _ _ _ => exact h

/-- A request that has been served changes nothing any more. -/
theorem execute_served {req : Request} (h : Served env s req) : execute env now s req = .ok s := by
  cases req with
  | createItem data principal key =>
    simp only [Served] at h
    obtain ⟨rec, hlook, item, hitem, hid⟩ := h.lookup
    refine map_eq_ok.mpr ⟨(s, item), ?_, rfl⟩
    simp only [createItem, hlook, ok_bind, Option.bind_some, hid, Table.get?_key hitem]
    rfl
  | adjustStock itemId data version principal key =>
    simp only [Served] at h
    obtain ⟨rec, hlook, item, hitem, rfl⟩ := h.lookup
    refine map_eq_ok.mpr ⟨(s, item), ?_, rfl⟩
    simp only [adjustStock, hlook, ok_bind, Option.bind_some, Table.get?_key hitem]
    rfl
  | createReservation data principal key =>
    simp only [Served] at h
    obtain ⟨rec, hlook, r, hr, hid⟩ := h.lookup
    refine map_eq_ok.mpr ⟨(s, r), ?_, rfl⟩
    simp only [createReservation, hlook, ok_bind, Option.bind_some, hid, Table.get?_key hr]
    rfl
  | createBatchReservation data principal key =>
    obtain ⟨g, rs, hrun⟩ := batch_of_replays now principal (show Replays env s data key from h)
    exact map_eq_ok.mpr ⟨(s, g, rs), hrun, rfl⟩
  | createWarehouse _ => exact h.elim
  | updateWarehouse _ _ _ => exact h.elim
  | syncCatalogSku _ => exact h.elim
  | updateItem _ _ _ _ => exact h.elim
  | commitReservation _ _ _ => exact h.elim
  | releaseReservation _ _ _ => exact h.elim
  | commitReservationGroup _ _ => exact h.elim
  | releaseReservationGroup _ _ _ => exact h.elim
  | expireReservations _ _ _ => exact h.elim

theorem createItem_served {data : InventoryItemCreate} {principal : Principal}
    (hkey : givenKey key ≠ none) {item : InventoryItem}
    (hrun : createItem env s data principal key = .ok (s', item)) :
    Served env s' (.createItem data principal key) := by
  simp only [Served]
  simp only [createItem, bind_eq_ok] at hrun
  obtain ⟨existing, hlook, hrun⟩ := hrun
  split at hrun
  next found hfound =>
    simp only [pure_eq_ok, Prod.mk.injEq] at hrun
    obtain ⟨rfl, rfl⟩ := hrun
    obtain ⟨id, hres, hget⟩ := Option.bind_eq_some_iff.mp hfound
    obtain ⟨rec, rfl, hid⟩ := Option.bind_eq_some_iff.mp hres
    exact .of_lookup hlook ⟨found, Table.mem_of_get? hget, hid.trans
      (congrArg some (Table.key_of_get? hget).symm)⟩
  simp only [Store.draw, bind_eq_ok, orRaise_eq_ok, require_eq_ok, Store.addItem_eq_ok,
    pure_eq_ok, Prod.mk.injEq] at hrun
  obtain ⟨_, -, _, -, _, -, _, -, _, -, t, ⟨-, -, items, hins, rfl⟩, u, hu, v, hv, rfl, rfl⟩ := hrun
  have hrec := Store.recordIdempotency_recorded hv
  have hitems : v.items = items := hrec.items.trans (recordInitialStock_same hu).items
  refine .of_recorded hkey hv ⟨_, ?_, rfl⟩
  rw [hitems, Table.mem_insert? hins]
  exact Or.inr rfl

theorem adjustStock_served {itemId : UUID} {data : StockAdjustment} {version : Nat}
    {principal : Principal} (hkey : givenKey key ≠ none) {item : InventoryItem}
    (hrun : adjustStock env s itemId data version principal key = .ok (s', item)) :
    Served env s' (.adjustStock itemId data version principal key) := by
  simp only [Served]
  simp only [adjustStock, bind_eq_ok] at hrun
  obtain ⟨existing, hlook, hrun⟩ := hrun
  split at hrun
  next found hfound =>
    simp only [pure_eq_ok, Prod.mk.injEq] at hrun
    obtain ⟨rfl, rfl⟩ := hrun
    obtain ⟨rec, rfl, hget⟩ := Option.bind_eq_some_iff.mp hfound
    exact .of_lookup hlook ⟨found, Table.mem_of_get? hget, Table.key_of_get? hget⟩
  simp only [bind_eq_ok, Store.putItem_eq_ok, pure_eq_ok, Prod.mk.injEq] at hrun
  obtain ⟨old, hold, _, -, _, -, _, ⟨-, rfl⟩, t, ht, u, hu, rfl, rfl⟩ := hrun
  have hget := managedItem_ok hold
  have hrec := (Store.recordIdempotency_recorded hu).of_same ((Store.movement_same ht).trans
    ((Store.event_same _ _ _).trans (Store.addLowStockEventIfNeeded_same _)))
  have hid : old.id = itemId := Table.key_of_get? hget
  refine .of_recorded hkey hu ⟨old.restock (old.onHandQuantity + data.quantityDelta), ?_, hid⟩
  rw [hrec.items]
  exact Table.mem_put_self (Table.mem_of_get? hget) rfl

theorem createReservation_served {data : ReservationCreate} {principal : Principal}
    (hkey : givenKey key ≠ none) {r : InventoryReservation}
    (hrun : createReservation env now s data principal key = .ok (s', r)) :
    Served env s' (.createReservation data principal key) := by
  simp only [Served]
  simp only [createReservation, bind_eq_ok] at hrun
  obtain ⟨existing, hlook, hrun⟩ := hrun
  split at hrun
  next found hfound =>
    simp only [pure_eq_ok, Prod.mk.injEq] at hrun
    obtain ⟨rfl, rfl⟩ := hrun
    obtain ⟨id, hres, hget⟩ := Option.bind_eq_some_iff.mp hfound
    obtain ⟨rec, rfl, hid⟩ := Option.bind_eq_some_iff.mp hres
    exact .of_lookup hlook ⟨found, Table.mem_of_get? hget, hid.trans
      (congrArg some (Table.key_of_get? hget).symm)⟩
  simp only [Store.draw, bind_eq_ok, orRaise_eq_ok, Store.putItem_eq_ok,
    Store.addReservation_eq_ok, pure_eq_ok, Prod.mk.injEq] at hrun
  obtain ⟨item, -, _, -, _, -, e, -, _, ⟨-, rfl⟩, t, ⟨-, rs, hins, ht⟩, u, hu, v, hv, rfl, rfl⟩ := hrun
  have hrec := (Store.recordIdempotency_recorded hv).of_same ((Store.movement_same hu).trans
    ((Store.event_same _ _ _).trans (Store.addLowStockEventIfNeeded_same _)))
  refine .of_recorded hkey hv ⟨_, ?_, rfl⟩
  rw [hrec.reservations, ← ht]
  exact (Table.mem_insert? hins).mpr (Or.inr rfl)

theorem createBatchReservation_served (h : Inv s) (hd : Drawn env s)
    {data : BatchReservationCreate} {principal : Principal} (hkey : givenKey key ≠ none) {g : UUID}
    {rs : List InventoryReservation}
    (hrun : createBatchReservation env now s data principal key = .ok (s', g, rs)) :
    Served env s' (.createBatchReservation data principal key) := by
  rcases batch_ok h hd hrun with ⟨hreplays, rfl⟩ | ⟨⟨hfree, -⟩, hfilled, -⟩
  · exact hreplays
  obtain ⟨k, hk⟩ := Option.ne_none_iff_exists'.mp hkey
  obtain ⟨-, ⟨rfl, -⟩ | ⟨-, -, -, -, hrecorded⟩⟩ := createBatchReservation_effect h hrun
  · obtain ⟨i, hi, hi', -⟩ := hfilled.fresh
    omega
  obtain ⟨rec, hrec, hreckey, hres⟩ := hrecorded k hk
  obtain ⟨-, hhash, -⟩ := (hfilled.records rec hrec).resolve_left fun hold =>
    hfree k hk rec hold hreckey
  obtain ⟨r, hr⟩ := List.exists_mem_of_ne_nil rs hfilled.ne_nil
  refine ⟨k, hk, rec, hrec, hreckey, hhash, g, hres, r, ?_, (hfilled.grouped r hr).1⟩
  rw [Table.mem_def, hfilled.rows]
  exact List.mem_append_right _ hr

/-- A request with a key that has gone through is served. -/
theorem execute_serves (h : Sane env s) (hd : Drawn env s) {req : Request}
    (hkey : req.key ≠ none) (hrun : execute env now s req = .ok s') : Served env s' req := by
  cases req with
  | createItem _ _ _ =>
    obtain ⟨a, hrun⟩ := fst_map_eq_ok.mp hrun
    exact createItem_served hkey hrun
  | adjustStock _ _ _ _ _ =>
    obtain ⟨a, hrun⟩ := fst_map_eq_ok.mp hrun
    exact adjustStock_served hkey hrun
  | createReservation _ _ _ =>
    obtain ⟨a, hrun⟩ := fst_map_eq_ok.mp hrun
    exact createReservation_served hkey hrun
  | createBatchReservation _ _ _ =>
    obtain ⟨⟨g, rs⟩, hrun⟩ := fst_map_eq_ok.mp hrun
    exact createBatchReservation_served h.inv hd hkey hrun
  | createWarehouse _ => exact absurd rfl hkey
  | updateWarehouse _ _ _ => exact absurd rfl hkey
  | syncCatalogSku _ => exact absurd rfl hkey
  | updateItem _ _ _ _ => exact absurd rfl hkey
  | commitReservation _ _ _ => exact absurd rfl hkey
  | releaseReservation _ _ _ => exact absurd rfl hkey
  | commitReservationGroup _ _ => exact absurd rfl hkey
  | releaseReservationGroup _ _ _ => exact absurd rfl hkey
  | expireReservations _ _ _ => exact absurd rfl hkey

end Served

/-- A request with a key that has gone through can be sent again at any time, in
any later state: it goes through, and changes nothing. -/
theorem retry_is_harmless (env : Env) (calls more : List (DateTime × Request)) (now now' : DateTime)
    {request : Request} {s' : Store} (hkey : request.key ≠ none)
    (hrun : execute env now (run (step env) Store.empty calls) request = .ok s') :
    execute env now' (run (step env) s' more) request = .ok (run (step env) s' more) := by
  obtain ⟨hsane, hd⟩ := run_drawn env calls
  have hstep : step env (run (step env) Store.empty calls) (now, request) = s' := step_of_ok hrun
  have hinv : Inv s' := hstep ▸ step_inv env _ _ hsane.inv
  have hmono : ∀ rec ∈ s'.idempotency, rec ∈ (run (step env) s' more).idempotency := by
    have hkeep : ∀ s call, (Inv s ∧ ∀ rec ∈ s'.idempotency, rec ∈ s.idempotency) →
        Inv (step env s call) ∧ ∀ rec ∈ s'.idempotency, rec ∈ (step env s call).idempotency :=
      fun s call h => ⟨step_inv env s call h.1,
        fun rec hrec => (step_effect h.1 call).mono rec (h.2 rec hrec)⟩
    exact (run_keeps_all hkeep more ⟨hinv, fun _ hrec => hrec⟩).2
  exact execute_served ((execute_serves hsane hd hkey hrun).mono hmono
    (run_items_evolve env hinv more) (run_reservations_evolve env hinv more))

/-- Four mugs, under a key. -/
def keyedCall : Request :=
  .createReservation ⟨1, 4, none, none, by decide⟩ sampleBuyer (some "basket-1")

theorem retry_after_sweep :
    ∃ s', execute sampleEnv 0 (run (step sampleEnv) Store.empty stockCalls) keyedCall = .ok s' ∧
      execute sampleEnv (minutes 17)
          (run (step sampleEnv) s' [(minutes 16, .expireReservations sampleSweeper 9 id)])
          keyedCall =
        .ok (run (step sampleEnv) s' [(minutes 16, .expireReservations sampleSweeper 9 id)]) := by
  obtain ⟨s', hrun⟩ := ok_of_toBool (show (execute sampleEnv 0 (run (step sampleEnv) Store.empty
    stockCalls) keyedCall).toBool = true by decide +kernel)
  exact ⟨s', hrun, retry_is_harmless sampleEnv stockCalls _ 0 _ (by decide) hrun⟩

end Inventory
end Marketplace
