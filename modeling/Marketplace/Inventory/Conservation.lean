import Marketplace.Inventory.Groups

/-!
# Inventory: the counters agree with the reservations

Every operation is a sequence of moves of the stock pool that ends in balanced
tables, so the reserved counter of an item equals what its active reservations
hold in every state of every run.
-/

namespace Marketplace
namespace Inventory

open Base

section Step

variable {env : Env} {now : DateTime} {s s' : Store}

theorem fst_map_eq_ok {α : Type} {x : Except Failure (Store × α)} :
    (Prod.fst <$> x) = .ok s' ↔ ∃ a, x = .ok (s', a) := by
  rw [map_eq_ok]
  constructor
  · rintro ⟨⟨t, a⟩, hx, rfl⟩
    exact ⟨a, hx⟩
  · rintro ⟨a, hx⟩
    exact ⟨(s', a), hx, rfl⟩

theorem commitReservationGroup_effect (h : Inv s) {g : UUID} {principal : Principal}
    {a : Except ServiceError (List InventoryReservation)}
    (hrun : commitReservationGroup now s g principal = .ok (s', a)) : Effect env s s' := by
  rcases commitReservationGroup_ok h hrun with ⟨-, rfl, -⟩ | ⟨-, -, -, hc⟩ | ⟨-, -, -, hc⟩
  · exact .refl h
  · exact hc.effect
  · exact hc.effect

theorem releaseReservationGroup_effect (h : Inv s) {g : UUID} {reason : MovementReason}
    {note : Option String} {principal : Principal} {a : List InventoryReservation}
    (hrun : releaseReservationGroup s g reason note principal = .ok (s', a)) :
    Effect env s s' := by
  rcases releaseReservationGroup_ok h hrun with ⟨-, rfl⟩ | ⟨-, hc⟩
  · exact .refl h
  · exact hc.effect

theorem execute_effect (h : Inv s) {req : Request} (hrun : execute env now s req = .ok s') :
    Effect env s s' := by
  cases req with
  | createWarehouse _ =>
    obtain ⟨a, hrun⟩ := fst_map_eq_ok.mp hrun
    exact (createWarehouse_effect h hrun).1
  | updateWarehouse _ _ _ =>
    obtain ⟨a, hrun⟩ := fst_map_eq_ok.mp hrun
    exact (updateWarehouse_effect h hrun).1
  | syncCatalogSku _ =>
    obtain ⟨a, hrun⟩ := fst_map_eq_ok.mp hrun
    exact (syncCatalogSku_effect h hrun).1
  | createItem _ _ _ =>
    obtain ⟨a, hrun⟩ := fst_map_eq_ok.mp hrun
    exact (createItem_effect h hrun).1
  | updateItem _ _ _ _ =>
    obtain ⟨a, hrun⟩ := fst_map_eq_ok.mp hrun
    exact (updateItem_effect h hrun).1
  | adjustStock _ _ _ _ _ =>
    obtain ⟨a, hrun⟩ := fst_map_eq_ok.mp hrun
    exact (adjustStock_effect h hrun).1
  | createReservation _ _ _ =>
    obtain ⟨a, hrun⟩ := fst_map_eq_ok.mp hrun
    exact (createReservation_effect h hrun).1
  | createBatchReservation _ _ _ =>
    obtain ⟨a, hrun⟩ := fst_map_eq_ok.mp hrun
    exact (createBatchReservation_effect h hrun).1
  | commitReservation _ _ _ =>
    obtain ⟨a, hrun⟩ := fst_map_eq_ok.mp hrun
    obtain ⟨r, -, -, -, hc | hc⟩ := commitReservation_effect h hrun
    · exact hc.effect
    · exact hc.effect
  | releaseReservation _ _ _ =>
    obtain ⟨a, hrun⟩ := fst_map_eq_ok.mp hrun
    obtain ⟨r, -, -, -, hc⟩ := releaseReservation_effect h hrun
    exact hc.effect
  | commitReservationGroup _ _ =>
    obtain ⟨a, hrun⟩ := fst_map_eq_ok.mp hrun
    exact commitReservationGroup_effect h hrun
  | releaseReservationGroup _ _ _ =>
    obtain ⟨a, hrun⟩ := fst_map_eq_ok.mp hrun
    exact releaseReservationGroup_effect h hrun
  | expireReservations principal limit tie =>
    cases hrun
    exact (expireReservations_effect h now principal limit tie).effect

theorem step_effect (h : Inv s) (call : DateTime × Request) : Effect env s (step env s call) := by
  unfold step
  split
  next s' hrun => exact execute_effect h hrun
  next => exact .refl h

/-- The requests that look after warehouses, the catalogue and the stock. -/
def Request.StockKeeping : Request → Prop
  | .createWarehouse _ | .updateWarehouse _ _ _ | .syncCatalogSku _ | .createItem _ _ _
  | .updateItem _ _ _ _ | .adjustStock _ _ _ _ _ => True
  | _ => False

theorem execute_stockKeeping (h : Inv s) {req : Request} (hkeep : req.StockKeeping)
    (hrun : execute env now s req = .ok s') : s'.reservations = s.reservations := by
  cases req with
  | createWarehouse _ =>
    obtain ⟨a, hrun⟩ := fst_map_eq_ok.mp hrun
    exact (createWarehouse_effect h hrun).2
  | updateWarehouse _ _ _ =>
    obtain ⟨a, hrun⟩ := fst_map_eq_ok.mp hrun
    exact (@updateWarehouse_effect env _ _ h _ _ _ _ hrun).2
  | syncCatalogSku _ =>
    obtain ⟨a, hrun⟩ := fst_map_eq_ok.mp hrun
    exact (@syncCatalogSku_effect env _ _ h _ _ hrun).2
  | createItem _ _ _ =>
    obtain ⟨a, hrun⟩ := fst_map_eq_ok.mp hrun
    exact (createItem_effect h hrun).2
  | updateItem _ _ _ _ =>
    obtain ⟨a, hrun⟩ := fst_map_eq_ok.mp hrun
    exact (@updateItem_effect env _ _ h _ _ _ _ _ hrun).2
  | adjustStock _ _ _ _ _ =>
    obtain ⟨a, hrun⟩ := fst_map_eq_ok.mp hrun
    exact (adjustStock_effect h hrun).2
  | createReservation _ _ _ => exact hkeep.elim
  | createBatchReservation _ _ _ => exact hkeep.elim
  | commitReservation _ _ _ => exact hkeep.elim
  | releaseReservation _ _ _ => exact hkeep.elim
  | commitReservationGroup _ _ => exact hkeep.elim
  | releaseReservationGroup _ _ _ => exact hkeep.elim
  | expireReservations _ _ _ => exact hkeep.elim

theorem step_stockKeeping (h : Inv s) {call : DateTime × Request} (hkeep : call.2.StockKeeping) :
    (step env s call).reservations = s.reservations := by
  unfold step
  split
  next s' hrun => exact execute_stockKeeping h hkeep hrun
  next => rfl

end Step

/-- Every run is a sequence of moves of the stock pool. -/
theorem run_refines (env : Env) (calls : List (DateTime × Request)) :
    Refines Store.empty (run (step env) Store.empty calls) := by
  have hstep : ∀ s call, Refines Store.empty s → Refines Store.empty (step env s call) :=
    fun _ call h => h.trans (step_effect h.2 call).refines
  exact run_keeps_all hstep calls (.refl Balanced.empty)

/-- Units of the item held by its active reservations. -/
def activeQuantity (s : Store) (itemId : UUID) : Int :=
  ((s.reservations.rows.filter fun r => r.inventoryItemId = itemId ∧ r.status = .active).map
    InventoryReservation.quantity).sum

theorem held_eq_activeQuantity (s : Store) (itemId : UUID) :
    (pool s.items s.reservations).held itemId = activeQuantity s itemId := by
  show ((Multiset.filter (fun x => x.1 = itemId) (holdsOf s.reservations.toMultiset)).map
    Prod.snd).sum = _
  rw [holdsOf, Multiset.filter_map, Multiset.map_map, Multiset.filter_filter]
  show (((Multiset.filter _ (s.reservations.rows : Multiset InventoryReservation)).map _).sum) = _
  rw [Multiset.filter_coe, Multiset.map_coe, Multiset.sum_coe]
  rfl

/-- `reserved_quantity` is what the active reservations of the item hold, and
lies between zero and the stock on hand. -/
def Conserved (s : Store) : Prop :=
  ∀ item ∈ s.items, item.reservedQuantity = activeQuantity s item.id ∧
    0 ≤ item.reservedQuantity ∧ item.reservedQuantity ≤ item.onHandQuantity

/-- The counters are conserved in every state of every run. -/
theorem reservation_conservation (env : Env) (calls : List (DateTime × Request)) :
    Conserved (run (step env) Store.empty calls) := by
  intro item hitem
  obtain ⟨hsteps, h⟩ := run_refines env calls
  -- The pool of the store is sound because the empty one is.
  have hsound := Pool.Sound.empty.steps hsteps
  have hheld := h.reserved item hitem
  refine ⟨?_, ?_, ?_⟩
  · rw [← held_eq_activeQuantity]
    exact hheld
  · rw [hheld]
    exact hsound.held_nonneg item.id
  · rw [hheld, ← stockOf_of_mem hitem]
    exact hsound.covered item.id

end Inventory
end Marketplace
