import Marketplace.Inventory.Trail

/-!
# Inventory: the movements explain the stock

The movements are a journal of the two counters.  Replaying them gives every
item's counters, and every row of the journal shows what replaying it up to
there gives.  So the units on hand are the units that came in, less the units of
committed reservations.
-/

namespace Marketplace
namespace Inventory

open Base

/-- What the movements `ms` did to the stock on hand of an item. -/
def onHandChange (ms : List InventoryMovement) (i : UUID) : Int :=
  total InventoryMovement.inventoryItemId InventoryMovement.onHandDelta ms i

/-- What the movements `ms` did to the reserved count of an item. -/
def reservedChange (ms : List InventoryMovement) (i : UUID) : Int :=
  total InventoryMovement.inventoryItemId InventoryMovement.reservedDelta ms i

/-- The units of an item that receipts and adjustments brought in. -/
def receivedQuantity (ms : List InventoryMovement) (i : UUID) : Int :=
  total InventoryMovement.inventoryItemId InventoryMovement.received ms i

/-- Both counters of every item are the sums of its movements, and every movement
shows the sums so far. -/
def Journalled (s : Store) : Prop :=
  (∀ item ∈ s.items, item.onHandQuantity = onHandChange s.movements item.id ∧
    item.reservedQuantity = reservedChange s.movements item.id) ∧
  ∀ past m later, s.movements = past ++ m :: later →
    m.resultingOnHand = onHandChange (past ++ [m]) m.inventoryItemId ∧
      m.resultingReserved = reservedChange (past ++ [m]) m.inventoryItemId

structure Explained (s : Store) : Prop where
  journal : movementJournal.Explains s.movements (balanceOf s.items)
  accounted : ∀ m ∈ s.movements, m.Accounted
  sold : ∀ k, soldOf s.reservations.toMultiset k =
    total InventoryMovement.inventoryItemId InventoryMovement.sold s.movements k

theorem Explained.empty : Explained Store.empty where
  journal := Journal.Explains.nil movementJournal
  accounted _ hm := absurd hm List.not_mem_nil
  sold _ := rfl

section Step

variable {s s' : Store} {ms : List InventoryMovement}

theorem Explained.posts (h : Explained s) (hp : Posts ms s s') : Explained s' where
  journal := by
    rw [hp.movements]
    exact h.journal.extend hp.nodup hp.posted hp.quiet
  accounted m hm := by
    rw [hp.movements] at hm
    exact (List.mem_append.mp hm).elim (h.accounted m) (hp.accounted m)
  sold k := by rw [hp.movements, total_append, ← h.sold, hp.sold]

theorem Explained.trail (h : Explained s) (ht : Trail s s') : Explained s' := by
  induction ht with
  | refl => exact h
  | tail _ hstep ih =>
    obtain ⟨ms, hp⟩ := hstep
    exact ih.posts hp

theorem Trail.appends (ht : Trail s s') : s.movements <+: s'.movements := by
  induction ht with
  | refl => exact List.prefix_refl _
  | tail _ hstep ih =>
    obtain ⟨ms, hp⟩ := hstep
    rw [hp.movements]
    exact ih.trans (List.prefix_append _ _)

/-- The first counter of a total. -/
theorem fst_total (ms : List InventoryMovement) (i : UUID) :
    (total InventoryMovement.inventoryItemId InventoryMovement.change ms i).1 = onHandChange ms i :=
  map_total (AddMonoidHom.fst ℤ ℤ) ms i

theorem snd_total (ms : List InventoryMovement) (i : UUID) :
    (total InventoryMovement.inventoryItemId InventoryMovement.change ms i).2 =
      reservedChange ms i :=
  map_total (AddMonoidHom.snd ℤ ℤ) ms i

theorem Explained.journalled (h : Explained s) : Journalled s := by
  refine ⟨fun item hitem => ?_, fun past m later hsplit => ?_⟩
  · have hbalance := h.journal.balances item.id
    rw [balanceOf_of_get? (Table.get?_key hitem)] at hbalance
    exact ⟨(congrArg Prod.fst hbalance).trans (fst_total _ _),
      (congrArg Prod.snd hbalance).trans (snd_total _ _)⟩
  · have hresult := h.journal.running past m later hsplit
    exact ⟨(congrArg Prod.fst hresult).trans (fst_total _ _),
      (congrArg Prod.snd hresult).trans (snd_total _ _)⟩

/-- The stock moves by what comes in and what is sold. -/
theorem Explained.onHand (h : Explained s) {item : InventoryItem} (hitem : item ∈ s.items) :
    item.onHandQuantity = receivedQuantity s.movements item.id -
      soldOf s.reservations.toMultiset item.id := by
  have hparts : ∀ l : List InventoryMovement, (∀ m ∈ l, m.Accounted) →
      (l.map InventoryMovement.onHandDelta).sum =
        (l.map InventoryMovement.received).sum - (l.map InventoryMovement.sold).sum := by
    intro l
    induction l with
    | nil => exact fun _ => rfl
    | cons m rest ih =>
      intro hall
      have hm : m.onHandDelta = m.received - m.sold := hall m List.mem_cons_self
      have hrest := ih fun x hx => hall x (List.mem_cons_of_mem m hx)
      simp only [List.map_cons, List.sum_cons]
      omega
  rw [(h.journalled.1 item hitem).1, h.sold]
  exact hparts _ fun m hm => h.accounted m (List.mem_of_mem_filter hm)

end Step

theorem run_explained (env : Env) (calls : List (DateTime × Request)) :
    Explained (run (step env) Store.empty calls) := by
  have hstep : ∀ s call, (Inv s ∧ Explained s) → Inv (step env s call) ∧ Explained (step env s call) :=
    fun s call h => ⟨(step_effect h.1 call).refines.2, h.2.trail (step_trail h.1 call)⟩
  exact (run_keeps_all hstep calls ⟨Balanced.empty, Explained.empty⟩).2

/-- In every state of every run the movements explain the counters, and what has
been written to the journal stays there. -/
theorem movements_explain (env : Env) (calls more : List (DateTime × Request)) :
    Journalled (run (step env) Store.empty calls) ∧
      (run (step env) Store.empty calls).movements <+:
        (run (step env) Store.empty (calls ++ more)).movements := by
  refine ⟨(run_explained env calls).journalled, ?_⟩
  have hstep : ∀ s call, Inv s ∧ (run (step env) Store.empty calls).movements <+: s.movements →
      Inv (step env s call) ∧
        (run (step env) Store.empty calls).movements <+: (step env s call).movements :=
    fun s call h => ⟨(step_effect h.1 call).refines.2, h.2.trans (step_trail h.1 call).appends⟩
  rw [run_append]
  exact (run_keeps_all hstep more ⟨(run_refines env calls).2, List.prefix_refl _⟩).2

/-- The units of an item on hand are those received, less those of its committed
reservations. -/
def StockAccounted (s : Store) : Prop :=
  ∀ item ∈ s.items, item.onHandQuantity =
    receivedQuantity s.movements item.id - soldOf s.reservations.toMultiset item.id

/-- In every state of every run the stock is accounted for. -/
theorem stock_accounted (env : Env) (calls : List (DateTime × Request)) :
    StockAccounted (run (step env) Store.empty calls) :=
  fun _ hitem => (run_explained env calls).onHand hitem

end Inventory
end Marketplace
