import Marketplace.Orders.Effects

/-!
# Orders: what a request spares

The requests of the Order Service resolve whole groups of active reservations,
and only a payment commits any: every other request spares the reservations, in
the sense of `Spares`.  `Before` is the same kind of statement about the orders:
those with a given kind of status had it before the request.
-/

namespace Marketplace
namespace Orders

open Base
open Inventory (Inv GroupIs ClosedAll closeAs InventoryReservation)

/-! ## The reservations -/

/-- A reservation that was closed before is as it was.  What is new is in a new
group, or in one that held active reservations. -/
structure Stays (env : Inventory.Env) (s s' : Inventory.Store) : Prop where
  old : ∀ r ∈ s.reservations, r.status ≠ .active → r ∈ s'.reservations
  new : ∀ r' ∈ s'.reservations, r' ∈ s.reservations ∨ ∀ g, r'.reservationGroupId = some g →
    ¬env.uuid4.Issued s.drawn g ∨
      ∃ r ∈ s.reservations, r.status = .active ∧ r.reservationGroupId = some g

/-- And no reservation has been committed. -/
structure Spares (env : Inventory.Env) (s s' : Inventory.Store) : Prop extends Stays env s s' where
  committed : ∀ r ∈ s'.reservations, r.status = .committed → r ∈ s.reservations

section Stays

variable {env : Inventory.Env} {s t s' : Inventory.Store} {g : UUID}

theorem Spares.of_same (h : s'.reservations = s.reservations) : Spares env s s' where
  old _ hr _ := h.symm ▸ hr
  new _ hr := Or.inl (h ▸ hr)
  committed _ hr _ := h ▸ hr

theorem Stays.of_closed {target : Inventory.ReservationStatus}
    {l : List InventoryReservation} (hc : ClosedAll (closeAs target) l s s') : Stays env s s' where
  old r hr hne := by
    refine Table.mem_of_get? ((hc.other r.id fun x hx e => hne ?_).trans (Table.get?_key hr))
    have ho := hc.opened x hx
    rw [← Table.eq_of_key_eq (Table.mem_of_get? ho.1) hr e]
    exact ho.2
  new r' hr' := by
    rcases hc.mem hr' with ⟨r, hr, rfl⟩ | ⟨hr, -⟩
    · exact Or.inr fun g hg => Or.inr ⟨r, Table.mem_of_get? (hc.opened r hr).1,
        (hc.opened r hr).2, hg⟩
    · exact Or.inl hr

theorem Spares.of_closed {target : Inventory.ReservationStatus}
    {l : List InventoryReservation} (hc : ClosedAll (closeAs target) l s s')
    (ht : target ≠ .committed) : Spares env s s' where
  toStays := .of_closed hc
  committed r' hr' hcommitted := by
    rcases hc.mem hr' with ⟨r, -, rfl⟩ | ⟨hr, -⟩
    · exact absurd hcommitted ht
    · exact hr

theorem Spares.of_release (h : Inv s) (g : UUID) (reason : String) (token : Principal) :
    Spares env s (releaseGroup s g reason token).1 := by
  rcases releaseGroup_cases h g reason token with hsame | ⟨-, hc⟩
  · rw [hsame]
    exact .of_same rfl
  · exact .of_closed hc nofun

theorem Spares.of_reserved {customerId : UUID} {key : String}
    (h : Reserved env s s' customerId key g) : Spares env s s' := by
  rcases h.grown with rfl | ⟨hfresh, e, hgrown⟩
  · exact .of_same rfl
  refine ⟨⟨fun r hr _ => h.kept r hr, fun r' hr' => ?_⟩, fun r' hr' hc => ?_⟩
  · rcases hgrown r' hr' with hr | ⟨hg, -, -⟩
    · exact Or.inl hr
    · refine Or.inr fun g' hg' => Or.inl ?_
      cases hg.symm.trans hg'
      exact hfresh
  · rcases hgrown r' hr' with hr | ⟨-, ha, -⟩
    · exact hr
    · cases ha.symm.trans hc

/-- Two requests, the second of which finds what the first has made. -/
theorem Spares.trans (h : Spares env s t) (h' : Spares env t s') (hd : s.drawn ≤ t.drawn) :
    Spares env s s' where
  old r hr hne := h'.old r (h.old r hr hne) hne
  new r' hr' := by
    rcases h'.new r' hr' with hr | hgroup
    · exact h.new r' hr
    · refine Or.inr fun g hg => ?_
      rcases hgroup g hg with hni | ⟨r, hr, ha, hrg⟩
      · exact Or.inl fun hi => hni (hi.mono hd)
      · rcases h.new r hr with hold | hnew
        · exact Or.inr ⟨r, hold, ha, hrg⟩
        · exact hnew g hrg
  committed r hr hc := h.committed r (h'.committed r hr hc) hc

/-- A committed group stays committed. -/
theorem Stays.groupIs (h : Stays env s s') (hids : Inventory.Ids env s)
    (hg : GroupIs s g .committed) : GroupIs s' g .committed := by
  obtain ⟨⟨r, hr, hrg⟩, hall⟩ := hg
  have hcommitted := hall r hr hrg
  refine ⟨⟨r, h.old r hr (by rw [hcommitted]; nofun), hrg⟩, fun r' hr' hg' => ?_⟩
  rcases h.new r' hr' with hold | hnew
  · exact hall r' hold hg'
  · rcases hnew g hg' with hni | ⟨x, hx, ha, hxg⟩
    · exact absurd (hids.groups r hr g hrg) hni
    · cases ha.symm.trans (hall x hx hxg)

end Stays

section Uniform

variable {env : Inventory.Env} {s s' : Inventory.Store} {g : UUID}

theorem uniform_release (h : Inv s) (hu : Inventory.Uniform s) (g : UUID) (reason : String)
    (token : Principal) : Inventory.Uniform (releaseGroup s g reason token).1 := by
  rcases releaseGroup_cases h g reason token with hsame | ⟨-, hc⟩
  · rw [hsame]
    exact hu
  · exact (Inventory.uniform_closed_iff hu hc fun _ _ => rfl).mpr (Inventory.wholeGroups_group g)

theorem uniform_reserved (hids : Inventory.Ids env s) (hu : Inventory.Uniform s)
    {customerId : UUID} {key : String} (h : Reserved env s s' customerId key g) :
    Inventory.Uniform s' := by
  rcases h.grown with rfl | ⟨hfresh, e, hgrown⟩
  · exact hu
  intro r hr x hx hne hgroup
  rcases hgrown r hr with hr | ⟨hrg, hra, -⟩ <;> rcases hgrown x hx with hx | ⟨hxg, hxa, -⟩
  · exact hu r hr x hx hne hgroup
  · exact absurd (hids.groups r hr g (hgroup ▸ hxg)) hfresh
  · exact absurd (hids.groups x hx g (hgroup.trans hrg)) hfresh
  · rw [hra, hxa]

end Uniform

/-! ## The orders -/

/-- The orders whose status satisfies `P` satisfied it before. -/
def Before (P : OrderStatus → Prop) (s s' : Store) : Prop :=
  ∀ o' ∈ s'.orders, P o'.status → ∃ o ∈ s.orders, o.Same o' ∧ P o.status

section Before

variable {P : OrderStatus → Prop} {s s' : Store} {o o' : Order}

theorem Before.of_same (h : s'.orders = s.orders) : Before P s s' :=
  fun x hx hp => ⟨x, h ▸ hx, .refl x, hp⟩

theorem Before.of_puts (hput : s.Puts s' o') (ho : o ∈ s.orders) (hsame : o.Same o')
    (hst : P o'.status → P o.status) : Before P s s' := by
  intro x hx hp
  rcases (hput.mem ho hsame.id).mp hx with rfl | ⟨hx, -⟩
  · exact ⟨o, ho, hsame, hst hp⟩
  · exact ⟨x, hx, .refl x, hp⟩

theorem finish_before {shop : Shop} {call : Inventory.Store × Except ServiceError Unit}
    {order : Order} (h : Before P shop.orders s') :
    Before P shop.orders (finish shop call s' order).1.orders := by
  obtain ⟨inventory, _ | _⟩ := call
  · exact .of_same rfl
  · exact h

theorem finish_inventory (shop : Shop) (call : Inventory.Store × Except ServiceError Unit)
    (orders : Store) (order : Order) :
    (finish shop call orders order).1.inventory = call.1 := by
  obtain ⟨inventory, _ | _⟩ := call
  · rfl
  · rfl

end Before

/-! ## Request by request -/

section Requests

variable {env : ShopEnv} {shop : Shop} {P : OrderStatus → Prop}

theorem releaseOrder_spares (h : Inv shop.inventory) (order : Order) (reason : String)
    (token : Principal) :
    Spares env.inventory shop.inventory (releaseOrder shop.inventory order reason token).1 := by
  unfold releaseOrder
  split
  · exact .of_release h _ _ _
  · exact .of_same rfl

theorem releaseOrder_uniform (h : Inv shop.inventory) (hu : Inventory.Uniform shop.inventory)
    (order : Order) (reason : String) (token : Principal) :
    Inventory.Uniform (releaseOrder shop.inventory order reason token).1 := by
  unfold releaseOrder
  split
  · exact uniform_release h hu _ _ _
  · exact hu

theorem cancel_spares (h : Inv shop.inventory) (orderId : UUID) (data : CancelOrder)
    (principal : Principal) (version : Nat) :
    Spares env.inventory shop.inventory
      (cancel shop orderId data principal version).1.inventory := by
  unfold cancel
  split
  · exact .of_same rfl
  · rw [finish_inventory]
    exact releaseOrder_spares h _ _ _

theorem cancel_uniform (h : Inv shop.inventory) (hu : Inventory.Uniform shop.inventory)
    (orderId : UUID) (data : CancelOrder) (principal : Principal) (version : Nat) :
    Inventory.Uniform (cancel shop orderId data principal version).1.inventory := by
  unfold cancel
  split
  · exact hu
  · rw [finish_inventory]
    exact releaseOrder_uniform h hu _ _ _

theorem cancel_before (hP : ¬P .cancelled) (orderId : UUID) (data : CancelOrder)
    (principal : Principal) (version : Nat) :
    Before P shop.orders (cancel shop orderId data principal version).1.orders := by
  unfold cancel
  split
  · exact .of_same rfl
  next order hread =>
    obtain ⟨hget, -⟩ := cancelRead_eq_ok.mp hread
    have hid : order.id = orderId := Table.key_of_get? hget
    exact finish_before (.of_puts (cancelWrite_puts (hid ▸ hget) data principal)
      (Table.mem_of_get? hget) ⟨rfl, rfl, rfl, rfl, rfl⟩ fun hp => absurd hp hP)

theorem paymentFailed_spares (h : Inv shop.inventory) (orderId : UUID) (data : PaymentFailed)
    (principal : Principal) :
    Spares env.inventory shop.inventory
      (paymentFailed shop orderId data principal).1.inventory := by
  unfold paymentFailed
  split
  · exact .of_same rfl
  · exact .of_same rfl
  · rw [finish_inventory]
    exact releaseOrder_spares h _ _ _

theorem paymentFailed_uniform (h : Inv shop.inventory) (hu : Inventory.Uniform shop.inventory)
    (orderId : UUID) (data : PaymentFailed) (principal : Principal) :
    Inventory.Uniform (paymentFailed shop orderId data principal).1.inventory := by
  unfold paymentFailed
  split
  · exact hu
  · exact hu
  · rw [finish_inventory]
    exact releaseOrder_uniform h hu _ _ _

theorem paymentFailed_before (hP : ¬P .paymentFailed) (orderId : UUID) (data : PaymentFailed)
    (principal : Principal) :
    Before P shop.orders (paymentFailed shop orderId data principal).1.orders := by
  unfold paymentFailed
  split
  · exact .of_same rfl
  · exact .of_same rfl
  next order hread =>
    obtain ⟨hget, -⟩ := failRead_act.mp hread
    have hid : order.id = orderId := Table.key_of_get? hget
    exact finish_before (.of_puts (failWrite_puts (hid ▸ hget) data principal)
      (Table.mem_of_get? hget) ⟨rfl, rfl, rfl, rfl, rfl⟩ fun hp => absurd hp hP)

theorem paymentAuthorized_stays (h : Sane env shop) (now : DateTime) (orderId : UUID)
    (data : PaymentAuthorized) (principal : Principal) :
    Stays env.inventory shop.inventory
      (paymentAuthorized now shop orderId data principal).1.inventory := by
  rcases paymentAuthorized_cases h now orderId data principal with
    hsame | ⟨order, g, -, -, -, ⟨inventory, hrun, -, hi⟩ | ⟨inventory, hrun, hi⟩⟩
  · rw [hsame]
    exact (Spares.of_same rfl).toStays
  all_goals
    rw [hrun]
    rcases hi with rfl | ⟨-, hc⟩
    · exact (Spares.of_same rfl).toStays
    · exact .of_closed hc

theorem paymentAuthorized_uniform (h : Sane env shop) (hu : Inventory.Uniform shop.inventory)
    (now : DateTime) (orderId : UUID) (data : PaymentAuthorized) (principal : Principal) :
    Inventory.Uniform (paymentAuthorized now shop orderId data principal).1.inventory := by
  rcases paymentAuthorized_cases h now orderId data principal with
    hsame | ⟨order, g, -, -, -, ⟨inventory, hrun, -, hi⟩ | ⟨inventory, hrun, hi⟩⟩
  · rw [hsame]
    exact hu
  all_goals
    rw [hrun]
    rcases hi with rfl | ⟨-, hc⟩
    · exact hu
    · exact (Inventory.uniform_closed_iff hu hc fun _ _ => rfl).mpr
        (Inventory.wholeGroups_group g)

theorem paymentAuthorized_before (hP : ¬P .confirmed) (now : DateTime) (orderId : UUID)
    (data : PaymentAuthorized) (principal : Principal) :
    Before P shop.orders (paymentAuthorized now shop orderId data principal).1.orders := by
  unfold paymentAuthorized
  split
  · exact .of_same rfl
  · exact .of_same rfl
  next order hread =>
    obtain ⟨hget, -⟩ := authorizeRead_act.mp hread
    have hid : order.id = orderId := Table.key_of_get? hget
    exact finish_before (.of_puts (authorizeWrite_puts (hid ▸ hget) data principal)
      (Table.mem_of_get? hget) ⟨rfl, rfl, rfl, rfl, rfl⟩ fun hp => absurd hp hP)

theorem create_spares (h : Inv shop.inventory) (now : DateTime) (data : OrderCreate)
    (principal : Principal) (key : OrderKey) (replies : CheckoutReplies) :
    Spares env.inventory shop.inventory
      (create env now shop data principal key replies).1.inventory := by
  rcases create_cases env now h data principal key replies with
    hsame | ⟨inventory, g, hie, hres, ⟨orders, o, hrun, -⟩ | hrun⟩
  · rw [hsame]
    exact .of_same rfl
  · rw [hrun]
    exact .of_reserved hres
  · rw [hrun]
    exact (Spares.of_reserved hres).trans (.of_release hie.refines.2 _ _ _) hie.drawn

theorem create_uniform (h : Inventory.Sane env.inventory shop.inventory)
    (hu : Inventory.Uniform shop.inventory) (now : DateTime) (data : OrderCreate)
    (principal : Principal) (key : OrderKey) (replies : CheckoutReplies) :
    Inventory.Uniform (create env now shop data principal key replies).1.inventory := by
  rcases create_cases env now h.inv data principal key replies with
    hsame | ⟨inventory, g, hie, hres, ⟨orders, o, hrun, -⟩ | hrun⟩
  · rw [hsame]
    exact hu
  · rw [hrun]
    exact uniform_reserved h.ids hu hres
  · rw [hrun]
    exact uniform_release hie.refines.2 (uniform_reserved h.ids hu hres) _ _ _

theorem create_before (hP : ¬P .pendingPayment) (h : Inv shop.inventory) (now : DateTime)
    (data : OrderCreate) (principal : Principal) (key : OrderKey) (replies : CheckoutReplies) :
    Before P shop.orders (create env now shop data principal key replies).1.orders := by
  rcases create_cases env now h data principal key replies with
    hsame | ⟨inventory, g, -, -, ⟨orders, o, hrun, -, hst, -, -, hmem, -, -⟩ | hrun⟩
  · rw [hsame]
    exact .of_same rfl
  · rw [hrun]
    intro x hx hp
    rcases (hmem x).mp hx with hx | rfl
    · exact ⟨x, hx, .refl x, hp⟩
    · exact absurd (hst ▸ hp) hP
  · rw [hrun]
    exact .of_same rfl

theorem commit_inventory {α : Type} (result : Except Failure (Store × α)) :
    (shop.commit result).inventory = shop.inventory := by
  unfold Shop.commit
  split
  · rfl
  · rfl

theorem commit_before {result : Except Failure (Store × Order)}
    (hresult : ∀ s o, result = .ok (s, o) → Before P shop.orders s) :
    Before P shop.orders (shop.commit result).orders := by
  unfold Shop.commit
  split
  next s o => exact hresult s o rfl
  next => exact .of_same rfl

theorem paymentRefunded_before (orderId : UUID) (data : PaymentRefunded) :
    Before P shop.orders (shop.commit (paymentRefunded shop.orders orderId data)).orders := by
  refine commit_before fun s result hrun => ?_
  obtain ⟨o, status, hget, -, hput⟩ := paymentRefunded_ok hrun
  exact .of_puts hput (Table.mem_of_get? hget) ⟨rfl, rfl, rfl, rfl, rfl⟩ fun hp => hp

theorem fulfillment_before
    (hP : ∀ status next : OrderStatus, status.next = some next → P next → P status)
    (orderId : UUID) (data : FulfillmentUpdate) (principal : Principal) :
    Before P shop.orders (shop.commit (fulfillment shop.orders orderId data principal)).orders := by
  refine commit_before fun s result hrun => ?_
  obtain ⟨o, hget, hnext, -, hput⟩ := fulfillment_ok hrun
  exact .of_puts hput (Table.mem_of_get? hget) ⟨rfl, rfl, rfl, rfl, rfl⟩ fun hp => hP _ _ hnext hp

end Requests

end Orders
end Marketplace
