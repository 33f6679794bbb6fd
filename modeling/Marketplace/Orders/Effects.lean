import Marketplace.Orders.Calls

/-!
# Orders: what a request leaves behind

`Effect` is what every request of the two services has in common, and `Sane` the
invariant that follows for every run.  An order is tied to its reservation group
through the idempotency records of both services: they carry the same customer
and key, and no two of them in either service name the same thing.  So the group
of an order belongs to its customer, and to no other order.
-/

namespace Marketplace
namespace Orders

open Base
open Inventory (Inv GroupIs MayResolveGroup ClosedAll closeAs)

/-- The order and its reservation group were recorded under the same key of its
customer. -/
def Placed (shop : Shop) (o : Order) : Prop :=
  ∃ g key, o.reservationGroupId = some g ∧
    (∃ rec ∈ shop.orders.idempotency, rec.actorKey = (o.customerId, key) ∧
      rec.resourceId = o.id) ∧
    ∃ rec ∈ shop.inventory.idempotency, rec.key = (o.customerId, key) ∧ rec.resourceId = some g

structure Effect (env : ShopEnv) (shop shop' : Shop) : Prop where
  inventory : Inventory.Effect env.inventory shop.inventory shop'.inventory
  records : ∀ rec ∈ shop.orders.idempotency, rec ∈ shop'.orders.idempotency
  orders : ∀ o' ∈ shop'.orders.orders, o' ∈ shop.orders.orders ∨
    (∃ o ∈ shop.orders.orders, o.Next o') ∨
    (o'.status = .pendingPayment ∧ o'.paymentStatus = .pending ∧ Placed shop' o')
  kept : ∀ o ∈ shop.orders.orders, ∃ o' ∈ shop'.orders.orders, o' = o ∨ o.Next o'

section Common

variable {env : ShopEnv} {shop shop' : Shop} {inventory : Inventory.Store} {orders : Store}

/-- A request that leaves the orders alone. -/
theorem Effect.of_inventory (h : Inventory.Effect env.inventory shop.inventory inventory) :
    Effect env shop { shop with inventory := inventory } where
  inventory := h
  records _ hrec := hrec
  orders _ ho := Or.inl ho
  kept o ho := ⟨o, ho, Or.inl rfl⟩

/-- A request that changes one order. -/
theorem Effect.of_puts (h : Inventory.Effect env.inventory shop.inventory inventory) {o o' : Order}
    (ho : o ∈ shop.orders.orders) (hnext : o.Next o') (hput : shop.orders.Puts orders o') :
    Effect env shop ⟨inventory, orders⟩ where
  inventory := h
  records rec hrec := by
    show rec ∈ orders.idempotency
    rw [hput.idempotency]
    exact hrec
  orders x hx := by
    rcases (hput.mem ho hnext.same.id).mp hx with rfl | ⟨hx, -⟩
    · exact Or.inr (Or.inl ⟨o, ho, hnext⟩)
    · exact Or.inl hx
  kept x hx := by
    by_cases hid : x.id = o.id
    · cases Table.eq_of_key_eq hx ho hid
      exact ⟨o', (hput.mem ho hnext.same.id).mpr (Or.inl rfl), Or.inr hnext⟩
    · exact ⟨x, (hput.mem ho hnext.same.id).mpr (Or.inr ⟨hx, hid⟩), Or.inl rfl⟩

theorem Effect.refl (h : Inv shop.inventory) : Effect env shop shop := .of_inventory (.refl h)

theorem Placed.mono {o o' : Order} (h : Placed shop o) (hsame : o.Same o')
    (horders : ∀ rec ∈ shop.orders.idempotency, rec ∈ shop'.orders.idempotency)
    (hinventory : ∀ rec ∈ shop.inventory.idempotency, rec ∈ shop'.inventory.idempotency) :
    Placed shop' o' := by
  obtain ⟨g, key, hg, ⟨rec, hrec, hkey, hid⟩, irec, hirec, hikey, higroup⟩ := h
  refine ⟨g, key, hsame.group.trans hg, ⟨rec, horders rec hrec, ?_, ?_⟩,
    irec, hinventory irec hirec, ?_, higroup⟩
  · rw [hkey, hsame.customer]
  · rw [hid, hsame.id]
  · rw [hikey, hsame.customer]

end Common

/-! ## The invariant -/

structure Sane (env : ShopEnv) (shop : Shop) : Prop where
  inventory : Inventory.Sane env.inventory shop.inventory
  placed : ∀ o ∈ shop.orders.orders, Placed shop o
  unpaid : ∀ o ∈ shop.orders.orders, o.status = .pendingPayment → o.paymentStatus = .pending

section Sane

variable {env : ShopEnv} {shop shop' : Shop} {o o' : Order} {g : UUID}

theorem Sane.empty (env : ShopEnv) : Sane env Shop.empty where
  inventory := .empty env.inventory
  placed _ h := absurd h (Table.not_mem_empty _)
  unpaid _ h := absurd h (Table.not_mem_empty _)

theorem Sane.effect (h : Sane env shop) (he : Effect env shop shop') : Sane env shop' where
  inventory := h.inventory.effect he.inventory
  placed o' ho' := by
    rcases he.orders o' ho' with ho | ⟨o, ho, hnext⟩ | ⟨-, -, hnew⟩
    · exact (h.placed o' ho).mono (.refl o') he.records he.inventory.mono
    · exact (h.placed o ho).mono hnext.same he.records he.inventory.mono
    · exact hnew
  unpaid o' ho' hp := by
    rcases he.orders o' ho' with ho | ⟨o, ho, hnext⟩ | ⟨-, hpay, -⟩
    · exact h.unpaid o' ho hp
    · rcases hnext.status with ⟨hst, href⟩ | hmoves
      · have hpay := h.unpaid o ho (hst ▸ hp)
        rw [hpay] at href
        rcases href with h | h | h | h <;> cases h
      · exact absurd hp hmoves.ne_pending
    · exact hpay

/-- The reservations of an order's group are its customer's. -/
theorem Sane.owner (h : Sane env shop) (ho : o ∈ shop.orders.orders)
    (hg : o.reservationGroupId = some g) {r : Inventory.InventoryReservation}
    (hr : r ∈ shop.inventory.reservations) (hrg : r.reservationGroupId = some g) :
    r.customerId = o.customerId := by
  obtain ⟨g', key, hg', -, rec, hrec, hkey, hres⟩ := h.placed o ho
  cases hg.symm.trans hg'
  exact (h.inventory.ids.owned rec hrec r hr g hres hrg).trans (Prod.mk.inj hkey).1

/-- Two orders do not share a group that holds anything. -/
theorem Sane.alone (h : Sane env shop) (ho : o ∈ shop.orders.orders)
    (ho' : o' ∈ shop.orders.orders) (hg : o.reservationGroupId = some g)
    (hg' : o'.reservationGroupId = some g)
    (hmem : ∃ r ∈ shop.inventory.reservations, r.reservationGroupId = some g) : o' = o := by
  obtain ⟨r, hr, hrg⟩ := hmem
  obtain ⟨g₁, key, hg₁, ⟨rec, hrec, hkey, hid⟩, irec, hirec, hikey, hires⟩ := h.placed o ho
  obtain ⟨g₂, key', hg₂, ⟨rec', hrec', hkey', hid'⟩, irec', hirec', hikey', hires'⟩ :=
    h.placed o' ho'
  cases hg.symm.trans hg₁
  cases hg'.symm.trans hg₂
  have hsame := h.inventory.ids.alone irec hirec irec' hirec' r hr g hires hires' hrg
  have hkeys : (o'.customerId, key') = (o.customerId, key) := by
    rw [← hikey', ← hsame, hikey]
  have hrecs : rec' = rec := Table.eq_of_key_eq hrec' hrec (by rw [hkey', hkeys, hkey])
  exact Table.eq_of_key_eq ho' ho (by rw [← hid', hrecs, hid])

/-- Whoever may see an order may resolve its group. -/
theorem Sane.mayResolve (h : Sane env shop) (ho : o ∈ shop.orders.orders)
    (hg : o.reservationGroupId = some g) {principal : Principal} (hv : o.VisibleTo principal) :
    MayResolveGroup shop.inventory g principal := by
  intro r hr hrg
  have hc := h.owner ho hg hr hrg
  simp only [Inventory.canResolve, Bool.or_eq_true, beq_iff_eq]
  rcases hv with hv | hv
  · exact Or.inl (Or.inr (hc.trans hv))
  · refine Or.inl (Or.inl ?_)
    simp only [Principal.hasRole, List.any_eq_true] at hv ⊢
    obtain ⟨role, hrole, hadmin⟩ := hv
    refine ⟨role, hrole, ?_⟩
    have hadmin : role = .admin := by simpa using hadmin
    rw [hadmin]
    rfl

end Sane

/-! ## The requests that call Inventory -/

section Calls

variable {env : ShopEnv} {shop : Shop} {now : DateTime} {order : Order} {principal : Principal}

theorem releaseGroup_effect (h : Inv shop.inventory) (g : UUID) (reason : String)
    (token : Principal) :
    Inventory.Effect env.inventory shop.inventory
      (releaseGroup shop.inventory g reason token).1 := by
  rcases releaseGroup_cases h g reason token with hsame | ⟨-, hc⟩
  · rw [hsame]
    exact .refl h
  · exact hc.effect

theorem releaseOrder_effect (h : Inv shop.inventory) (order : Order) (reason : String)
    (token : Principal) :
    Inventory.Effect env.inventory shop.inventory
      (releaseOrder shop.inventory order reason token).1 := by
  unfold releaseOrder
  split
  · exact releaseGroup_effect h _ reason token
  · exact .refl h

theorem commitOrder_effect (h : Inv shop.inventory) (now : DateTime) (order : Order) :
    Inventory.Effect env.inventory shop.inventory
      (commitOrder now shop.inventory order orderService).1 := by
  unfold commitOrder
  split
  next g _ =>
    rcases commitGroup_cases h now g with ⟨t, hrun, -, rfl | ⟨-, hc⟩⟩ | ⟨t, e, hrun, rfl | ⟨-, hc⟩⟩
    all_goals rw [hrun]
    · exact .refl h
    · exact hc.effect
    · exact .refl h
    · exact hc.effect
  · exact .refl h

/-- An operation that called Inventory writes its order or raises. -/
theorem finish_effect {call : Inventory.Store × Except ServiceError Unit} {orders : Store}
    {o o' : Order} (h : Inventory.Effect env.inventory shop.inventory call.1)
    (hput : shop.orders.Puts orders o') (ho : o ∈ shop.orders.orders) (hnext : o.Next o') :
    Effect env shop (finish shop call orders order).1 := by
  obtain ⟨inventory, _ | _⟩ := call
  · exact .of_inventory h
  · exact .of_puts h ho hnext hput

theorem cancel_effect (h : Inv shop.inventory) (orderId : UUID) (data : CancelOrder)
    (principal : Principal) (version : Nat) :
    Effect env shop (cancel shop orderId data principal version).1 := by
  unfold cancel
  split
  · exact .refl h
  next order hread =>
    obtain ⟨hget, -, -, hc⟩ := cancelRead_eq_ok.mp hread
    have hid : order.id = orderId := Table.key_of_get? hget
    exact finish_effect (releaseOrder_effect h order data.reason principal)
      (cancelWrite_puts (hid ▸ hget) data principal) (Table.mem_of_get? hget)
      ⟨⟨rfl, rfl, rfl, rfl, rfl⟩, Or.inr (.cancel hc)⟩

theorem paymentAuthorized_effect (h : Inv shop.inventory) (now : DateTime) (orderId : UUID)
    (data : PaymentAuthorized) (principal : Principal) :
    Effect env shop (paymentAuthorized now shop orderId data principal).1 := by
  unfold paymentAuthorized
  split
  · exact .refl h
  · exact .refl h
  next order hread =>
    obtain ⟨hget, hp, -⟩ := authorizeRead_act.mp hread
    have hid : order.id = orderId := Table.key_of_get? hget
    exact finish_effect (commitOrder_effect h now order)
      (authorizeWrite_puts (hid ▸ hget) data principal) (Table.mem_of_get? hget)
      ⟨⟨rfl, rfl, rfl, rfl, rfl⟩, Or.inr (hp ▸ .confirm)⟩

theorem paymentFailed_effect (h : Inv shop.inventory) (orderId : UUID) (data : PaymentFailed)
    (principal : Principal) : Effect env shop (paymentFailed shop orderId data principal).1 := by
  unfold paymentFailed
  split
  · exact .refl h
  · exact .refl h
  next order hread =>
    obtain ⟨hget, hp⟩ := failRead_act.mp hread
    have hid : order.id = orderId := Table.key_of_get? hget
    exact finish_effect (releaseOrder_effect h order data.reason orderService)
      (failWrite_puts (hid ▸ hget) data principal) (Table.mem_of_get? hget)
      ⟨⟨rfl, rfl, rfl, rfl, rfl⟩, Or.inr (hp ▸ .fail)⟩

end Calls

/-- A payment callback changes nothing, commits the group and confirms the order,
or finds a group that cannot be committed. -/
theorem paymentAuthorized_cases {env : ShopEnv} {shop : Shop} (h : Sane env shop) (now : DateTime)
    (orderId : UUID) (data : PaymentAuthorized) (principal : Principal) :
    (paymentAuthorized now shop orderId data principal).1 = shop ∨
    ∃ order g, shop.orders.orders.get? orderId = some order ∧ order.status = .pendingPayment ∧
      order.reservationGroupId = some g ∧
      ((∃ inventory, (paymentAuthorized now shop orderId data principal).1 =
            ⟨inventory, authorizeWrite shop.orders order data principal⟩ ∧
          GroupIs inventory g .committed ∧ (inventory = shop.inventory ∨
            (GroupIs shop.inventory g .active ∧ ClosedAll (closeAs .committed)
              (shop.inventory.listReservationsByGroup g) shop.inventory inventory))) ∨
        ∃ inventory, (paymentAuthorized now shop orderId data principal).1 =
            { shop with inventory := inventory } ∧ (inventory = shop.inventory ∨
            (GroupIs shop.inventory g .active ∧ ClosedAll (closeAs .expired)
              (shop.inventory.listReservationsByGroup g) shop.inventory inventory))) := by
  unfold paymentAuthorized
  split
  · exact Or.inl rfl
  · exact Or.inl rfl
  next order hread =>
  obtain ⟨hget, hp, -⟩ := authorizeRead_act.mp hread
  obtain ⟨g, -, hg, -⟩ := h.placed order (Table.mem_of_get? hget)
  refine Or.inr ⟨order, g, hget, hp, hg, ?_⟩
  simp only [commitOrder, hg]
  rcases commitGroup_cases h.inventory.inv now g with
    ⟨inventory, hrun, hcommitted, hi⟩ | ⟨inventory, e, hrun, hi⟩ <;> rw [hrun]
  · exact Or.inl ⟨inventory, rfl, hcommitted, hi⟩
  · exact Or.inr ⟨inventory, rfl, hi⟩

/-! ## Checkout -/

section Checkout

variable {env : ShopEnv} {shop : Shop} {now : DateTime} {principal : Principal}

/-- What a reserved batch leaves in Inventory: a group that is recorded under the
customer and the key.  Either it was there before, or it is new and active. -/
structure Reserved (env : Inventory.Env) (inventory inventory' : Inventory.Store)
    (customerId : UUID) (key : String) (g : UUID) : Prop where
  recorded : ∃ rec ∈ inventory'.idempotency, rec.key = (customerId, key) ∧ rec.resourceId = some g
  grown : inventory' = inventory ∨ (¬env.uuid4.Issued inventory.drawn g ∧ ∃ e,
    ∀ x, x ∈ inventory'.reservations → x ∈ inventory.reservations ∨
      (x.reservationGroupId = some g ∧ x.status = .active ∧ x.expiresAt = e))
  kept : ∀ x ∈ inventory.reservations, x ∈ inventory'.reservations

theorem parse_customerId {customerId : UUID} {cart order : Option String}
    {expiresAt : Option DateTime} {lines : List (String × UUID × Int)}
    {data : Inventory.BatchReservationCreate}
    (h : Inventory.BatchReservationCreate.parse customerId cart order expiresAt lines = some data) :
    data.customerId = customerId := by
  unfold Inventory.BatchReservationCreate.parse at h
  obtain ⟨parsed, -, h⟩ := Option.bind_eq_some_iff.mp h
  split at h
  · cases h
  split at h
  · cases h
    rfl
  · cases h

theorem idempotencyHeader_key (key : OrderKey) {k : String}
    (h : Inventory.idempotencyHeader key.text = some k) :
    k = key.text ∧ givenKey (some k) = some key.text := by
  have hne : key.text ≠ "" := by
    intro he
    have hlen := key.length_valid.1
    rw [he] at hlen
    cases hlen
  simp only [Inventory.idempotencyHeader, key.trimmed] at h
  split at h
  · cases h
    refine ⟨rfl, ?_⟩
    simp only [givenKey, Option.filter, hne, ne_eq, not_false_eq_true, decide_true,
      if_true]
  · cases h

theorem createReservationBatch_cases (env : Inventory.Env) (now : DateTime)
    {inventory : Inventory.Store} (h : Inv inventory)
    (body : Option Inventory.BatchReservationCreate) (token : Principal) (key : OrderKey) :
    (∃ code, Inventory.createReservationBatch env now inventory body token key.text =
      (inventory, .refused code)) ∨
    ∃ inventory' g data, body = some data ∧
      Inventory.createReservationBatch env now inventory body token key.text =
        (inventory', .ok g) ∧
      Inventory.Effect env inventory inventory' ∧
      Reserved env inventory inventory' data.customerId key.text g := by
  unfold Inventory.createReservationBatch
  split
  swap
  · exact Or.inl ⟨_, rfl⟩
  split
  · exact Or.inl ⟨_, rfl⟩
  · exact Or.inl ⟨_, rfl⟩
  next k data hk =>
  obtain ⟨rfl, hgiven⟩ := idempotencyHeader_key key hk
  cases hrun : Inventory.createBatchReservation env now inventory data token (some key.text) with
  | error e => exact Or.inl ⟨_, rfl⟩
  | ok p =>
    obtain ⟨inventory', g, rs⟩ := p
    obtain ⟨he, hcases⟩ := Inventory.createBatchReservation_effect h hrun
    refine Or.inr ⟨inventory', g, data, rfl, rfl, he, ?_⟩
    rcases hcases with ⟨rfl, -, k, hk', rec, hrec, hkey, hres⟩ | ⟨rfl, -, ⟨e, hnew⟩, hmem, hkept⟩
    · cases hgiven.symm.trans hk'
      exact ⟨⟨rec, hrec, hkey, hres⟩, Or.inl rfl, fun x hx => hx⟩
    · refine ⟨hkept key.text hgiven, Or.inr ⟨Supply.not_issued le_rfl, e, fun x hx => ?_⟩,
        fun x hx => (hmem x).mpr (Or.inl hx)⟩
      rcases (hmem x).mp hx with hx | hx
      · exact Or.inl hx
      · exact Or.inr ⟨(hnew x hx).2.1, (hnew x hx).2.2.2, (hnew x hx).2.2.1⟩

/-- A batch is refused, or its group is reserved. -/
theorem reserveBatch_cases (env : Inventory.Env) (now : DateTime) {inventory : Inventory.Store}
    (h : Inv inventory) (data : BatchReservationRequest) (token : Principal) (key : OrderKey) :
    (∃ e, reserveBatch env now inventory data token key.text = (inventory, .error e)) ∨
    ∃ inventory' g, reserveBatch env now inventory data token key.text = (inventory', .ok g) ∧
      Inventory.Effect env inventory inventory' ∧
      Reserved env inventory inventory' data.customerId key.text g := by
  unfold reserveBatch
  rcases createReservationBatch_cases env now h data.validate token key with
    ⟨code, hrun⟩ | ⟨inventory', g, body, hbody, hrun, he, hres⟩
  · rw [hrun]
    left
    simp only
    split
    · exact ⟨_, rfl⟩
    · exact ⟨_, rfl⟩
  · rw [hrun]
    refine Or.inr ⟨inventory', g, rfl, he, ?_⟩
    rw [← parse_customerId hbody]
    exact hres

theorem storeOrder_ok {data : OrderCreate} {basket : Basket} {orderId g : UUID} {o : Order}
    (h : storeOrder env.orders now data principal basket orderId g = .ok o) :
    o.id = orderId ∧ o.customerId = principal.subject ∧ o.status = .pendingPayment ∧
      o.paymentStatus = .pending ∧ o.reservationGroupId = some g := by
  simp only [storeOrder, bind_eq_ok, pure_eq_ok] at h
  obtain ⟨_, -, _, -, _, -, _, -, _, -, rfl⟩ := h
  exact ⟨rfl, rfl, rfl, rfl, rfl⟩

/-- A stored order is new, awaits its payment and is recorded under its key. -/
theorem persist_ok {s s' : Store} {data : OrderCreate} {key : OrderKey} {basket : Basket}
    {orderId g : UUID} {o : Order}
    (h : persist env.orders now s data principal key basket orderId g = .ok (s', o)) :
    o.customerId = principal.subject ∧ o.status = .pendingPayment ∧ o.paymentStatus = .pending ∧
      o.reservationGroupId = some g ∧ (∀ x, x ∈ s'.orders ↔ x ∈ s.orders ∨ x = o) ∧
      (∀ rec ∈ s.idempotency, rec ∈ s'.idempotency) ∧
      ∃ rec ∈ s'.idempotency, rec.actorKey = (principal.subject, key.text) ∧
        rec.resourceId = o.id := by
  simp only [persist, bind_eq_ok, require_eq_ok, orRaise_eq_ok, pure_eq_ok, Prod.mk.injEq] at h
  obtain ⟨order, hstore, _, -, _, -, orders, hins, idempotency, hrec, rfl, rfl⟩ := h
  obtain ⟨-, hcustomer, hstatus, hpay, hgroup⟩ := storeOrder_ok hstore
  refine ⟨hcustomer, hstatus, hpay, hgroup, fun x => Table.mem_insert? hins, fun rec hr => ?_,
    _, (Table.mem_insert? hrec).mpr (Or.inr rfl), rfl, rfl⟩
  exact (Table.mem_insert? hrec).mpr (Or.inl hr)

/-- A checkout leaves everything as it was, leaves a reservation behind (which it
may have released again), or places an order. -/
theorem create_cases (env : ShopEnv) (now : DateTime) {shop : Shop} (h : Inv shop.inventory)
    (data : OrderCreate) (principal : Principal) (key : OrderKey) (replies : CheckoutReplies) :
    (create env now shop data principal key replies).1 = shop ∨
    ∃ inventory g, Inventory.Effect env.inventory shop.inventory inventory ∧
      Reserved env.inventory shop.inventory inventory principal.subject key.text g ∧
      ((∃ orders o, (create env now shop data principal key replies).1 = ⟨inventory, orders⟩ ∧
          o.customerId = principal.subject ∧ o.status = .pendingPayment ∧
          o.paymentStatus = .pending ∧ o.reservationGroupId = some g ∧
          (∀ x, x ∈ orders.orders ↔ x ∈ shop.orders.orders ∨ x = o) ∧
          (∀ rec ∈ shop.orders.idempotency, rec ∈ orders.idempotency) ∧
          ∃ rec ∈ orders.idempotency, rec.actorKey = (principal.subject, key.text) ∧
            rec.resourceId = o.id) ∨
        (create env now shop data principal key replies).1 =
          ⟨(releaseGroup inventory g "Order persistence failed" principal).1,
            { shop.orders with drawn := shop.orders.drawn + 1 }⟩) := by
  unfold create
  split
  · exact Or.inl rfl
  · exact Or.inl rfl
  next basket _ =>
  rcases reserveBatch_cases env.inventory now h (batchRequest env.orders now principal basket
      (env.orders.uuid4.value shop.orders.drawn)) orderService key with
    ⟨e, hrun⟩ | ⟨inventory, g, hrun, he, hres⟩
  · simp only [hrun]
    exact Or.inl trivial
  refine Or.inr ⟨inventory, g, he, hres, ?_⟩
  simp only [hrun]
  split
  next orders o hpersist =>
    obtain ⟨hc, hst, hpay, hg, hmem, hmono, hrec⟩ := persist_ok hpersist
    exact Or.inl ⟨orders, o, rfl, hc, hst, hpay, hg, hmem, hmono, hrec⟩
  next failure _ =>
    right
    rcases releaseGroup inventory g "Order persistence failed" principal with ⟨t, _ | _⟩
    · rfl
    · rfl

theorem create_effect (env : ShopEnv) (now : DateTime) {shop : Shop} (h : Inv shop.inventory)
    (data : OrderCreate) (principal : Principal) (key : OrderKey) (replies : CheckoutReplies) :
    Effect env shop (create env now shop data principal key replies).1 := by
  rcases create_cases env now h data principal key replies with
    hsame | ⟨inventory, g, he, hres, ⟨orders, o, hrun, hc, hst, hpay, hg, hmem, hmono, hrec⟩ | hrun⟩
  · rw [hsame]
    exact .refl h
  · rw [hrun]
    refine ⟨he, hmono, fun x hx => ?_, fun x hx => ⟨x, (hmem x).mpr (Or.inl hx), Or.inl rfl⟩⟩
    rcases (hmem x).mp hx with hx | rfl
    · exact Or.inl hx
    · refine Or.inr (Or.inr ⟨hst, hpay, g, key.text, hg, ?_, ?_⟩)
      · rw [hc]
        exact hrec
      · rw [hc]
        exact hres.recorded
  · rw [hrun]
    have hrelease : Inventory.Effect env.inventory shop.inventory
        (releaseGroup inventory g "Order persistence failed" principal).1 := by
      rcases releaseGroup_cases he.refines.2 g "Order persistence failed" principal with
        hsame | ⟨-, hclosed⟩
      · rw [hsame]
        exact he
      · exact he.closed hclosed
    exact ⟨hrelease, fun _ hrec => hrec, fun _ ho => Or.inl ho, fun o ho => ⟨o, ho, Or.inl rfl⟩⟩

end Checkout

theorem commit_effect {env : ShopEnv} {shop : Shop} (h : Inv shop.inventory)
    {result : Except Failure (Store × Order)}
    (hresult : ∀ s o, result = .ok (s, o) →
      ∃ row row', shop.orders.Puts s row' ∧ row ∈ shop.orders.orders ∧ row.Next row') :
    Effect env shop (shop.commit result) := by
  unfold Shop.commit
  split
  next s o =>
    obtain ⟨row, row', hput, hrow, hnext⟩ := hresult s o rfl
    exact .of_puts (.refl h) hrow hnext hput
  next => exact .refl h

theorem paymentRefunded_effect {env : ShopEnv} {shop : Shop} (h : Inv shop.inventory)
    (orderId : UUID) (data : PaymentRefunded) :
    Effect env shop (shop.commit (paymentRefunded shop.orders orderId data)) := by
  refine commit_effect h fun s result hrun => ?_
  obtain ⟨o, status, hget, href, hput⟩ := paymentRefunded_ok hrun
  exact ⟨o, _, hput, Table.mem_of_get? hget, ⟨rfl, rfl, rfl, rfl, rfl⟩, Or.inl ⟨rfl, href⟩⟩

theorem step_effect {env : ShopEnv} {shop : Shop} (h : Inv shop.inventory)
    (call : DateTime × Request) : Effect env shop (step env shop call) := by
  obtain ⟨now, req⟩ := call
  cases req with
  | inventory request => exact .of_inventory (Inventory.step_effect h (now, request))
  | checkout data principal key replies => exact create_effect env now h data principal key replies
  | cancel orderId data principal version => exact cancel_effect h orderId data principal version
  | paymentAuthorized orderId data principal =>
    exact paymentAuthorized_effect h now orderId data principal
  | paymentFailed orderId data principal => exact paymentFailed_effect h orderId data principal
  | paymentRefunded orderId data principal => exact paymentRefunded_effect h orderId data
  | fulfillment orderId data principal =>
    refine commit_effect h fun s result hrun => ?_
    obtain ⟨o, hget, hnext, -, hput⟩ := fulfillment_ok hrun
    exact ⟨o, _, hput, Table.mem_of_get? hget, ⟨rfl, rfl, rfl, rfl, rfl⟩, Or.inr (.fulfill hnext)⟩

theorem Sane.step {env : ShopEnv} {shop : Shop} (h : Sane env shop) (call : DateTime × Request) :
    Sane env (step env shop call) := h.effect (step_effect h.inventory.inv call)

theorem run_sane (env : ShopEnv) (calls : List (DateTime × Request)) :
    Sane env (run (step env) Shop.empty calls) :=
  run_keeps_all (fun _ call h => h.step call) calls (.empty env)

end Orders
end Marketplace
