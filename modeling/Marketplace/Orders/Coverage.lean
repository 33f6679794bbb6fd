import Marketplace.Inventory.Records
import Marketplace.Orders.Audit
import Marketplace.Orders.Cancelled

/-!
# Orders: what an order has reserved

Whatever the two services do, Inventory by itself makes a run: a request of the
Order Service reaches it as requests of its own.  So what holds of Inventory in
every run holds of it here, and the reservation group of an order can be followed
through all that happens to it.  It holds what the order asks for, to the unit,
and once the order is confirmed it is committed for good.
-/

namespace Marketplace
namespace Orders

open Base
open Inventory (GroupIs Known Described Holding orderedOf)

/-! ## Inventory inside the shop -/

/-- The batch a request asks Inventory for. -/
def batchOf (env : ShopEnv) (shop : Shop) (call : DateTime × Request) :
    Option Inventory.BatchReservationCreate :=
  match call.2 with
  | .inventory request => request.batch
  | .checkout data principal key replies =>
    match gather env.orders shop.orders data principal key replies with
    | .ok (.inr basket) =>
      (batchRequest env.orders call.1 principal basket
        (env.orders.uuid4.value shop.orders.drawn)).validate
    | _ => none
  | _ => none

/-- The batches Inventory is asked for in a run of the shop. -/
def batchesOf (env : ShopEnv) (calls : List (DateTime × Request)) :
    List Inventory.BatchReservationCreate :=
  sent (step env) (batchOf env) Shop.empty calls

/-- Requests of Inventory lead from one store to the other, and no batch is among
them but the given one. -/
def InventoryRuns (env : ShopEnv) (batch : Option Inventory.BatchReservationCreate)
    (inventory inventory' : Inventory.Store) : Prop :=
  ∃ calls : List (DateTime × Inventory.Request),
    (∀ call ∈ calls, ∀ data ∈ call.2.batch, data ∈ batch) ∧
      inventory' = run (Inventory.step env.inventory) inventory calls

section Inside

variable {env : ShopEnv} {now : DateTime} {inventory : Inventory.Store} {shop : Shop}
  {batch : Option Inventory.BatchReservationCreate}

theorem InventoryRuns.refl (env : ShopEnv) (batch : Option Inventory.BatchReservationCreate)
    (inventory : Inventory.Store) : InventoryRuns env batch inventory inventory :=
  ⟨[], List.forall_mem_nil _, rfl⟩

theorem InventoryRuns.trans {inventory' inventory'' : Inventory.Store}
    (h : InventoryRuns env batch inventory inventory')
    (h' : InventoryRuns env batch inventory' inventory'') :
    InventoryRuns env batch inventory inventory'' := by
  obtain ⟨calls, hcalls, rfl⟩ := h
  obtain ⟨calls', hcalls', rfl⟩ := h'
  refine ⟨calls ++ calls', fun call hcall => ?_, (run_append inventory calls calls').symm⟩
  exact (List.mem_append.mp hcall).elim (hcalls call) (hcalls' call)

theorem InventoryRuns.single {call : DateTime × Inventory.Request} {inventory' : Inventory.Store}
    (h : Inventory.execute env.inventory call.1 inventory call.2 = .ok inventory')
    (hbatch : ∀ data ∈ call.2.batch, data ∈ batch) :
    InventoryRuns env batch inventory inventory' := by
  refine ⟨[call], fun call' hcall' => ?_, (Inventory.step_of_ok h).symm⟩
  rw [List.mem_singleton.mp hcall']
  exact hbatch

theorem releaseGroup_run (env : ShopEnv) (batch : Option Inventory.BatchReservationCreate)
    (inventory : Inventory.Store) (g : UUID) (reason : String) (token : Principal) :
    InventoryRuns env batch inventory (releaseGroup inventory g reason token).1 := by
  unfold releaseGroup Inventory.releaseReservationBatch
  by_cases hreason : reason.length ≤ 2000
  · rw [if_pos hreason]
    cases hrun : Inventory.releaseReservationGroup inventory g .customerCancelled (some reason)
        token with
    | error e =>
      simp only [error_bind, Inventory.respond]
      split <;> exact .refl env batch inventory
    | ok p =>
      have hnote : ∀ n ∈ some reason, n.length ≤ 2000 := fun n hn => Option.some.inj hn ▸ hreason
      exact @InventoryRuns.single env inventory batch
        (0, .releaseReservationGroup g ⟨.customerCancelled, some reason, hnote⟩ token) p.1
        (by simp only [Inventory.execute, hrun]; rfl)
        fun data hdata => (Option.not_mem_none data hdata).elim
  · rw [if_neg hreason]
    exact .refl env batch inventory

theorem commitGroup_run (env : ShopEnv) (batch : Option Inventory.BatchReservationCreate)
    (now : DateTime) (inventory : Inventory.Store) (g : UUID) (token : Principal) :
    InventoryRuns env batch inventory (commitGroup now inventory g token).1 := by
  unfold commitGroup Inventory.commitReservationBatch
  cases hrun : Inventory.commitReservationGroup now inventory g token with
  | error e => exact .refl env batch inventory
  | ok p =>
    obtain ⟨inventory', a⟩ := p
    have hstep := @InventoryRuns.single env inventory batch
      (now, .commitReservationGroup g token) inventory'
      (by simp only [Inventory.execute, hrun]; rfl)
      fun data hdata => (Option.not_mem_none data hdata).elim
    cases a with
    | error e => exact hstep
    | ok a => exact hstep

/-- A batch is refused, or Inventory has made it. -/
theorem reserveBatch_made (env : Inventory.Env) (now : DateTime) (inventory : Inventory.Store)
    (data : BatchReservationRequest) (token : Principal) (key : String) :
    (∃ e, reserveBatch env now inventory data token key = (inventory, .error e)) ∨
    ∃ body k inventory' g rs, data.validate = some body ∧
      Inventory.createBatchReservation env now inventory body token (some k) =
        .ok (inventory', g, rs) ∧
      reserveBatch env now inventory data token key = (inventory', .ok g) := by
  have hrefused : ∀ code, Inventory.createReservationBatch env now inventory data.validate token
      key = (inventory, .refused code) →
      ∃ e, reserveBatch env now inventory data token key = (inventory, .error e) := by
    intro code hcode
    unfold reserveBatch
    rw [hcode]
    simp only
    split
    · exact ⟨_, rfl⟩
    · exact ⟨_, rfl⟩
  unfold Inventory.createReservationBatch at hrefused
  split at hrefused
  swap
  · exact Or.inl (hrefused _ rfl)
  next hscope =>
  split at hrefused
  · exact Or.inl (hrefused _ rfl)
  · exact Or.inl (hrefused _ rfl)
  next k body hk hbody =>
  cases hrun : Inventory.createBatchReservation env now inventory body token (some k) with
  | error e =>
    rw [hrun] at hrefused
    exact Or.inl (hrefused _ rfl)
  | ok p =>
    obtain ⟨inventory', g, rs⟩ := p
    have hcode : Inventory.createReservationBatch env now inventory data.validate token key =
        (inventory', .ok g) := by
      unfold Inventory.createReservationBatch
      rw [if_pos hscope, hk, hbody]
      simp only [hrun, ok_bind]
      rfl
    refine Or.inr ⟨body, k, inventory', g, rs, hbody, hrun, ?_⟩
    rw [reserveBatch, hcode]

/-- All that a checkout can leave behind. -/
theorem create_reserves (env : ShopEnv) (now : DateTime) (shop : Shop) (data : OrderCreate)
    (principal : Principal) (key : OrderKey) (replies : CheckoutReplies) :
    (create env now shop data principal key replies).1 = shop ∨
    ∃ basket body k inventory g rs,
      body ∈ batchOf env shop (now, .checkout data principal key replies) ∧
      (batchRequest env.orders now principal basket
        (env.orders.uuid4.value shop.orders.drawn)).validate = some body ∧
      Inventory.createBatchReservation env.inventory now shop.inventory body orderService (some k) =
        .ok (inventory, g, rs) ∧
      ((∃ orders o, (create env now shop data principal key replies).1 = ⟨inventory, orders⟩ ∧
          persist env.orders now shop.orders data principal key basket
            (env.orders.uuid4.value shop.orders.drawn) g = .ok (orders, o)) ∨
        (create env now shop data principal key replies).1 =
          ⟨(releaseGroup inventory g "Order persistence failed" principal).1,
            { shop.orders with drawn := shop.orders.drawn + 1 }⟩) := by
  unfold create
  split
  · exact Or.inl rfl
  · exact Or.inl rfl
  next basket hgather =>
  rcases reserveBatch_made env.inventory now shop.inventory (batchRequest env.orders now principal
      basket (env.orders.uuid4.value shop.orders.drawn)) orderService key.text with
    ⟨e, hrun⟩ | ⟨body, k, inventory, g, rs, hbody, hmade, hrun⟩
  · simp only [hrun]
    exact Or.inl trivial
  have hsent : body ∈ batchOf env shop (now, .checkout data principal key replies) := by
    simp only [batchOf, hgather]
    exact hbody
  refine Or.inr ⟨basket, body, k, inventory, g, rs, hsent, hbody, hmade, ?_⟩
  simp only [hrun]
  split
  next orders o hpersist => exact Or.inl ⟨orders, o, rfl, hpersist⟩
  next =>
    right
    rcases releaseGroup inventory g "Order persistence failed" principal with ⟨t, _ | _⟩
    · rfl
    · rfl

theorem releaseOrder_run (env : ShopEnv) (batch : Option Inventory.BatchReservationCreate)
    (inventory : Inventory.Store) (order : Order) (reason : String) (token : Principal) :
    InventoryRuns env batch inventory (releaseOrder inventory order reason token).1 := by
  unfold releaseOrder
  split
  · exact releaseGroup_run env batch inventory _ reason token
  · exact .refl env batch inventory

theorem commitOrder_run (env : ShopEnv) (batch : Option Inventory.BatchReservationCreate)
    (now : DateTime) (inventory : Inventory.Store) (order : Order) (token : Principal) :
    InventoryRuns env batch inventory (commitOrder now inventory order token).1 := by
  unfold commitOrder
  split
  · exact commitGroup_run env batch now inventory _ token
  · exact .refl env batch inventory

theorem create_run (env : ShopEnv) (now : DateTime) (shop : Shop) (data : OrderCreate)
    (principal : Principal) (key : OrderKey) (replies : CheckoutReplies) :
    InventoryRuns env (batchOf env shop (now, .checkout data principal key replies))
      shop.inventory (create env now shop data principal key replies).1.inventory := by
  rcases create_reserves env now shop data principal key replies with
    hsame | ⟨basket, body, k, inventory, g, rs, hsent, -, hmade, ⟨orders, o, hrun, -⟩ | hrun⟩
  · rw [hsame]
    exact InventoryRuns.refl env _ _
  all_goals
    rw [hrun]
    have hreserved := @InventoryRuns.single env shop.inventory
      (batchOf env shop (now, .checkout data principal key replies))
      (now, .createBatchReservation body orderService (some k)) inventory
      (by simp only [Inventory.execute, hmade]; rfl)
      (fun data hdata => Option.some.inj hdata ▸ hsent)
  · exact hreserved
  · exact hreserved.trans
      (releaseGroup_run env _ inventory g "Order persistence failed" principal)

/-- A request of the shop is a run of Inventory. -/
theorem inventory_inside (env : ShopEnv) :
    Inside (step env) Shop.inventory (Inventory.step env.inventory)
      fun shop call a => ∀ data ∈ a.2.batch, data ∈ batchOf env shop call := by
  rintro shop ⟨now, req⟩
  cases req with
  | inventory request =>
    refine ⟨[(now, request)], fun a ha => ?_, rfl⟩
    rw [List.mem_singleton.mp ha]
    exact fun data hdata => hdata
  | checkout data principal key replies => exact create_run env now shop data principal key replies
  | cancel orderId data principal version =>
    simp only [step, cancel]
    split
    · exact InventoryRuns.refl env _ _
    · rw [finish_inventory]
      exact releaseOrder_run env _ _ _ _ _
  | paymentAuthorized orderId data principal =>
    simp only [step, paymentAuthorized]
    split
    · exact InventoryRuns.refl env _ _
    · exact InventoryRuns.refl env _ _
    · rw [finish_inventory]
      exact commitOrder_run env _ now _ _ _
  | paymentFailed orderId data principal =>
    simp only [step, paymentFailed]
    split
    · exact InventoryRuns.refl env _ _
    · exact InventoryRuns.refl env _ _
    · rw [finish_inventory]
      exact releaseOrder_run env _ _ _ _ _
  | paymentRefunded orderId data principal => exact ⟨[], List.forall_mem_nil _, commit_inventory _⟩
  | fulfillment orderId data principal => exact ⟨[], List.forall_mem_nil _, commit_inventory _⟩

end Inside

/-! ## What an order asks for -/

/-- The units an order asks for of a seller's SKU. -/
def Order.ordered (o : Order) (pair : UUID × String) : Int :=
  total (fun i => (i.sellerId, Inventory.normalizeUpper i.sku)) OrderItem.quantity o.items pair

theorem parse_line {sku : String} {seller : UUID} {quantity : Int}
    {line : Inventory.BatchReservationLine}
    (h : Inventory.BatchReservationLine.parse sku seller quantity = some line) :
    line.pair = (seller, Inventory.normalizeUpper sku) ∧ line.quantity = quantity := by
  unfold Inventory.BatchReservationLine.parse at h
  obtain ⟨parsed, hparsed, hline⟩ := Option.bind_eq_some_iff.mp h
  have htext : parsed.val = Inventory.normalizeUpper sku := by
    unfold Inventory.Sku.parse at hparsed
    dsimp only at hparsed
    split at hparsed
    · rw [← Option.some.inj hparsed]
    · cases hparsed
  split at hline
  · rw [← Option.some.inj hline, Inventory.BatchReservationLine.pair]
    exact ⟨congrArg (Prod.mk seller) htext, rfl⟩
  · cases hline

theorem parse_lines {customerId : UUID} {cart order : Option String} {expiresAt : Option DateTime}
    {lines : List (String × UUID × Int)} {body : Inventory.BatchReservationCreate}
    (h : Inventory.BatchReservationCreate.parse customerId cart order expiresAt lines = some body) :
    body.lines.map (fun line => (line.pair, line.quantity)) =
      lines.map fun line => ((line.2.1, Inventory.normalizeUpper line.1), line.2.2) := by
  unfold Inventory.BatchReservationCreate.parse at h
  obtain ⟨parsed, hparsed, h⟩ := Option.bind_eq_some_iff.mp h
  have hlines : body.lines = parsed := by
    split at h
    · cases h
    split at h
    · cases h
      rfl
    · cases h
  rw [hlines]
  refine mapM_reads_option (fun line parsed hline => ?_) hparsed
  obtain ⟨hpair, hquantity⟩ := parse_line hline
  rw [hpair, hquantity]

theorem storeItem_ok {item : CartItemSnapshot} {seller : UUID} {i : OrderItem}
    (h : storeItem item seller = .ok i) :
    i.sellerId = seller ∧ i.sku = item.sku ∧ i.quantity = item.quantity := by
  simp only [storeItem, bind_eq_ok, textColumn_eq_ok, integerColumn_eq_ok, pure_eq_ok] at h
  obtain ⟨_, ⟨rfl, -⟩, _, -, _, -, _, ⟨rfl, -⟩, _, -, _, -, _, -, rfl⟩ := h
  exact ⟨rfl, rfl, rfl⟩

/-- A stored order asks for what the batch reserves. -/
theorem storeOrder_ordered {env : ShopEnv} {now : DateTime} {data : OrderCreate}
    {principal : Principal} {basket : Basket} {orderId orderId' g : UUID} {o : Order}
    {body : Inventory.BatchReservationCreate}
    (hbody : (batchRequest env.orders now principal basket orderId').validate = some body)
    (h : storeOrder env.orders now data principal basket orderId g = .ok o)
    (pair : UUID × String) : o.ordered pair = orderedOf body.lines pair := by
  simp only [storeOrder, bind_eq_ok, pure_eq_ok] at h
  obtain ⟨_, -, _, -, _, -, _, -, items, hitems, rfl⟩ := h
  refine total_congr ?_ pair
  have hstored := mapM_reads
    (p := fun entry : CartItemSnapshot × UUID =>
      ((entry.2, Inventory.normalizeUpper entry.1.sku), entry.1.quantity))
    (q := fun i : OrderItem => ((i.sellerId, Inventory.normalizeUpper i.sku), i.quantity))
    (fun entry i hi => ?_) hitems
  · have hasked := parse_lines hbody
    rw [batchRequest, List.map_map] at hasked
    exact hstored.trans hasked.symm
  · obtain ⟨hseller, hsku, hquantity⟩ := storeItem_ok hi
    rw [hseller, hsku, hquantity]

/-! ## Orders that are not new -/

/-- The orders are those there were, with columns changed that no order is placed
with. -/
def Rewrites (s s' : Store) : Prop := ∀ o' ∈ s'.orders, ∃ o ∈ s.orders, o'.placed = o.placed

section Rewrites

variable {shop : Shop} {s s' : Store} {now : DateTime}

theorem Rewrites.of_same (h : s'.orders = s.orders) : Rewrites s s' :=
  fun o ho => ⟨o, h ▸ ho, rfl⟩

theorem Rewrites.of_puts {o o' : Order} (ho : s.orders.get? o.id = some o) (h : s.Puts s' o')
    (horigin : o'.placed = o.placed) : Rewrites s s' := by
  intro x hx
  have hid : o'.placed.id = o.placed.id := congrArg Order.id horigin
  rcases (h.mem (Table.mem_of_get? ho) hid).mp hx with rfl | ⟨hx, -⟩
  · exact ⟨o, Table.mem_of_get? ho, horigin⟩
  · exact ⟨x, hx, rfl⟩

theorem finish_rewrites {call : Inventory.Store × Except ServiceError Unit} {order : Order}
    (h : Rewrites shop.orders s') : Rewrites shop.orders (finish shop call s' order).1.orders := by
  obtain ⟨inventory, _ | _⟩ := call
  · exact .of_same rfl
  · exact h

theorem commit_rewrites {result : Except Failure (Store × Order)}
    (h : ∀ t o, result = .ok (t, o) → Rewrites shop.orders t) :
    Rewrites shop.orders (shop.commit result).orders := by
  unfold Shop.commit
  split
  next t o => exact h t o rfl
  next => exact .of_same rfl

theorem cancel_rewrites (shop : Shop) (orderId : UUID) (data : CancelOrder) (principal : Principal)
    (version : Nat) :
    Rewrites shop.orders (cancel shop orderId data principal version).1.orders := by
  unfold cancel
  split
  · exact .of_same rfl
  next order hread =>
    obtain ⟨hget, -⟩ := cancelRead_eq_ok.mp hread
    obtain rfl : order.id = orderId := Table.key_of_get? hget
    exact finish_rewrites (.of_puts hget (cancelWrite_puts hget data principal) rfl)

theorem paymentAuthorized_rewrites (now : DateTime) (shop : Shop) (orderId : UUID)
    (data : PaymentAuthorized) (principal : Principal) :
    Rewrites shop.orders (paymentAuthorized now shop orderId data principal).1.orders := by
  unfold paymentAuthorized
  split
  · exact .of_same rfl
  · exact .of_same rfl
  next order hread =>
    obtain ⟨hget, -⟩ := authorizeRead_act.mp hread
    obtain rfl : order.id = orderId := Table.key_of_get? hget
    exact finish_rewrites (.of_puts hget (authorizeWrite_puts hget data principal) rfl)

theorem paymentFailed_rewrites (shop : Shop) (orderId : UUID) (data : PaymentFailed)
    (principal : Principal) :
    Rewrites shop.orders (paymentFailed shop orderId data principal).1.orders := by
  unfold paymentFailed
  split
  · exact .of_same rfl
  · exact .of_same rfl
  next order hread =>
    obtain ⟨hget, -⟩ := failRead_act.mp hread
    obtain rfl : order.id = orderId := Table.key_of_get? hget
    exact finish_rewrites (.of_puts hget (failWrite_puts hget data principal) rfl)

def Request.IsCheckout : Request → Prop
  | .checkout _ _ _ _ => True
  | _ => False

/-- Only a checkout makes orders. -/
theorem step_rewrites (env : ShopEnv) (shop : Shop) (call : DateTime × Request)
    (hcheckout : ¬call.2.IsCheckout) :
    Rewrites shop.orders (step env shop call).orders := by
  obtain ⟨now, req⟩ := call
  cases req with
  | inventory request => exact .of_same rfl
  | checkout data principal key replies => exact absurd trivial hcheckout
  | cancel orderId data principal version => exact cancel_rewrites shop orderId data principal version
  | paymentAuthorized orderId data principal =>
    exact paymentAuthorized_rewrites now shop orderId data principal
  | paymentFailed orderId data principal => exact paymentFailed_rewrites shop orderId data principal
  | paymentRefunded orderId data principal =>
    refine commit_rewrites fun t o hrun => ?_
    obtain ⟨o, status, hget, -, hput⟩ := paymentRefunded_ok hrun
    obtain rfl : o.id = orderId := Table.key_of_get? hget
    exact .of_puts hget hput rfl
  | fulfillment orderId data principal =>
    refine commit_rewrites fun t o hrun => ?_
    obtain ⟨o, hget, -, -, hput⟩ := fulfillment_ok hrun
    obtain rfl : o.id = orderId := Table.key_of_get? hget
    exact .of_puts hget hput rfl

end Rewrites

/-- Nothing but an authorised payment has an order fulfilled. -/
theorem step_before {env : ShopEnv} {shop : Shop} (h : Inventory.Inv shop.inventory)
    (call : DateTime × Request)
    (hnot : ∀ k data principal, call.2 ≠ .paymentAuthorized k data principal) :
    Before OrderStatus.Fulfilling shop.orders (step env shop call).orders := by
  obtain ⟨now, req⟩ := call
  have hunfilled : ∀ status : OrderStatus, status = .cancelled ∨ status = .pendingPayment ∨
      status = .paymentFailed → ¬status.Fulfilling := by
    rintro _ (rfl | rfl | rfl) (hf | hf | hf | hf) <;> cases hf
  cases req with
  | inventory request => exact .of_same rfl
  | checkout data principal key replies =>
    exact create_before (hunfilled _ (by simp)) h now data principal key replies
  | cancel orderId data principal version =>
    exact cancel_before (hunfilled _ (by simp)) orderId data principal version
  | paymentAuthorized orderId data principal => exact absurd rfl (hnot orderId data principal)
  | paymentFailed orderId data principal =>
    exact paymentFailed_before (hunfilled _ (by simp)) orderId data principal
  | paymentRefunded orderId data principal => exact paymentRefunded_before orderId data
  | fulfillment orderId data principal =>
    exact fulfillment_before (fun _ _ => OrderStatus.fulfilling_of_next) orderId data principal

/-- An order that is being fulfilled was so before, or its group is committed now. -/
theorem step_fulfills {env : ShopEnv} {shop : Shop} (h : Sane env shop)
    (call : DateTime × Request) : FulfillsSold shop (step env shop call) := by
  have hbefore : ∀ {shop'}, Before OrderStatus.Fulfilling shop.orders shop'.orders →
      FulfillsSold shop shop' := fun hb o' ho' hf => Or.inl (hb o' ho' hf)
  by_cases hpay : ∃ k data principal, call.2 = .paymentAuthorized k data principal
  · obtain ⟨now, req⟩ := call
    obtain ⟨orderId, data, principal, rfl⟩ := hpay
    show FulfillsSold shop (paymentAuthorized now shop orderId data principal).1
    rcases paymentAuthorized_cases h now orderId data principal with
      hsame | ⟨order, g, hget, -, hg, ⟨inventory, hrun, hcommitted, -⟩ | ⟨inventory, hrun, -⟩⟩
    · exact hbefore (.of_same (by rw [hsame]))
    · rw [hrun]
      intro x hx hf
      have hid : order.id = orderId := Table.key_of_get? hget
      have hput := authorizeWrite_puts (hid ▸ hget) data principal
      rcases (hput.mem (Table.mem_of_get? hget) rfl).mp hx with rfl | ⟨hx, -⟩
      · refine Or.inr fun g' hg' => ?_
        cases hg.symm.trans hg'
        exact hcommitted
      · exact Or.inl ⟨x, hx, .refl x, hf⟩
    · exact hbefore (.of_same (by rw [hrun]))
  · exact hbefore (step_before h.inventory.inv call fun k data principal hcall =>
      hpay ⟨k, data, principal, hcall⟩)

/-! ## Orders on their way -/

/-- The order has left the hands of the Order Service. -/
def Dispatched (status : OrderStatus) : Prop :=
  status = .processing ∨ status = .shipped ∨ status = .delivered

theorem next_dispatched {status next : OrderStatus} (h : status.next = some next) :
    Dispatched next ∧ next ≠ status := by
  cases status <;> cases h
  · exact ⟨Or.inl rfl, nofun⟩
  · exact ⟨Or.inr (Or.inl rfl), nofun⟩
  · exact ⟨Or.inr (Or.inr rfl), nofun⟩

theorem moves_dispatched {status next : OrderStatus} (hd : Dispatched status)
    (h : status.Moves next) : status.next = some next := by
  cases h with
  | confirm => rcases hd with hd | hd | hd <;> cases hd
  | fail => rcases hd with hd | hd | hd <;> cases hd
  | cancel hc => rcases hc with rfl | rfl | rfl <;> rcases hd with hd | hd | hd <;> cases hd
  | fulfill hnext => exact hnext

/-! ## Every order is covered -/

/-- The group of the order holds what it asks for, and once the order is confirmed
the group is committed. -/
structure Order.Covered (inventory : Inventory.Store) (o : Order) (g : UUID) : Prop where
  group : o.reservationGroupId = some g
  holding : Holding g o.ordered inventory
  sold : o.status.Fulfilling → GroupIs inventory g .committed

def Covered (shop : Shop) : Prop := ∀ o ∈ shop.orders.orders, ∃ g, o.Covered shop.inventory g

/-- What is known of the shop in every run. -/
structure Kept (env : ShopEnv) (batches : List Inventory.BatchReservationCreate) (shop : Shop) :
    Prop where
  sane : Sane env shop
  known : Known env.inventory shop.inventory
  described : Described env.inventory batches shop.inventory
  covered : Covered shop

section Covered

variable {env : ShopEnv} {batches : List Inventory.BatchReservationCreate} {shop shop' : Shop}

theorem Kept.empty (env : ShopEnv) (batches : List Inventory.BatchReservationCreate) :
    Kept env batches Shop.empty where
  sane := .empty env
  known := .empty env.inventory
  described := .empty env.inventory batches
  covered _ h := absurd h (Table.not_mem_empty _)

/-- What Inventory knows of groups it keeps whatever the shop does. -/
theorem Kept.holding (h : Kept env batches shop) (call : DateTime × Request) {g : UUID}
    {units : UUID × String → Int} (hg : Holding g units shop.inventory) :
    Holding g units (step env shop call).inventory := by
  have hkeep : ∀ t a, (Known env.inventory t ∧ Holding g units t) →
      Known env.inventory (Inventory.step env.inventory t a) ∧
        Holding g units (Inventory.step env.inventory t a) :=
    fun t a h => ⟨h.1.step a, h.2.step h.1 a⟩
  exact ((inventory_inside env).keeps (fun a _ t => hkeep t a) ⟨h.known, hg⟩).2

theorem Kept.committed (h : Kept env batches shop) (call : DateTime × Request) {g : UUID}
    (hg : GroupIs shop.inventory g .committed) :
    GroupIs (step env shop call).inventory g .committed := by
  have hkeep : ∀ t a, (Known env.inventory t ∧ GroupIs t g .committed) →
      Known env.inventory (Inventory.step env.inventory t a) ∧
        GroupIs (Inventory.step env.inventory t a) g .committed :=
    fun t a h => ⟨h.1.step a, Inventory.GroupIs.step (by decide) h.1 h.2 a⟩
  exact ((inventory_inside env).keeps (fun a _ t => hkeep t a) ⟨h.known, hg⟩).2

/-- The orders whose group holds what they ask for are covered. -/
theorem Kept.covered_of (h : Kept env batches shop) (call : DateTime × Request)
    (horders : ∀ o' ∈ (step env shop call).orders.orders, ∃ g, o'.reservationGroupId = some g ∧
      Holding g o'.ordered (step env shop call).inventory) : Covered (step env shop call) := by
  intro o' ho'
  obtain ⟨g, hg, hholding⟩ := horders o' ho'
  refine ⟨g, hg, hholding, fun hf => ?_⟩
  rcases step_fulfills h.sane call o' ho' hf with ⟨o, ho, hsame, hof⟩ | hnow
  · obtain ⟨g', hcovered⟩ := h.covered o ho
    cases hcovered.group.symm.trans (hsame.group.symm.trans hg)
    exact h.committed call (hcovered.sold hof)
  · exact hnow g hg

/-- An order keeps what it asks for, and its group keeps holding it. -/
theorem Kept.of_placed (h : Kept env batches shop) (call : DateTime × Request) {o o' : Order}
    (ho : o ∈ shop.orders.orders) (horigin : o'.placed = o.placed) :
    ∃ g, o'.reservationGroupId = some g ∧
      Holding g o'.ordered (step env shop call).inventory := by
  obtain ⟨g, hcovered⟩ := h.covered o ho
  have hgroup : o'.placed.reservationGroupId = o.placed.reservationGroupId :=
    congrArg Order.reservationGroupId horigin
  have hitems : o'.placed.items = o.placed.items := congrArg Order.items horigin
  have hordered : o'.ordered = o.ordered := by
    funext pair
    rw [Order.ordered, Order.ordered, show o'.items = o.items from hitems]
  refine ⟨g, Eq.trans hgroup hcovered.group, ?_⟩
  rw [hordered]
  exact h.holding call hcovered.holding

theorem Kept.checkout (hdigest : env.inventory.Discerns batches) (h : Kept env batches shop)
    (now : DateTime) (data : OrderCreate) (principal : Principal) (key : OrderKey)
    (replies : CheckoutReplies)
    (hsent : ∀ b ∈ batchOf env shop (now, .checkout data principal key replies), b ∈ batches) :
    Covered (step env shop (now, .checkout data principal key replies)) := by
  refine h.covered_of _ fun o' ho' => ?_
  have hold := fun ho => @Kept.of_placed env batches shop h (now, .checkout data principal key replies)
    o' o' ho rfl
  have hstep : step env shop (now, .checkout data principal key replies) =
    (create env now shop data principal key replies).1 := rfl
  rw [hstep] at ho' hold ⊢
  rcases create_reserves env now shop data principal key replies with
    hsame | ⟨basket, body, k, inventory, g, rs, hout, hbody, hmade,
      ⟨orders, o, hrun, hpersist⟩ | hrun⟩
  · rw [hsame] at ho'
    exact hold ho'
  · rw [hrun] at ho' hold ⊢
    obtain ⟨-, -, -, hgroup, hmem, -⟩ := persist_ok hpersist
    rcases (hmem o').mp ho' with ho' | rfl
    · exact hold ho'
    · refine ⟨g, hgroup, ?_⟩
      have hordered : o'.ordered = orderedOf body.lines := by
        simp only [persist, bind_eq_ok, require_eq_ok, orRaise_eq_ok, pure_eq_ok,
          Prod.mk.injEq] at hpersist
        obtain ⟨order, hstore, _, -, _, -, _, -, _, -, -, rfl⟩ := hpersist
        exact funext (storeOrder_ordered hbody hstore)
      rw [hordered]
      exact Inventory.batch_units h.known h.described hdigest (hsent body hout) hmade
  · rw [hrun] at ho' hold ⊢
    exact hold ho'

theorem Kept.step (hdigest : env.inventory.Discerns batches) (h : Kept env batches shop)
    (call : DateTime × Request) (hsent : ∀ b ∈ batchOf env shop call, b ∈ batches) :
    Kept env batches (step env shop call) where
  sane := h.sane.step call
  known := (inventory_inside env).keeps (fun a _ _ ht => ht.step a) h.known
  described := by
    have hkeep : ∀ a : DateTime × Inventory.Request,
        (∀ data ∈ a.2.batch, data ∈ batchOf env shop call) →
        ∀ t, (Known env.inventory t ∧ Described env.inventory batches t) →
          Known env.inventory (Inventory.step env.inventory t a) ∧
            Described env.inventory batches (Inventory.step env.inventory t a) :=
      fun a ha t h => ⟨h.1.step a,
        h.2.step h.1.sane h.1.drawn a fun data hdata => hsent data (ha data hdata)⟩
    exact ((inventory_inside env).keeps hkeep ⟨h.known, h.described⟩).2
  covered := by
    by_cases hcheckout : call.2.IsCheckout
    · obtain ⟨now, req⟩ := call
      cases req with
      | checkout data principal key replies =>
        exact h.checkout hdigest now data principal key replies hsent
      | _ => exact hcheckout.elim
    · refine h.covered_of call fun o' ho' => ?_
      obtain ⟨o, ho, horigin⟩ := step_rewrites env shop call hcheckout o' ho'
      exact h.of_placed call ho horigin

end Covered

theorem run_kept (env : ShopEnv) (calls : List (DateTime × Request))
    (hdigest : env.inventory.Discerns (batchesOf env calls)) :
    Kept env (batchesOf env calls) (run (step env) Shop.empty calls) := by
  have hkeep : ∀ shop call, Kept env (batchesOf env calls) shop →
      (∀ b ∈ batchOf env shop call, b ∈ batchesOf env calls) →
        Kept env (batchesOf env calls) (step env shop call) :=
    fun _ call h hsent => h.step hdigest call hsent
  have hsent : Admitted (step env)
      (fun shop call => ∀ b ∈ batchOf env shop call, b ∈ batchesOf env calls) Shop.empty calls :=
    admitted_of_sent fun _ hb => hb
  exact hsent.keeps hkeep (.empty env (batchesOf env calls))

/-- In every run whose batches have digests of their own, whatever else is asked of
Inventory, the group of each order holds what the order asks for of every seller's
SKU, and it is committed once the order is confirmed. -/
theorem orders_covered (env : ShopEnv) (calls : List (DateTime × Request))
    (hdigest : env.inventory.Discerns (batchesOf env calls)) :
    Covered (run (step env) Shop.empty calls) :=
  (run_kept env calls hdigest).covered

/-- The digits of a checksum, in place of the hash. -/
def checksumDigest : Inventory.RequestBody → String
  | .createBatchReservation data =>
    String.ofList (hexDigits 64 (data.lines.foldl (fun sum line =>
      31 * sum + line.sellerId + line.quantity.toNat +
        (line.sku.val.toList.map Char.toNat).sum) 0))
  | _ => String.ofList (hexDigits 64 0)

def checksumShopEnv : ShopEnv :=
  { sampleShopEnv with inventory := { Inventory.sampleEnv with requestHash := checksumDigest } }

/-- The stock, one order, a batch that belongs to no order, and the payment. -/
def paidCalls : List (DateTime × Request) :=
  orderCalls.map Subtype.val ++
    [(1, .inventory Inventory.batchCall.2),
     (1, .paymentAuthorized 0 samplePayment paymentService)]

theorem paidCalls_discerned :
    (batchesOf checksumShopEnv paidCalls).length = 2 ∧
      checksumShopEnv.inventory.Discerns (batchesOf checksumShopEnv paidCalls) := by
  decide +kernel

/-- The two mugs of the order are sold. -/
theorem mugs_covered :
    ∃ g, GroupIs (run (step checksumShopEnv) Shop.empty paidCalls).inventory g .committed ∧
      (run (step checksumShopEnv) Shop.empty paidCalls).inventory.groupUnits g (700, "MUG") = 2 := by
  obtain ⟨o, ho, hconfirmed, hordered⟩ :
      ∃ o ∈ (run (step checksumShopEnv) Shop.empty paidCalls).orders.orders.rows,
        o.status = .confirmed ∧ o.ordered (700, "MUG") = 2 := by decide +kernel
  obtain ⟨g, hcovered⟩ := orders_covered checksumShopEnv paidCalls paidCalls_discerned.2 o ho
  exact ⟨g, hcovered.sold (Or.inl hconfirmed), (hcovered.holding.units _).trans hordered⟩

/-! ## No unit is promised twice -/

instance (status : OrderStatus) : Decidable status.Fulfilling :=
  inferInstanceAs (Decidable (_ ∨ _ ∨ _ ∨ _))

/-- The orders that are being fulfilled. -/
def Store.fulfilling (s : Store) : List Order :=
  s.orders.rows.filter fun o => o.status.Fulfilling

/-- The units they ask for of a seller's SKU. -/
def Store.promised (s : Store) (pair : UUID × String) : Int :=
  (s.fulfilling.map fun o => o.ordered pair).sum

def Order.groupOf (o : Order) : UUID := o.reservationGroupId.getD 0

theorem Kept.promised {env : ShopEnv} {batches : List Inventory.BatchReservationCreate}
    {shop : Shop} (h : Kept env batches shop) (pair : UUID × String) :
    shop.orders.promised pair ≤ shop.inventory.soldUnits pair := by
  have hcovered : ∀ o ∈ shop.orders.fulfilling, o.Covered shop.inventory o.groupOf := by
    intro o ho
    obtain ⟨g, hg⟩ := h.covered o (List.mem_of_mem_filter ho)
    have hgroup : o.groupOf = g := by rw [Order.groupOf, hg.group, Option.getD_some]
    exact hgroup ▸ hg
  have hunits : shop.orders.promised pair =
      ((shop.orders.fulfilling.map Order.groupOf).map fun g =>
        shop.inventory.groupUnits g pair).sum := by
    rw [Store.promised, List.map_map]
    refine congrArg List.sum (List.map_congr_left fun o ho => ?_)
    exact ((hcovered o ho).holding.units pair).symm
  -- Two orders do not share a group.
  have hnodup : (shop.orders.fulfilling.map Order.groupOf).Nodup := by
    refine List.Nodup.map_on (fun o ho o' ho' hsame => ?_)
      (shop.orders.orders.nodup.of_map _ |>.filter _)
    have hg := hcovered o ho
    have hg' := hcovered o' ho'
    exact h.sane.alone (List.mem_of_mem_filter ho') (List.mem_of_mem_filter ho) hg'.group
      (hsame ▸ hg.group) hg'.holding.reserved
  rw [hunits]
  refine Inventory.groups_sold h.known.sane.inv hnodup (fun g hg => ?_) pair
  obtain ⟨o, ho, rfl⟩ := List.mem_map.mp hg
  exact (hcovered o ho).sold (by simpa using (List.mem_filter.mp ho).2)

/-- In every run the orders that are being fulfilled ask for no more of a seller's
SKU than came in and is not on hand any more. -/
theorem never_oversold (env : ShopEnv) (calls : List (DateTime × Request))
    (hdigest : env.inventory.Discerns (batchesOf env calls)) (pair : UUID × String) :
    (run (step env) Shop.empty calls).orders.promised pair +
        (run (step env) Shop.empty calls).inventory.onHand pair ≤
      (run (step env) Shop.empty calls).inventory.received pair := by
  have h := run_kept env calls hdigest
  obtain ⟨calls', hcalls⟩ := (inventory_inside env).run Shop.empty calls
  have hexplained : Inventory.Explained (run (step env) Shop.empty calls).inventory :=
    hcalls ▸ Inventory.run_explained env.inventory calls'
  have hpromised := h.promised pair
  have hreceived := hexplained.received h.known.sane.inv pair
  omega

theorem mugs_not_oversold :
    (run (step checksumShopEnv) Shop.empty paidCalls).orders.promised (700, "MUG") = 2 ∧
      (run (step checksumShopEnv) Shop.empty paidCalls).orders.promised (700, "MUG") +
        (run (step checksumShopEnv) Shop.empty paidCalls).inventory.onHand (700, "MUG") ≤
      (run (step checksumShopEnv) Shop.empty paidCalls).inventory.received (700, "MUG") :=
  ⟨by decide +kernel, never_oversold checksumShopEnv paidCalls paidCalls_discerned.2 (700, "MUG")⟩

end Orders
end Marketplace
