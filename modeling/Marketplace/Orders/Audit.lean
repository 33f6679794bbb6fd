import Marketplace.Base.Lives
import Marketplace.Base.Versions
import Marketplace.Orders.Effects

/-!
# Orders: the audit trail

Three tables record what happens to an order: its status history, the outbox and
its version.  `Store.Posts` says all that a request can do to the orders; from it
follows that the three agree in every run, that the history of every order is a
life from `pending_payment` along the allowed moves to its status, and that a
cart is never occupied by two orders at once.
-/

namespace Marketplace
namespace Orders

open Base

/-! ## What a request posts -/

/-- The order as it was placed: the columns that no operation changes. -/
def Order.placed (o : Order) : Order :=
  { o with
    status := .pendingPayment, paymentStatus := .pending, paymentReference := none
    cancellationReason := none, version := 1 }

/-- The event that announces an entry of the history. -/
def OrderStatusHistory.announcement (entry : OrderStatusHistory) : String :=
  match entry.fromStatus with
  | none => "order.created"
  | some _ =>
    let name := entry.toStatus.value
    s!"order.{name}"

/-- The event tells the entry of the history. -/
structure OutboxEvent.Announces (event : OutboxEvent) (entry : OrderStatusHistory) : Prop where
  type : event.eventType = entry.announcement
  order : event.order.id = entry.orderId
  status : event.order.status = entry.toStatus

def refundEvent : String := "order.payment_refunded"

/-- What one request can do to the orders. -/
inductive Store.Posts (s s' : Store) : Prop
  | nothing (orders : s'.orders = s.orders) (history : s'.history = s.history)
      (outbox : s'.outbox = s.outbox)
  | placed (o : Order) (entry : OrderStatusHistory) (event : OutboxEvent)
      (new : o.placed = o) (number : ∀ x ∈ s.orders, x.orderNumber ≠ o.orderNumber)
      (cart : s.byCustomerCart o.customerId o.cartId = none)
      (orders : s.orders.insert? o = some s'.orders)
      (about : entry.orderId = o.id ∧ entry.fromStatus = none ∧ entry.toStatus = .pendingPayment)
      (announces : event.Announces entry)
      (history : s'.history = s.history ++ [entry]) (outbox : s'.outbox = s.outbox ++ [event])
  | moved (o o' : Order) (entry : OrderStatusHistory) (event : OutboxEvent)
      (read : s.orders.get? o'.id = some o) (move : o.status.Moves o'.status)
      (origin : o'.placed = o.placed) (version : o'.version = o.version + 1)
      (orders : s'.orders = s.orders.put o')
      (about : entry.orderId = o'.id ∧ entry.fromStatus = some o.status ∧
        entry.toStatus = o'.status)
      (announces : event.Announces entry)
      (history : s'.history = s.history ++ [entry]) (outbox : s'.outbox = s.outbox ++ [event])
  | refunded (o o' : Order) (read : s.orders.get? o'.id = some o) (status : o'.status = o.status)
      (origin : o'.placed = o.placed) (version : o'.version = o.version + 1)
      (orders : s'.orders = s.orders.put o') (history : s'.history = s.history)
      (outbox : s'.outbox = s.outbox ++ [⟨refundEvent, o'⟩])

section Posts

variable {env : ShopEnv} {now : DateTime} {shop : Shop} {s s' : Store}

theorem transition_posts {order : Order} (hget : s.orders.get? order.id = some order)
    {newStatus : OrderStatus} (hmove : order.status.Moves newStatus) (actor : UUID)
    (reason : Option String) {columns : Order → Order}
    (hcolumns : (columns order).placed = order.placed) :
    s.Posts (s.transition order newStatus actor reason columns) := by
  have hid : (columns order).placed.id = order.placed.id := congrArg Order.id hcolumns
  simp only [Store.transition, Store.update, Store.event, hget]
  refine .moved order { columns order with status := newStatus, version := order.version + 1 }
    ⟨order.id, some order.status, newStatus, actor, reason⟩ _ ?_ hmove ?_ rfl rfl
    ⟨hid.symm, rfl, rfl⟩ ⟨rfl, rfl, rfl⟩ rfl rfl
  · rw [show ({ columns order with
      status := newStatus, version := order.version + 1 } : Order).id = order.id from hid]
    exact hget
  · exact hcolumns

theorem finish_posts {call : Inventory.Store × Except ServiceError Unit} {order : Order}
    (h : shop.orders.Posts s') : shop.orders.Posts (finish shop call s' order).1.orders := by
  obtain ⟨inventory, _ | _⟩ := call
  · exact .nothing rfl rfl rfl
  · exact h

theorem cancel_posts (orderId : UUID) (data : CancelOrder) (principal : Principal) (version : Nat) :
    shop.orders.Posts (cancel shop orderId data principal version).1.orders := by
  unfold cancel
  split
  · exact .nothing rfl rfl rfl
  next order hread =>
    obtain ⟨hget, -, -, hc⟩ := cancelRead_eq_ok.mp hread
    have hid : order.id = orderId := Table.key_of_get? hget
    exact finish_posts (transition_posts (hid ▸ hget) (.cancel hc) _ _ rfl)

theorem paymentAuthorized_posts (orderId : UUID) (data : PaymentAuthorized)
    (principal : Principal) :
    shop.orders.Posts (paymentAuthorized now shop orderId data principal).1.orders := by
  unfold paymentAuthorized
  split
  · exact .nothing rfl rfl rfl
  · exact .nothing rfl rfl rfl
  next order hread =>
    obtain ⟨hget, hp, -⟩ := authorizeRead_act.mp hread
    have hid : order.id = orderId := Table.key_of_get? hget
    exact finish_posts (transition_posts (hid ▸ hget) (hp ▸ .confirm) _ _ rfl)

theorem paymentFailed_posts (orderId : UUID) (data : PaymentFailed) (principal : Principal) :
    shop.orders.Posts (paymentFailed shop orderId data principal).1.orders := by
  unfold paymentFailed
  split
  · exact .nothing rfl rfl rfl
  · exact .nothing rfl rfl rfl
  next order hread =>
    obtain ⟨hget, hp⟩ := failRead_act.mp hread
    have hid : order.id = orderId := Table.key_of_get? hget
    exact finish_posts (transition_posts (hid ▸ hget) (hp ▸ .fail) _ _ rfl)

theorem commit_posts {result : Except Failure (Store × Order)}
    (h : ∀ t o, result = .ok (t, o) → shop.orders.Posts t) :
    shop.orders.Posts (shop.commit result).orders := by
  unfold Shop.commit
  split
  next t o => exact h t o rfl
  next => exact .nothing rfl rfl rfl

theorem fulfillment_posts {orderId : UUID} {data : FulfillmentUpdate} {principal : Principal}
    {result : Order} (hrun : fulfillment s orderId data principal = .ok (s', result)) :
    s.Posts s' := by
  simp only [fulfillment, bind_eq_ok, locked_eq_ok, require_eq_ok, reference_eq_ok, pure_eq_ok,
    Prod.mk.injEq] at hrun
  obtain ⟨o, hget, _, hnext, _, ⟨rfl, -⟩, rfl, -⟩ := hrun
  have hid : o.id = orderId := Table.key_of_get? hget
  exact transition_posts (hid ▸ hget) (.fulfill hnext) _ _ rfl

theorem paymentRefunded_posts {orderId : UUID} {data : PaymentRefunded} {result : Order}
    (hrun : paymentRefunded s orderId data = .ok (s', result)) : s.Posts s' := by
  simp only [paymentRefunded, bind_eq_ok, locked_eq_ok, require_eq_ok, pure_eq_ok,
    Prod.mk.injEq] at hrun
  obtain ⟨o, hget, _, -, _, -, _, -, rfl, -⟩ := hrun
  have hid : o.id = orderId := Table.key_of_get? hget
  exact .refunded o
    { o with
      paymentStatus := if data.refundedAmount = ofHundredths o.grandTotal then .refunded
        else .partiallyRefunded
      version := o.version + 1 }
    (hid ▸ hget) rfl rfl rfl rfl rfl rfl

theorem persist_posts {data : OrderCreate} {principal : Principal} {key : OrderKey}
    {basket : Basket} {orderId g : UUID} {o : Order}
    (hrun : persist env.orders now s data principal key basket orderId g = .ok (s', o)) :
    s.Posts s' := by
  simp only [persist, bind_eq_ok, require_eq_ok, orRaise_eq_ok, pure_eq_ok, Prod.mk.injEq] at hrun
  obtain ⟨order, hstore, _, hnumber, _, hcart, orders, hins, _, -, rfl, rfl⟩ := hrun
  have hplaced : order.placed = order := by
    simp only [storeOrder, bind_eq_ok, pure_eq_ok] at hstore
    obtain ⟨_, -, _, -, _, -, _, -, _, -, rfl⟩ := hstore
    rfl
  have hstatus : order.status = .pendingPayment := by
    rw [← hplaced]
    rfl
  exact .placed order ⟨order.id, none, .pendingPayment, principal.subject, some "checkout_started"⟩
    ⟨"order.created", order⟩ hplaced hnumber hcart hins ⟨rfl, rfl, rfl⟩ ⟨rfl, rfl, hstatus⟩ rfl rfl

theorem create_posts (data : OrderCreate) (principal : Principal) (key : OrderKey)
    (replies : CheckoutReplies) :
    shop.orders.Posts (create env now shop data principal key replies).1.orders := by
  unfold create
  split
  · exact .nothing rfl rfl rfl
  · exact .nothing rfl rfl rfl
  next basket _ =>
  simp only
  rcases reserveBatch env.inventory now shop.inventory (batchRequest env.orders now principal basket
    (env.orders.uuid4.value shop.orders.drawn)) orderService key.text with ⟨inventory, e | g⟩
  · exact .nothing rfl rfl rfl
  simp only
  split
  next orders o hpersist => exact persist_posts hpersist
  next failure _ =>
    rcases releaseGroup inventory g "Order persistence failed" principal with ⟨t, _ | _⟩
    · exact .nothing rfl rfl rfl
    · exact .nothing rfl rfl rfl

/-- All that a request does to the orders. -/
theorem step_posts (env : ShopEnv) (shop : Shop) (call : DateTime × Request) :
    shop.orders.Posts (step env shop call).orders := by
  obtain ⟨now, req⟩ := call
  cases req with
  | inventory request => exact .nothing rfl rfl rfl
  | checkout data principal key replies => exact create_posts data principal key replies
  | cancel orderId data principal version => exact cancel_posts orderId data principal version
  | paymentAuthorized orderId data principal => exact paymentAuthorized_posts orderId data principal
  | paymentFailed orderId data principal => exact paymentFailed_posts orderId data principal
  | paymentRefunded orderId data principal =>
    exact commit_posts fun t o hrun => paymentRefunded_posts hrun
  | fulfillment orderId data principal => exact commit_posts fun t o hrun => fulfillment_posts hrun

end Posts

/-! ## The history, the outbox and the version -/

/-- What may follow in the life of an order. -/
inductive OrderStatus.Follows : Option OrderStatus → OrderStatus → Prop
  | placed : Follows none .pendingPayment
  | moved {status next : OrderStatus} : status.Moves next → Follows (some status) next

def historyChronicle : Chronicle OrderStatusHistory UUID OrderStatus where
  subject := OrderStatusHistory.orderId
  source := OrderStatusHistory.fromStatus
  target := OrderStatusHistory.toStatus

def statusOf (s : Store) (orderId : UUID) : Option OrderStatus :=
  (s.orders.get? orderId).map Order.status

/-- The events about one order. -/
def eventsOf (s : Store) (orderId : UUID) : Nat :=
  s.outbox.countP fun event => event.order.id = orderId

/-- The three tables tell the same story. -/
structure Audited (s : Store) : Prop where
  /-- The history of an order is a life that ends in its status. -/
  lives : historyChronicle.Tells OrderStatus.Follows s.history (statusOf s)
  /-- Apart from refunds, the outbox announces the history. -/
  announced : List.Forall₂ OutboxEvent.Announces
    (s.outbox.filter fun event => event.eventType ≠ refundEvent) s.history
  /-- The version of an order counts the events about it. -/
  versions : ∀ orderId, eventsOf s orderId = ((s.orders.get? orderId).map Order.version).getD 0

section Audited

variable {s s' : Store}

theorem Audited.empty : Audited Store.empty where
  lives := .nil
  announced := .nil
  versions _ := rfl

theorem announcement_ne_refund (entry : OrderStatusHistory) :
    entry.announcement ≠ refundEvent := by
  unfold OrderStatusHistory.announcement
  split
  · decide
  · cases entry.toStatus <;> decide

/-- One entry of the history and the event that announces it. -/
theorem announced_append {event : OutboxEvent} {entry : OrderStatusHistory}
    (h : List.Forall₂ OutboxEvent.Announces
      (s.outbox.filter fun event => event.eventType ≠ refundEvent) s.history)
    (hannounces : event.Announces entry) :
    List.Forall₂ OutboxEvent.Announces
      ((s.outbox ++ [event]).filter fun event => event.eventType ≠ refundEvent)
      (s.history ++ [entry]) := by
  have hkept : [event].filter (fun event => event.eventType ≠ refundEvent) = [event] := by
    rw [List.filter_cons_of_pos]
    · rfl
    · rw [hannounces.type]
      exact decide_eq_true (announcement_ne_refund entry)
  rw [List.filter_append, hkept]
  exact List.rel_append h (.cons hannounces .nil)

/-- One more event about an order whose version it counts up. -/
theorem versions_append {o' : Order} {event : OutboxEvent}
    (h : ∀ orderId, eventsOf s orderId = ((s.orders.get? orderId).map Order.version).getD 0)
    (hevent : event.order.id = o'.id) (houtbox : s'.outbox = s.outbox ++ [event])
    (hversion : o'.version = ((s.orders.get? o'.id).map Order.version).getD 0 + 1)
    (hget : s'.orders.get? o'.id = some o')
    (hother : ∀ orderId, orderId ≠ o'.id → s'.orders.get? orderId = s.orders.get? orderId)
    (orderId : UUID) :
    eventsOf s' orderId = ((s'.orders.get? orderId).map Order.version).getD 0 := by
  rw [eventsOf, houtbox, List.countP_append, List.countP_singleton, hevent]
  by_cases hid : o'.id = orderId
  · subst hid
    rw [hget, Option.map_some, Option.getD_some, hversion, ← h, decide_eq_true rfl, if_pos rfl]
    rfl
  · rw [hother orderId fun e => hid e.symm, ← h, decide_eq_false hid]
    exact add_zero _

theorem Audited.posts (h : Audited s) (hp : s.Posts s') : Audited s' := by
  cases hp with
  | nothing orders history outbox =>
    refine ⟨?_, ?_, ?_⟩
    · rw [history]
      exact h.lives.congr fun k => by rw [statusOf, orders, statusOf]
    · rw [outbox, history]
      exact h.announced
    · intro orderId
      rw [eventsOf, outbox, orders]
      exact h.versions orderId
  | placed o entry event new number cart orders about announces history outbox =>
    obtain ⟨habout, hsource, htarget⟩ := about
    have hnone : s.orders.get? o.id = none :=
      Table.get?_eq_none.mpr (Table.insert?_eq_some orders).1
    have hget : s'.orders.get? o.id = some o := by rw [Table.get?_insert? orders, if_pos rfl]
    have hother : ∀ k, k ≠ o.id → s'.orders.get? k = s.orders.get? k := fun k hk => by
      rw [Table.get?_insert? orders, if_neg hk]
    have hstatus : o.status = .pendingPayment := by rw [← new]; rfl
    have hversion : o.version = 1 := by rw [← new]; rfl
    refine ⟨?_, ?_, ?_⟩
    · rw [history]
      refine h.lives.tell (e := entry) ?_ ?_ ?_ ?_
      · show (s.orders.get? entry.orderId).map Order.status = entry.fromStatus
        rw [habout, hnone, hsource]
        rfl
      · show OrderStatus.Follows entry.fromStatus entry.toStatus
        rw [hsource, htarget]
        exact .placed
      · show (s'.orders.get? entry.orderId).map Order.status = some entry.toStatus
        rw [habout, hget, htarget, Option.map_some, hstatus]
      · intro k hk
        rw [statusOf, hother k (habout ▸ hk), statusOf]
    · rw [outbox, history]
      exact announced_append h.announced announces
    · refine versions_append h.versions (announces.order.trans habout) outbox ?_ hget hother
      rw [hversion, hnone]
      rfl
  | moved o o' entry event read move origin version orders about announces history outbox =>
    obtain ⟨habout, hsource, htarget⟩ := about
    have hget : s'.orders.get? o'.id = some o' := by
      rw [orders]
      exact Table.get?_put_self read rfl
    have hother : ∀ k, k ≠ o'.id → s'.orders.get? k = s.orders.get? k := fun k hk => by
      rw [orders, Table.get?_put_ne hk]
    refine ⟨?_, ?_, ?_⟩
    · rw [history]
      refine h.lives.tell (e := entry) ?_ ?_ ?_ ?_
      · show (s.orders.get? entry.orderId).map Order.status = entry.fromStatus
        rw [habout, read, hsource]
        rfl
      · show OrderStatus.Follows entry.fromStatus entry.toStatus
        rw [hsource, htarget]
        exact .moved move
      · show (s'.orders.get? entry.orderId).map Order.status = some entry.toStatus
        rw [habout, hget, htarget]
        rfl
      · intro k hk
        rw [statusOf, hother k (habout ▸ hk), statusOf]
    · rw [outbox, history]
      exact announced_append h.announced announces
    · refine versions_append h.versions (announces.order.trans habout) outbox ?_ hget hother
      rw [version, read]
      rfl
  | refunded o o' read status origin version orders history outbox =>
    have hget : s'.orders.get? o'.id = some o' := by
      rw [orders]
      exact Table.get?_put_self read rfl
    have hother : ∀ k, k ≠ o'.id → s'.orders.get? k = s.orders.get? k := fun k hk => by
      rw [orders, Table.get?_put_ne hk]
    refine ⟨?_, ?_, ?_⟩
    · rw [history]
      refine h.lives.congr fun k => ?_
      by_cases hk : k = o'.id
      · rw [hk, statusOf, hget, statusOf, read, Option.map_some, Option.map_some, status]
      · rw [statusOf, hother k hk, statusOf]
    · rw [outbox, history, List.filter_append]
      simpa using h.announced
    · refine versions_append h.versions rfl outbox ?_ hget hother
      rw [version, read]
      rfl

end Audited

/-- No cart is occupied by two orders, and no order number is used twice. -/
structure Distinct (s : Store) : Prop where
  carts : ∀ o ∈ s.orders, ∀ x ∈ s.orders, ¬o.status.Terminal → ¬x.status.Terminal →
    x.customerId = o.customerId → x.cartId = o.cartId → x = o
  numbers : ∀ o ∈ s.orders, ∀ x ∈ s.orders, x.orderNumber = o.orderNumber → x = o

section Distinct

variable {s s' : Store}

theorem Distinct.empty : Distinct Store.empty where
  carts _ h := absurd h (Table.not_mem_empty _)
  numbers _ h := absurd h (Table.not_mem_empty _)

/-- An order that has left its cart does not come back to it. -/
theorem OrderStatus.Moves.not_terminal {status next : OrderStatus} (h : status.Moves next) :
    ¬status.Terminal := by
  cases h with
  | confirm => decide
  | fail => decide
  | cancel hc => rcases hc with rfl | rfl | rfl <;> decide
  | fulfill hnext => cases status <;> first | decide | cases hnext

theorem byCustomerCart_none {customerId cartId : UUID}
    (h : s.byCustomerCart customerId cartId = none) :
    ∀ o ∈ s.orders, o.customerId = customerId → o.cartId = cartId → o.status.Terminal := by
  intro o ho hcustomer hcart
  have hnot := List.find?_eq_none.mp h o ho
  simpa [hcustomer, hcart] using hnot

/-- Rewriting an order keeps its cart and its number. -/
theorem Distinct.put (h : Distinct s) {o o' : Order} (hget : s.orders.get? o'.id = some o)
    (horigin : o'.placed = o.placed) (hstatus : ¬o'.status.Terminal → ¬o.status.Terminal)
    (horders : s'.orders = s.orders.put o') : Distinct s' := by
  have hcustomer : o'.placed.customerId = o.placed.customerId := congrArg Order.customerId horigin
  have hcart : o'.placed.cartId = o.placed.cartId := congrArg Order.cartId horigin
  have hnumber : o'.placed.orderNumber = o.placed.orderNumber :=
    congrArg Order.orderNumber horigin
  have hid : o'.id = o.id := (Table.key_of_get? hget).symm
  have hback : ∀ x ∈ s'.orders, ∃ y ∈ s.orders, y.id = x.id ∧ y.customerId = x.customerId ∧
      y.cartId = x.cartId ∧ y.orderNumber = x.orderNumber ∧
        (¬x.status.Terminal → ¬y.status.Terminal) := by
    intro x hx
    rw [horders, Table.mem_put_of_mem (Table.mem_of_get? hget) hid] at hx
    rcases hx with rfl | ⟨hx, -⟩
    · exact ⟨o, Table.mem_of_get? hget, hid.symm, hcustomer.symm, hcart.symm, hnumber.symm, hstatus⟩
    · exact ⟨x, hx, rfl, rfl, rfl, rfl, fun h => h⟩
  constructor
  · intro a ha b hb hna hnb hcust hcart
    obtain ⟨x, hx, hxid, hxc, hxcart, -, hxn⟩ := hback a ha
    obtain ⟨y, hy, hyid, hyc, hycart, -, hyn⟩ := hback b hb
    have hxy := h.carts x hx y hy (hxn hna) (hyn hnb) (hyc.trans (hcust.trans hxc.symm))
      (hycart.trans (hcart.trans hxcart.symm))
    exact Table.eq_of_key_eq hb ha (by rw [← hyid, ← hxid, hxy])
  · intro a ha b hb hnum
    obtain ⟨x, hx, hxid, -, -, hxnum, -⟩ := hback a ha
    obtain ⟨y, hy, hyid, -, -, hynum, -⟩ := hback b hb
    have hxy := h.numbers x hx y hy (hynum.trans (hnum.trans hxnum.symm))
    exact Table.eq_of_key_eq hb ha (by rw [← hyid, ← hxid, hxy])

theorem Distinct.posts (h : Distinct s) (hp : s.Posts s') : Distinct s' := by
  cases hp with
  | nothing orders _ _ =>
    refine ⟨fun o ho x hx => ?_, fun o ho x hx => ?_⟩
    · rw [orders] at ho hx
      exact h.carts o ho x hx
    · rw [orders] at ho hx
      exact h.numbers o ho x hx
  | placed o _ _ new number cart orders _ _ _ _ =>
    have hterminal := byCustomerCart_none cart
    constructor
    · intro a ha b hb hna hnb hcust hcart
      rcases (Table.mem_insert? orders).mp ha with ha | rfl <;>
        rcases (Table.mem_insert? orders).mp hb with hb | rfl
      · exact h.carts a ha b hb hna hnb hcust hcart
      · exact absurd (hterminal a ha hcust.symm hcart.symm) hna
      · exact absurd (hterminal b hb hcust hcart) hnb
      · rfl
    · intro a ha b hb hnum
      rcases (Table.mem_insert? orders).mp ha with ha | rfl <;>
        rcases (Table.mem_insert? orders).mp hb with hb | rfl
      · exact h.numbers a ha b hb hnum
      · exact absurd hnum.symm (number a ha)
      · exact absurd hnum (number b hb)
      · rfl
  | moved o o' _ _ read move origin _ orders _ _ _ _ =>
    exact h.put read origin (fun _ => move.not_terminal) orders
  | refunded o o' read status origin _ orders _ _ =>
    exact h.put read origin (fun hnot => status ▸ hnot) orders

end Distinct

/-- In every run a cart is occupied by at most one order that is not cancelled or
failed, and no two orders have the same number. -/
theorem one_order_per_cart (env : ShopEnv) (calls : List (DateTime × Request)) :
    Distinct (run (step env) Shop.empty calls).orders := by
  have hkeep : ∀ shop call, Distinct shop.orders → Distinct (step env shop call).orders :=
    fun shop call h => h.posts (step_posts env shop call)
  exact run_keeps_all hkeep calls .empty

end Orders
end Marketplace
