import Marketplace.Orders.Service

/-!
# Orders: what an operation does to the rows

Each read is turned into the facts it checked, and each write into the one row
it puts.  `Order.Next` is the life of an order seen from outside: its status
moves as `OrderStatus.Moves` allows, or a refund changes its payment status, and
the columns another service relies on stay as they are.
-/

namespace Marketplace
namespace Orders

open Base

/-- The moves of an order between its statuses. -/
inductive OrderStatus.Moves : OrderStatus → OrderStatus → Prop
  | confirm : Moves .pendingPayment .confirmed
  | fail : Moves .pendingPayment .paymentFailed
  | cancel {status : OrderStatus} : status.Cancellable → Moves status .cancelled
  | fulfill {status next : OrderStatus} : status.next = some next → Moves status next

/-- The columns an operation never changes. -/
structure Order.Same (o o' : Order) : Prop where
  id : o'.id = o.id
  customer : o'.customerId = o.customerId
  currency : o'.currencyCode = o.currencyCode
  total : o'.grandTotal = o.grandTotal
  group : o'.reservationGroupId = o.reservationGroupId

/-- One change of an order. -/
structure Order.Next (o o' : Order) : Prop where
  same : o.Same o'
  status : (o'.status = o.status ∧ o.paymentStatus.Refundable) ∨ o.status.Moves o'.status

theorem OrderStatus.Moves.ne_pending {status next : OrderStatus} (h : status.Moves next) :
    next ≠ .pendingPayment := by
  cases h with
  | confirm => nofun
  | fail => nofun
  | cancel _ => nofun
  | fulfill h =>
    rintro rfl
    cases status <;> cases h

/-- An order that has left its payment behind does not come back to it. -/
theorem OrderStatus.Moves.leaves {status next : OrderStatus} (h : status.Moves next)
    (hp : status ≠ .pendingPayment) : next ≠ .pendingPayment ∧ next ≠ .paymentFailed := by
  refine ⟨h.ne_pending, ?_⟩
  cases h with
  | confirm => nofun
  | fail => exact absurd rfl hp
  | cancel _ => nofun
  | fulfill h =>
    rintro rfl
    cases status <;> cases h

theorem Order.Same.refl (o : Order) : o.Same o := ⟨rfl, rfl, rfl, rfl, rfl⟩

/-- Who may see an order. -/
def Order.VisibleTo (o : Order) (principal : Principal) : Prop :=
  o.customerId = principal.subject ∨ principal.hasRole [.admin] = true

instance (o : Order) (principal : Principal) : Decidable (o.VisibleTo principal) :=
  inferInstanceAs (Decidable (_ ∨ _))

/-! ## Reads -/

section Reads

variable {s : Store} {orderId : UUID} {order : Order}

theorem locked_eq_ok : locked s orderId = .ok order ↔ s.orders.get? orderId = some order :=
  orRaise_eq_ok

theorem customerOrder_eq_ok {principal : Principal} :
    customerOrder s orderId principal = .ok order ↔
      s.orders.get? orderId = some order ∧ order.VisibleTo principal := by
  simp only [customerOrder, bind_eq_ok, orRaise_eq_ok, require_eq_ok, pure_eq_ok,
    Order.VisibleTo]
  constructor
  · rintro ⟨o, hget, _, hv, rfl⟩
    exact ⟨hget, hv⟩
  · rintro ⟨hget, hv⟩
    exact ⟨order, hget, (), hv, rfl⟩

theorem cancelRead_eq_ok {principal : Principal} {version : Nat} :
    cancelRead s orderId principal version = .ok order ↔
      s.orders.get? orderId = some order ∧ order.VisibleTo principal ∧ order.version = version ∧
        order.status.Cancellable := by
  simp only [cancelRead, bind_eq_ok, customerOrder_eq_ok, require_eq_ok, pure_eq_ok]
  constructor
  · rintro ⟨o, ⟨hget, hv⟩, _, hversion, _, hc, rfl⟩
    exact ⟨hget, hv, hversion, hc⟩
  · rintro ⟨hget, hv, hversion, hc⟩
    exact ⟨order, ⟨hget, hv⟩, (), hversion, (), hc, rfl⟩

/-- The payment is for what the order costs. -/
def PaymentAuthorized.Pays (data : PaymentAuthorized) (order : Order) : Prop :=
  data.currencyCode = order.currencyCode ∧ data.authorizedAmount = ofHundredths order.grandTotal

instance (data : PaymentAuthorized) (order : Order) : Decidable (data.Pays order) :=
  inferInstanceAs (Decidable (_ ∧ _))

theorem authorizeRead_act {data : PaymentAuthorized} :
    authorizeRead s orderId data = .ok (.act order) ↔
      s.orders.get? orderId = some order ∧ order.status = .pendingPayment ∧ data.Pays order := by
  simp only [authorizeRead, bind_eq_ok, locked_eq_ok, PaymentAuthorized.Pays]
  constructor
  · rintro ⟨o, hget, h⟩
    split at h
    · cases h
    · simp only [bind_eq_ok, require_eq_ok, pure_eq_ok] at h
      obtain ⟨_, hp, _, hpays, h⟩ := h
      cases h
      exact ⟨hget, hp, hpays⟩
  · rintro ⟨hget, hp, hpays⟩
    refine ⟨order, hget, ?_⟩
    rw [if_neg (by rw [hp]; decide), require_pos hp, require_pos hpays]
    rfl

theorem authorizeRead_done {data : PaymentAuthorized} :
    authorizeRead s orderId data = .ok (.done order) ↔
      s.orders.get? orderId = some order ∧ order.status = .confirmed := by
  simp only [authorizeRead, bind_eq_ok, locked_eq_ok]
  constructor
  · rintro ⟨o, hget, h⟩
    split at h
    next hc =>
      cases h
      exact ⟨hget, hc⟩
    next =>
      simp only [bind_eq_ok, require_eq_ok, pure_eq_ok] at h
      obtain ⟨_, -, _, -, h⟩ := h
      cases h
  · rintro ⟨hget, hc⟩
    exact ⟨order, hget, by rw [if_pos hc]; rfl⟩

theorem failRead_act :
    failRead s orderId = .ok (.act order) ↔
      s.orders.get? orderId = some order ∧ order.status = .pendingPayment := by
  simp only [failRead, bind_eq_ok, locked_eq_ok]
  constructor
  · rintro ⟨o, hget, h⟩
    split at h
    · cases h
    · simp only [bind_eq_ok, require_eq_ok, pure_eq_ok] at h
      obtain ⟨_, hp, h⟩ := h
      cases h
      exact ⟨hget, hp⟩
  · rintro ⟨hget, hp⟩
    refine ⟨order, hget, ?_⟩
    rw [if_neg (by rw [hp]; decide), require_pos hp]
    rfl

theorem failRead_done :
    failRead s orderId = .ok (.done order) ↔
      s.orders.get? orderId = some order ∧ order.status = .paymentFailed := by
  simp only [failRead, bind_eq_ok, locked_eq_ok]
  constructor
  · rintro ⟨o, hget, h⟩
    split at h
    next hc =>
      cases h
      exact ⟨hget, hc⟩
    next =>
      simp only [bind_eq_ok, require_eq_ok, pure_eq_ok] at h
      obtain ⟨_, -, h⟩ := h
      cases h
  · rintro ⟨hget, hc⟩
    exact ⟨order, hget, by rw [if_pos hc]; rfl⟩

end Reads

/-! ## Writes -/

/-- Nothing but the row of one order has changed: it is `row` now. -/
structure Store.Puts (s s' : Store) (row : Order) : Prop where
  orders : s'.orders = s.orders.put row
  idempotency : s'.idempotency = s.idempotency
  drawn : s'.drawn = s.drawn

section Writes

variable {s : Store} {order row : Order}

theorem transition_puts (hget : s.orders.get? order.id = some row) (newStatus : OrderStatus)
    (actor : UUID) (reason : Option String) (columns : Order → Order) :
    s.Puts (s.transition order newStatus actor reason columns)
      { columns row with status := newStatus, version := order.version + 1 } := by
  simp only [Store.transition, Store.update, Store.event, hget]
  exact ⟨rfl, rfl, rfl⟩

theorem cancelWrite_puts (hget : s.orders.get? order.id = some row) (data : CancelOrder)
    (principal : Principal) :
    s.Puts (cancelWrite s order data principal)
      { row with
        cancellationReason := some data.reason
        status := .cancelled
        version := order.version + 1 } :=
  transition_puts hget _ _ _ _

theorem authorizeWrite_puts (hget : s.orders.get? order.id = some row) (data : PaymentAuthorized)
    (principal : Principal) :
    s.Puts (authorizeWrite s order data principal)
      { row with
        paymentStatus := .authorized
        paymentReference := some data.paymentReference
        status := .confirmed
        version := order.version + 1 } :=
  transition_puts hget _ _ _ _

theorem failWrite_puts (hget : s.orders.get? order.id = some row) (data : PaymentFailed)
    (principal : Principal) :
    s.Puts (failWrite s order data principal)
      { row with
        paymentStatus := .failed
        paymentReference := data.paymentReference
        status := .paymentFailed
        version := order.version + 1 } :=
  transition_puts hget _ _ _ _

/-- The reference is written as the reason of the move. -/
theorem reference_eq_ok {reference reason : Option String} :
    reference.mapM (requestText "reason") = .ok reason ↔
      reference = reason ∧ ∀ r ∈ reference, NulFree r :=
  option_mapM_eq_ok fun _ _ => requestText_eq_ok

theorem fulfillment_ok {orderId : UUID} {data : FulfillmentUpdate} {principal : Principal}
    {s' : Store} {result : Order} (h : fulfillment s orderId data principal = .ok (s', result)) :
    ∃ o, s.orders.get? orderId = some o ∧ o.status.next = some data.status ∧
      (∀ r ∈ data.shipmentReference, NulFree r) ∧
      s.Puts s' { o with status := data.status, version := o.version + 1 } := by
  simp only [fulfillment, bind_eq_ok, locked_eq_ok, require_eq_ok, reference_eq_ok, pure_eq_ok,
    Prod.mk.injEq] at h
  obtain ⟨o, hget, _, hnext, _, ⟨rfl, hfree⟩, rfl, -⟩ := h
  have hid : o.id = orderId := Table.key_of_get? hget
  exact ⟨o, hget, hnext, hfree, transition_puts (hid ▸ hget) _ _ _ _⟩

theorem paymentRefunded_ok {orderId : UUID} {data : PaymentRefunded} {s' : Store} {result : Order}
    (h : paymentRefunded s orderId data = .ok (s', result)) :
    ∃ o status, s.orders.get? orderId = some o ∧ o.paymentStatus.Refundable ∧
      s.Puts s' { o with paymentStatus := status, version := o.version + 1 } := by
  simp only [paymentRefunded, bind_eq_ok, locked_eq_ok, require_eq_ok, pure_eq_ok,
    Prod.mk.injEq] at h
  obtain ⟨o, hget, _, href, _, -, _, -, rfl, -⟩ := h
  exact ⟨o, _, hget, href, rfl, rfl, rfl⟩

end Writes

section Puts

variable {s s' : Store} {o o' x : Order}

/-- The rows after one has been put. -/
theorem Store.Puts.mem (h : s.Puts s' o') (ho : o ∈ s.orders) (hid : o'.id = o.id) :
    x ∈ s'.orders ↔ x = o' ∨ (x ∈ s.orders ∧ x.id ≠ o.id) := by
  rw [h.orders]
  exact Table.mem_put_of_mem ho hid

theorem Store.Puts.get? (h : s.Puts s' o') {id : UUID} (ho : s.orders.get? id = some o)
    (hid : o'.id = id) : s'.orders.get? id = some o' := by
  rw [h.orders]
  exact Table.get?_put_self ho hid

end Puts

end Orders
end Marketplace
