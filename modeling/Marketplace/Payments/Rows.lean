import Marketplace.Payments.Service

/-!
# Payments: what an operation does to the rows

Each read is turned into the facts it checked, each write into the rows it adds
or puts, and each callback into what the Order Service made of it.
-/

namespace Marketplace
namespace Payments

open Base
open Orders (Shop Order PaymentAuthorized PaymentFailed)

/-! ## Callbacks -/

section Callbacks

variable {link : Link} {now : DateTime} {shop : Shop} {served : Shop × Reply Order} {orderId : UUID}

theorem callback_ok (h : (callback link shop served).2 = .ok ()) :
    link = .up ∧ (callback link shop served).1 = served.1 ∧ ∃ o, served.2 = .ok o := by
  obtain ⟨shop', reply⟩ := served
  cases link with
  | up =>
    cases reply with
    | ok o => exact ⟨rfl, rfl, o, rfl⟩
    | refused code => cases h
  | lost => cases h
  | down => cases h

theorem callback_shop (link : Link) (shop : Shop) (served : Shop × Reply Order) :
    (callback link shop served).1 = shop ∨ (callback link shop served).1 = served.1 := by
  obtain ⟨shop', reply⟩ := served
  cases link with
  | up => cases reply <;> exact Or.inr rfl
  | lost => exact Or.inr rfl
  | down => exact Or.inl rfl

theorem callback_answered {shop' : Shop} {o : Order} (h : served = (shop', .ok o)) :
    callback .up shop served = (shop', .ok ()) := by
  rw [h]
  rfl

theorem callback_refused {shop' : Shop} {code : Nat} (h : served = (shop', .refused code)) :
    ∃ e, callback .up shop served = (shop', .error e) := by
  rw [h]
  exact ⟨_, rfl⟩

/-- The token of the Payment Service opens the payment endpoints. -/
theorem paymentEndpoint_paymentService {α : Type} (body : Option α)
    (operation : α → Shop × Except Failure Order) :
    Orders.paymentEndpoint shop body paymentService operation =
      match body with
      | none => (shop, .refused 422)
      | some data => Orders.respond (operation data) := rfl

/-- The Order Service takes an authorised payment: the order was confirmed, or
awaited its payment and is confirmed now. -/
theorem postPaymentAuthorized_ok {body : Option PaymentAuthorized} {o : Order}
    (h : (Orders.postPaymentAuthorized now shop orderId body paymentService).2 = .ok o) :
    ∃ data order order', body = some data ∧ shop.orders.orders.get? orderId = some order ∧
      (order.status = .confirmed ∨ order.status = .pendingPayment) ∧
      (Orders.postPaymentAuthorized now shop orderId body paymentService).1.orders.orders.get?
        orderId = some order' ∧ order'.status = .confirmed := by
  unfold Orders.postPaymentAuthorized at h ⊢
  rw [paymentEndpoint_paymentService] at h ⊢
  cases body with
  | none => cases h
  | some data =>
    simp only at h ⊢
    unfold Orders.paymentAuthorized at h ⊢
    cases hread : Orders.authorizeRead shop.orders orderId data with
    | error e => rw [hread] at h; cases h
    | ok finding =>
      rw [hread] at h
      cases finding with
      | done order =>
        obtain ⟨hget, hc⟩ := Orders.authorizeRead_done.mp hread
        exact ⟨data, order, order, rfl, hget, Or.inl hc, hget, hc⟩
      | act order =>
        obtain ⟨hget, hp, -⟩ := Orders.authorizeRead_act.mp hread
        have hid : order.id = orderId := Table.key_of_get? hget
        simp only at h ⊢
        rcases hcall : Orders.commitOrder now shop.inventory order orderService with
          ⟨inventory, e | _⟩
        · rw [hcall] at h
          cases h
        · have hput := Orders.authorizeWrite_puts (hid ▸ hget) data paymentService
          exact ⟨data, order, _, rfl, hget, Or.inr hp, hput.get? hget hid, rfl⟩

/-- The Order Service takes a failed payment only for an order that awaits it or
has failed already. -/
theorem postPaymentFailed_ok {body : Option PaymentFailed} {o : Order}
    (h : (Orders.postPaymentFailed shop orderId body paymentService).2 = .ok o) :
    ∃ order, shop.orders.orders.get? orderId = some order ∧
      (order.status = .paymentFailed ∨ order.status = .pendingPayment) := by
  unfold Orders.postPaymentFailed at h
  rw [paymentEndpoint_paymentService] at h
  cases body with
  | none => cases h
  | some data =>
    simp only [Orders.paymentFailed] at h
    cases hread : Orders.failRead shop.orders orderId with
    | error e => rw [hread] at h; cases h
    | ok finding =>
      cases finding with
      | done order =>
        obtain ⟨hget, hf⟩ := Orders.failRead_done.mp hread
        exact ⟨order, hget, Or.inl hf⟩
      | act order =>
        obtain ⟨hget, hp⟩ := Orders.failRead_act.mp hread
        exact ⟨order, hget, Or.inr hp⟩

/-- A confirmed order takes an authorised payment again, and nothing changes. -/
theorem postPaymentAuthorized_confirmed {data : PaymentAuthorized} {order : Order}
    (hget : shop.orders.orders.get? orderId = some order) (hc : order.status = .confirmed) :
    Orders.postPaymentAuthorized now shop orderId (some data) paymentService =
      (shop, .ok order) := by
  have hread : Orders.authorizeRead shop.orders orderId data = .ok (.done order) :=
    Orders.authorizeRead_done.mpr ⟨hget, hc⟩
  rw [Orders.postPaymentAuthorized, paymentEndpoint_paymentService]
  simp only [Orders.paymentAuthorized, hread, Orders.respond]

/-- An order that is neither awaiting its payment nor confirmed takes none. -/
theorem postPaymentAuthorized_left {order : Order}
    (hget : shop.orders.orders.get? orderId = some order) (hc : order.status ≠ .confirmed)
    (hp : order.status ≠ .pendingPayment) (body : Option PaymentAuthorized) :
    ∃ code, Orders.postPaymentAuthorized now shop orderId body paymentService =
      (shop, .refused code) := by
  rw [Orders.postPaymentAuthorized, paymentEndpoint_paymentService]
  cases body with
  | none => exact ⟨422, rfl⟩
  | some data =>
    simp only [Orders.paymentAuthorized]
    cases hread : Orders.authorizeRead shop.orders orderId data with
    | error e => exact ⟨e.statusCode, rfl⟩
    | ok finding =>
      cases finding with
      | done o =>
        obtain ⟨hget', hc'⟩ := Orders.authorizeRead_done.mp hread
        cases hget.symm.trans hget'
        exact absurd hc' hc
      | act o =>
        obtain ⟨hget', hp', -⟩ := Orders.authorizeRead_act.mp hread
        cases hget.symm.trans hget'
        exact absurd hp' hp

/-- An order that awaits the payment is confirmed when its group can be committed,
and stays as it is when the commit fails without a trace. -/
theorem postPaymentAuthorized_awaited {data : PaymentAuthorized} {order : Order}
    (hget : shop.orders.orders.get? orderId = some order) (hp : order.status = .pendingPayment)
    (hpays : data.Pays order) :
    (∀ inventory, Orders.commitOrder now shop.inventory order orderService = (inventory, .ok ()) →
      ∃ shop' o order', Orders.postPaymentAuthorized now shop orderId (some data) paymentService =
          (shop', .ok o) ∧
        shop'.orders.orders.get? orderId = some order' ∧ order'.status = .confirmed) ∧
    ∀ e, Orders.commitOrder now shop.inventory order orderService = (shop.inventory, .error e) →
      ∃ code, Orders.postPaymentAuthorized now shop orderId (some data) paymentService =
        (shop, .refused code) := by
  have hread : Orders.authorizeRead shop.orders orderId data = .ok (.act order) :=
    Orders.authorizeRead_act.mpr ⟨hget, hp, hpays⟩
  have hid : order.id = orderId := Table.key_of_get? hget
  rw [Orders.postPaymentAuthorized, paymentEndpoint_paymentService]
  simp only [Orders.paymentAuthorized, hread]
  constructor
  · intro inventory hcommit
    have hput := Orders.authorizeWrite_puts (hid ▸ hget) data paymentService
    rw [hcommit]
    exact ⟨_, _, _, rfl, hput.get? hget hid, rfl⟩
  · intro e hcommit
    rw [hcommit]
    exact ⟨_, rfl⟩

/-- An order that awaits its payment becomes a failed one when its group can be
released, and stays as it is when the release fails without a trace. -/
theorem postPaymentFailed_awaited {data : PaymentFailed} {order : Order}
    (hget : shop.orders.orders.get? orderId = some order) (hp : order.status = .pendingPayment) :
    (∀ inventory, Orders.releaseOrder shop.inventory order data.reason orderService =
        (inventory, .ok ()) →
      ∃ shop' o order', Orders.postPaymentFailed shop orderId (some data) paymentService =
          (shop', .ok o) ∧
        shop'.orders.orders.get? orderId = some order' ∧ order'.status = .paymentFailed) ∧
    ∀ e, Orders.releaseOrder shop.inventory order data.reason orderService =
        (shop.inventory, .error e) →
      ∃ code, Orders.postPaymentFailed shop orderId (some data) paymentService =
        (shop, .refused code) := by
  have hread : Orders.failRead shop.orders orderId = .ok (.act order) :=
    Orders.failRead_act.mpr ⟨hget, hp⟩
  have hid : order.id = orderId := Table.key_of_get? hget
  rw [Orders.postPaymentFailed, paymentEndpoint_paymentService]
  simp only [Orders.paymentFailed, hread]
  constructor
  · intro inventory hrelease
    have hput := Orders.failWrite_puts (hid ▸ hget) data paymentService
    rw [hrelease]
    exact ⟨_, _, _, rfl, hput.get? hget hid, rfl⟩
  · intro e hrelease
    rw [hrelease]
    exact ⟨_, rfl⟩

end Callbacks

/-! ## Reads -/

theorem getOrder_ok {link : Link} {shop : Shop} {orderId : UUID} {token : Principal}
    {snapshot : OrderSnapshot} (h : getOrder link shop orderId token = .ok snapshot) :
    ∃ o ∈ shop.orders.orders, o.id = orderId ∧ snapshot.status = o.status ∧
      snapshot.grandTotal = ofHundredths o.grandTotal ∧ snapshot.currencyCode = o.currencyCode := by
  simp only [getOrder, bind_eq_ok] at h
  obtain ⟨reply, hreply, h⟩ := h
  have hserved : reply = Orders.getOrder shop orderId token := by
    cases link <;> cases hreply
    rfl
  subst hserved
  unfold Orders.getOrder at h
  cases hread : Orders.customerOrder shop.orders orderId token with
  | error e =>
    rw [hread] at h
    simp only at h
    split at h <;> cases h
  | ok o =>
    rw [hread] at h
    cases h
    have hget := (Orders.customerOrder_eq_ok.mp hread).1
    exact ⟨o, Table.mem_of_get? hget, Table.key_of_get? hget, rfl, rfl, rfl⟩

/-- Who may see a payment. -/
def Payment.VisibleTo (q : Payment) (principal : Principal) : Prop :=
  q.customerId = principal.subject ∨ principal.hasRole [.admin] = true

section Store

variable {s s' : Store} {paymentId : UUID} {principal : Principal} {q : Payment}

theorem getPayment_eq_ok :
    getPayment s paymentId principal = .ok q ↔
      s.payments.get? paymentId = some q ∧ q.VisibleTo principal := by
  simp only [getPayment, bind_eq_ok, orRaise_eq_ok, require_eq_ok, pure_eq_ok, Payment.VisibleTo]
  constructor
  · rintro ⟨x, hget, _, hv, rfl⟩
    exact ⟨hget, hv⟩
  · rintro ⟨hget, hv⟩
    exact ⟨q, hget, (), hv, rfl⟩

theorem refundRead_eq_ok {data : RefundCreate} {a : ℚ} :
    refundRead s paymentId data principal = .ok (q, a) ↔
      s.payments.get? paymentId = some q ∧ q.VisibleTo principal ∧ q.status.Refundable ∧
        data.amount.getD (ofHundredths (remaining s q)) = a ∧ a ≤ ofHundredths (remaining s q) := by
  simp only [refundRead, bind_eq_ok, getPayment_eq_ok, require_eq_ok, pure_eq_ok, Prod.mk.injEq]
  constructor
  · rintro ⟨x, ⟨hget, hv⟩, _, hst, _, hle, rfl, rfl⟩
    exact ⟨hget, hv, hst, rfl, hle⟩
  · rintro ⟨hget, hv, hst, rfl, hle⟩
    exact ⟨q, ⟨hget, hv⟩, (), hst, (), hle, rfl, rfl⟩

theorem getPaymentByIntent_eq_some {intentId : String}
    (h : s.getPaymentByIntent intentId = some q) :
    q ∈ s.payments ∧ q.providerPaymentIntentId = intentId :=
  ⟨List.mem_of_find?_eq_some h, by simpa using List.find?_some h⟩

/-- The key has not been used. -/
def Unused (s : Store) (actorId : UUID) (idempotencyKey : Option PaymentKey) : Prop :=
  ∀ key ∈ idempotencyKey, s.idempotency.get? (actorId, key.text) = none

theorem replayed_of_unused {α : Type} {actorId : UUID} {key : Option PaymentKey}
    (h : Unused s actorId key) (requestHash : String) (resource : UUID → Option α) :
    replayed s actorId key requestHash resource = .ok none := by
  cases key with
  | none => rfl
  | some key => simp [replayed, h key rfl, require, pure, Except.pure, bind, Except.bind]

end Store

/-! ## Writes -/

/-- The payments and refunds are the same. -/
structure Store.Same (s s' : Store) : Prop where
  payments : s'.payments = s.payments
  refunds : s'.refunds = s.refunds
  drawn : s'.drawn = s.drawn

/-- Nothing but the row of one payment has changed: it is `row` now. -/
structure Store.Puts (s s' : Store) (row : Payment) : Prop where
  payments : s'.payments = s.payments.put row
  refunds : s'.refunds = s.refunds
  drawn : s'.drawn = s.drawn

section Writes

variable {env : Env} {s s' : Store} {principal : Principal} {key : Option PaymentKey} {q : Payment}

theorem Store.Same.refl (s : Store) : s.Same s := ⟨rfl, rfl, rfl⟩

theorem addWebhookEvent_of_new {event : StripeEvent} (htype : event.type.text.length ≤ 120)
    (hlength : event.id.length ≤ 255) (hnew : s.webhookEvents.get? event.id = none) :
    ∃ s', s.addWebhookEvent ⟨event.id, event.type.text⟩ = .ok s' := by
  have hid : textColumn "provider_event_id" 255 event.id = .ok event.id :=
    textColumn_eq_ok.mpr ⟨rfl, hlength⟩
  have htext : textColumn "event_type" 120 event.type.text = .ok event.type.text :=
    textColumn_eq_ok.mpr ⟨rfl, htype⟩
  obtain ⟨events, hins⟩ := @Table.insert?_isSome _ _ WebhookEvent.providerEventId _ s.webhookEvents
    ⟨event.id, event.type.text⟩ (Table.get?_eq_none.mp hnew)
  refine ⟨{ s with webhookEvents := events }, ?_⟩
  simp only [Store.addWebhookEvent, hid, htext, ok_bind, hins]
  rfl

theorem addWebhookEvent_ok {event : WebhookEvent} (h : s.addWebhookEvent event = .ok s') :
    s.Same s' ∧ event.providerEventId.length ≤ 255 := by
  simp only [Store.addWebhookEvent, bind_eq_ok, textColumn_eq_ok, orRaise_eq_ok, pure_eq_ok] at h
  obtain ⟨_, ⟨rfl, hlength⟩, _, -, events, -, rfl⟩ := h
  exact ⟨⟨rfl, rfl, rfl⟩, hlength⟩

theorem recordKey_ok {actorId : UUID} {requestHash resourceType : String} {id : UUID}
    (h : recordKey s actorId key requestHash resourceType id = .ok s') :
    s.Same s' ∧ Unused s actorId key := by
  cases key with
  | none =>
    cases h
    exact ⟨.refl s, nofun⟩
  | some key =>
    simp only [recordKey, Store.addIdempotencyRecord, bind_eq_ok, orRaise_eq_ok, pure_eq_ok] at h
    obtain ⟨records, hins, rfl⟩ := h
    refine ⟨⟨rfl, rfl, rfl⟩, fun k hk => ?_⟩
    cases hk
    exact Table.get?_eq_none.mpr (Table.insert?_eq_some hins).1

theorem recordKey_of_unused {actorId : UUID} (h : Unused s actorId key)
    (requestHash resourceType : String) (id : UUID) :
    ∃ s', recordKey s actorId key requestHash resourceType id = .ok s' := by
  cases key with
  | none => exact ⟨s, rfl⟩
  | some key =>
    obtain ⟨records, hins⟩ := @Table.insert?_isSome _ _ IdempotencyRecord.key _ s.idempotency
      ⟨actorId, key.text, requestHash, resourceType, id⟩ (Table.get?_eq_none.mp (h key rfl))
    refine ⟨{ s with idempotency := records }, ?_⟩
    simp only [recordKey, Store.addIdempotencyRecord, hins]
    rfl

/-- A new payment, for an order as the Order Service answered. -/
theorem storePayment_ok {data : PaymentCreate} {order : OrderSnapshot}
    {intent : StripePaymentIntent}
    (h : storePayment env s data principal key order intent = .ok (s', q)) :
    s.payments.insert? q = some s'.payments ∧ s'.refunds = s.refunds ∧ s'.drawn = s.drawn + 1 ∧
      q.orderId = data.orderId ∧ q.status = .pending ∧ 0 < q.amount ∧ q.amount < 10 ^ 14 ∧
      toHundredths order.grandTotal = q.amount ∧ order.currencyCode = q.currencyCode ∧
      ∀ x ∈ s.payments, x.providerPaymentIntentId ≠ q.providerPaymentIntentId := by
  simp only [storePayment, bind_eq_ok, numericColumn_eq_ok, textColumn_eq_ok, pure_eq_ok,
    Prod.mk.injEq, Store.addPayment, require_eq_ok, orRaise_eq_ok] at h
  obtain ⟨amount, ⟨hamount, -, hmax⟩, currency, ⟨hcurrency, -⟩, _, ⟨rfl, -⟩, t,
    ⟨_, hpos, _, -, _, hintents, payments, hins, rfl⟩, u, hkey, rfl, rfl⟩ := h
  have hsame := (recordKey_ok hkey).1
  refine ⟨?_, hsame.refunds, congrArg (· + 1) hsame.drawn, rfl, rfl, hpos, hmax, hamount, hcurrency,
    hintents⟩
  rw [hins]
  exact congrArg some hsame.payments.symm

/-- The payment after a refund. -/
def Payment.afterRefund (q : Payment) (s : Store) (a : ℚ) : Payment :=
  { q with
    status := if a = ofHundredths (remaining s q) then .refunded else .partiallyRefunded
    version := q.version + 1 }

/-- A new refund, and the status its amount gives to the payment. -/
theorem refundWrite_ok {a : ℚ} {data : RefundCreate} {providerRefundId : String} {r : Refund}
    (h : refundWrite env s q a data principal key providerRefundId = .ok (s', r)) :
    s.refunds.insert? r = some s'.refunds ∧
      s'.payments = s.payments.put (q.afterRefund s a) ∧
      s'.drawn = s.drawn + 1 ∧ r.id = env.uuid4.value s.drawn ∧ r.paymentId = q.id ∧
      r.status = .succeeded ∧ r.amount = toHundredths a ∧ 0 < r.amount ∧
      providerRefundId.length ≤ 255 ∧ Unused s principal.subject key := by
  simp only [refundWrite, bind_eq_ok, numericColumn_eq_ok, textColumn_eq_ok, pure_eq_ok,
    Prod.mk.injEq, Store.addRefund, require_eq_ok, orRaise_eq_ok] at h
  obtain ⟨amount, ⟨hamount, -⟩, _, ⟨rfl, hid⟩, t, ⟨_, hpos, refunds, hins, rfl⟩, u, hkey, rfl,
    rfl⟩ := h
  obtain ⟨hsame, hunused⟩ := recordKey_ok hkey
  refine ⟨?_, hsame.payments, congrArg (· + 1) hsame.drawn, rfl, rfl, rfl, hamount.symm, hpos, hid,
    hunused⟩
  rw [hins]
  exact congrArg some hsame.refunds.symm

/-- A refund that can be stored is. -/
theorem refundWrite_succeeds {a : ℚ} {data : RefundCreate} {providerRefundId : String}
    (hpos : 0 < toHundredths a) (hmax : toHundredths a < 10 ^ 14)
    (hid : providerRefundId.length ≤ 255) (hkey : Unused s principal.subject key)
    (hfresh : ∀ r ∈ s.refunds, r.id ≠ env.uuid4.value s.drawn) :
    ∃ s' r, refundWrite env s q a data principal key providerRefundId = .ok (s', r) := by
  have hcolumn : numericColumn "amount" a = .ok (toHundredths a) :=
    numericColumn_eq_ok.mpr ⟨rfl, by omega, hmax⟩
  have htext : textColumn "provider_refund_id" 255 providerRefundId = .ok providerRefundId :=
    textColumn_eq_ok.mpr ⟨rfl, hid⟩
  let refund : Refund :=
    ⟨env.uuid4.value s.drawn, q.id, providerRefundId, toHundredths a, data.reason, .succeeded⟩
  obtain ⟨refunds, hins⟩ := @Table.insert?_isSome _ _ Refund.id _ s.refunds refund hfresh
  have hadd : s.addRefund refund = .ok { s with refunds := refunds } := by
    rw [Store.addRefund, require_pos hpos, ok_bind, hins]
    rfl
  obtain ⟨u, hrecord⟩ := @recordKey_of_unused
    (Store.putPayment { s with refunds := refunds } (q.afterRefund s a))
    key principal.subject hkey (env.refundHash q.id data) "refund" refund.id
  refine ⟨{ u with drawn := u.drawn + 1 }, refund, ?_⟩
  rw [refundWrite, hcolumn, ok_bind, htext, ok_bind]
  show (s.addRefund refund >>= _) = _
  rw [hadd, ok_bind]
  show (recordKey _ principal.subject key _ "refund" refund.id >>= _) = _
  rw [← Payment.afterRefund, hrecord]
  rfl

end Writes

/-! ## What has been refunded -/

section Refunded

variable {s s' : Store} {id : UUID}

theorem refundedAmount_nonneg (h : ∀ r ∈ s.refunds, 0 < r.amount) : 0 ≤ s.refundedAmount id := by
  refine List.sum_nonneg fun n hn => ?_
  obtain ⟨r, hr, rfl⟩ := List.mem_map.mp hn
  exact (h r (List.mem_filter.mp hr).1).le

theorem refundedAmount_same (h : s'.refunds = s.refunds) :
    s'.refundedAmount id = s.refundedAmount id := by
  rw [Store.refundedAmount, Store.refundedAmount, h]

theorem refundedAmount_insert {r : Refund} (h : s.refunds.insert? r = some s'.refunds)
    (hst : r.status = .succeeded) :
    s'.refundedAmount id = s.refundedAmount id + if r.paymentId = id then r.amount else 0 := by
  rw [Store.refundedAmount, (Table.insert?_eq_some h).2, List.filter_append, List.map_append,
    List.sum_append, Store.refundedAmount]
  by_cases hid : r.paymentId = id
  · simp [hid, hst]
  · simp [hid]

/-- A payment that no refund is for. -/
theorem refundedAmount_none (h : ∀ r ∈ s.refunds, r.paymentId ≠ id) : s.refundedAmount id = 0 := by
  have hnil : (s.refunds.rows.filter fun r => r.paymentId = id ∧ r.status = .succeeded) = [] :=
    List.filter_eq_nil_iff.mpr fun r hr => by simp [h r hr]
  rw [Store.refundedAmount, hnil]
  rfl

end Refunded

end Payments
end Marketplace
