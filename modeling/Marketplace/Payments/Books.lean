import Marketplace.Payments.Rows

/-!
# Payments: the books

`Booked` says everything a request can do to the payments and the refunds.  From
it follows `Books`, the invariant of every run of the three services: refunds are
positive and never exceed their payment, and a payment is for the total of its
order, which has left its payment behind once the payment has gone through.
-/

namespace Marketplace
namespace Payments

open Base
open Orders (Shop Order OrderStatus)

/-- The payment has gone through. -/
def PaymentStatus.Paid (status : PaymentStatus) : Prop :=
  status = .succeeded ∨ status = .refunded ∨ status = .partiallyRefunded

theorem not_paid_pending : ¬PaymentStatus.pending.Paid := by
  rintro (h | h | h) <;> cases h

theorem not_paid_failed : ¬PaymentStatus.failed.Paid := by
  rintro (h | h | h) <;> cases h

theorem PaymentStatus.Refundable.paid {status : PaymentStatus} (h : status.Refundable) :
    status.Paid := by
  rcases h with h | h
  · exact Or.inl h
  · exact Or.inr (Or.inr h)

/-! ## The invariant -/

/-- The body of `payment_authorized` for a payment, as the Order Service
validates it. -/
def Payment.authorization (q : Payment) : Option Orders.PaymentAuthorized :=
  Orders.PaymentAuthorized.parse q.providerPaymentIntentId (ofHundredths q.amount) q.currencyCode

/-- The order a payment is for. -/
structure Payment.For (q : Payment) (o : Order) : Prop where
  id : o.id = q.orderId
  total : o.grandTotal = q.amount
  currency : o.currencyCode = q.currencyCode
  left : q.status.Paid → o.status ≠ .pendingPayment ∧ o.status ≠ .paymentFailed

structure Account (p : Platform) (q : Payment) : Prop where
  positive : 0 < q.amount
  bounded : q.amount < 10 ^ 14
  covered : p.payments.refundedAmount q.id ≤ q.amount
  order : ∃ o ∈ p.shop.orders.orders, q.For o
  authorized : q.status.Paid → q.authorization.isSome

structure Books (env : PlatformEnv) (p : Platform) : Prop where
  shop : Orders.Sane env.shop p.shop
  issued : ∀ r ∈ p.payments.refunds, env.payments.uuid4.Issued p.payments.drawn r.id
  positive : ∀ r ∈ p.payments.refunds, 0 < r.amount
  owned : ∀ r ∈ p.payments.refunds, ∃ q ∈ p.payments.payments, q.id = r.paymentId
  intents : ∀ q ∈ p.payments.payments, ∀ q' ∈ p.payments.payments,
    q'.providerPaymentIntentId = q.providerPaymentIntentId → q' = q
  accounts : ∀ q ∈ p.payments.payments, Account p q

/-! ## What a handler does -/

section Handlers

variable {p : Platform} {recorded : Store} {intentId : String} {status : PaymentStatus}
variable {columns : Payment → Payment} {callBack : Payment → Shop × Except ServiceError Unit}
variable {q : Payment} {shop : Shop} {link : Link} {now : DateTime} {event : StripeEvent}

theorem settle_moves (hfind : recorded.getPaymentByIntent intentId = some q)
    (hne : q.status ≠ status) (hcall : callBack q = (shop, .ok ())) :
    settle p recorded intentId status columns callBack =
      (⟨shop, recorded.putPayment { columns q with status := status, version := q.version + 1 }⟩,
        .ok ()) := by
  simp only [settle, hfind, if_neg hne, hcall, conclude]

theorem settle_raises {e : ServiceError} (hfind : recorded.getPaymentByIntent intentId = some q)
    (hne : q.status ≠ status) (hcall : callBack q = (shop, .error e)) :
    settle p recorded intentId status columns callBack =
      ({ p with shop := shop }, .error (.service e)) := by
  simp only [settle, hfind, if_neg hne, hcall, conclude]

theorem settle_there (hfind : recorded.getPaymentByIntent intentId = some q)
    (heq : q.status = status) :
    settle p recorded intentId status columns callBack =
      ({ p with payments := recorded }, .ok ()) := by
  simp only [settle, hfind, if_pos heq]

theorem webhook_recorded {x : WebhookEvent} (h : p.payments.webhookEvents.get? event.id = some x) :
    handleWebhookEvent link now p event = (p, .ok ()) := by
  simp only [handleWebhookEvent, h]

theorem webhook_succeeded (hnew : p.payments.webhookEvents.get? event.id = none)
    (hadd : p.payments.addWebhookEvent ⟨event.id, event.type.text⟩ = .ok recorded)
    (htype : event.type = .paymentIntentSucceeded) :
    handleWebhookEvent link now p event = onPaymentSucceeded link now p recorded event.object := by
  simp only [handleWebhookEvent, hnew, hadd]
  rw [htype]

theorem webhook_failed (hnew : p.payments.webhookEvents.get? event.id = none)
    (hadd : p.payments.addWebhookEvent ⟨event.id, event.type.text⟩ = .ok recorded)
    (htype : event.type = .paymentIntentPaymentFailed) :
    handleWebhookEvent link now p event = onPaymentFailed link p recorded event.object := by
  simp only [handleWebhookEvent, hnew, hadd]
  rw [htype]

theorem webhook_raises {e : Failure} (hnew : p.payments.webhookEvents.get? event.id = none)
    (hadd : p.payments.addWebhookEvent ⟨event.id, event.type.text⟩ = .error e) :
    handleWebhookEvent link now p event = (p, .error e) := by
  simp only [handleWebhookEvent, hnew, hadd]

/-- A payment whose order is confirmed is authorised again. -/
theorem paymentAuthorized_confirmed {o : Order} (hparse : q.authorization.isSome)
    (hget : shop.orders.orders.get? q.orderId = some o) (hc : o.status = .confirmed) :
    paymentAuthorized .up now shop q.orderId q.providerPaymentIntentId (ofHundredths q.amount)
      q.currencyCode paymentService = (shop, .ok ()) := by
  obtain ⟨data, hdata⟩ := Option.isSome_iff_exists.mp hparse
  unfold Payment.authorization at hdata
  rw [paymentAuthorized, hdata]
  exact callback_answered (postPaymentAuthorized_confirmed hget hc)

end Handlers

/-! ## What a request books -/

/-- The columns of a payment that are never changed. -/
structure Payment.Same (q q' : Payment) : Prop where
  id : q'.id = q.id
  order : q'.orderId = q.orderId
  amount : q'.amount = q.amount
  currency : q'.currencyCode = q.currencyCode
  intent : q'.providerPaymentIntentId = q.providerPaymentIntentId

/-- The event of a webhook that moves a payment: it is new, and its callback was
answered. -/
structure Delivered (p : Platform) (call : Call) (event : StripeEvent) (q : Payment) : Prop where
  request : call.request = .webhook event
  link : call.link = .up
  unrecorded : p.payments.webhookEvents.get? event.id = none
  storable : event.id.length ≤ 255
  stored : q ∈ p.payments.payments
  intent : q.providerPaymentIntentId = event.object.id

inductive Booked (env : PlatformEnv) (p : Platform) (call : Call) (p' : Platform) : Prop
  | same (same : p.payments.Same p'.payments)
  | opened (q : Payment) (o : Order) (placed : o ∈ p.shop.orders.orders) (id : o.id = q.orderId)
      (total : o.grandTotal = q.amount) (currency : o.currencyCode = q.currencyCode)
      (shop : p'.shop = p.shop) (status : q.status = .pending) (positive : 0 < q.amount)
      (bounded : q.amount < 10 ^ 14)
      (added : p.payments.payments.insert? q = some p'.payments.payments)
      (refunds : p'.payments.refunds = p.payments.refunds)
      (drawn : p'.payments.drawn = p.payments.drawn + 1)
      (intent : ∀ x ∈ p.payments.payments, x.providerPaymentIntentId ≠ q.providerPaymentIntentId)
  | succeeded (event : StripeEvent) (q q' : Payment) (o o' : Order)
      (delivered : Delivered p call event q) (type : event.type = .paymentIntentSucceeded)
      (puts : p.payments.Puts p'.payments q') (same : q.Same q') (status : q'.status = .succeeded)
      (parsed : q.authorization.isSome) (before : p.shop.orders.orders.get? q.orderId = some o)
      (awaited : o.status = .confirmed ∨ o.status = .pendingPayment)
      (after : p'.shop.orders.orders.get? q.orderId = some o') (confirmed : o'.status = .confirmed)
  | failed (event : StripeEvent) (q q' : Payment) (o : Order)
      (delivered : Delivered p call event q) (type : event.type = .paymentIntentPaymentFailed)
      (puts : p.payments.Puts p'.payments q') (same : q.Same q') (status : q'.status = .failed)
      (before : p.shop.orders.orders.get? q.orderId = some o)
      (awaited : o.status = .paymentFailed ∨ o.status = .pendingPayment)
  | refunded (paymentId : UUID) (data : RefundCreate) (principal : Principal)
      (key : Option PaymentKey) (stripe : StripeReply String) (providerRefundId : String)
      (q : Payment) (a : ℚ) (r : Refund)
      (request : call.request = .createRefund paymentId data principal key stripe)
      (answer : stripe = .ok providerRefundId)
      (read : refundRead p.payments paymentId data principal = .ok (q, a))
      (write : refundWrite env.payments p.payments q a data principal key providerRefundId =
        .ok (p'.payments, r))

section Requests

variable {env : PlatformEnv} {p : Platform} {call : Call}

theorem createPayment_booked {data : PaymentCreate} {principal : Principal}
    {key : Option PaymentKey} {stripe : StripeReply StripePaymentIntent} :
    Booked env p call
      (p.commit (createPayment env.payments call.link p data principal key stripe)) := by
  cases hrun : createPayment env.payments call.link p data principal key stripe with
  | error e => exact .same (.refl _)
  | ok result =>
    obtain ⟨s', q, secret⟩ := result
    simp only [createPayment, bind_eq_ok] at hrun
    obtain ⟨found, -, hrun⟩ := hrun
    cases found with
    | some payment =>
      cases hrun
      exact .same (.refl _)
    | none =>
      simp only [bind_eq_ok, require_eq_ok, pure_eq_ok, Prod.mk.injEq, Prod.exists] at hrun
      obtain ⟨_, -, snapshot, hsnapshot, _, hpending, intent, -, t, x, hstore, rfl, rfl, -⟩ := hrun
      obtain ⟨hins, hrefunds, hdrawn, horder, hstatus, hpos, hmax, htotal, hcurrency, hintent⟩ :=
        storePayment_ok hstore
      have hget : getOrder call.link p.shop data.orderId principal = .ok snapshot := by
        cases hread : getOrder call.link p.shop data.orderId principal with
        | error e => rw [hread] at hsnapshot; cases hsnapshot
        | ok snapshot' => rw [hread] at hsnapshot; cases hsnapshot; rfl
      obtain ⟨o, ho, hid, -, hgrand, hcode⟩ := getOrder_ok hget
      rw [hgrand, toHundredths_ofHundredths] at htotal
      exact .opened x o ho (hid.trans horder.symm) htotal (hcode.symm.trans hcurrency) rfl hstatus
        hpos hmax hins hrefunds hdrawn hintent

theorem createRefund_booked {paymentId : UUID} {data : RefundCreate} {principal : Principal}
    {key : Option PaymentKey} {stripe : StripeReply String}
    (hcall : call.request = .createRefund paymentId data principal key stripe) :
    Booked env p call
      (createRefund env.payments call.link p paymentId data principal key stripe).1 := by
  simp only [createRefund]
  split
  · exact .same (.refl _)
  · exact .same (.refl _)
  split
  · exact .same (.refl _)
  next q a hread =>
  split
  · exact .same (.refl _)
  next providerRefundId =>
  split
  · exact .same (.refl _)
  next s' r hwrite =>
  exact .refunded paymentId data principal key _ providerRefundId q a r hcall rfl hread hwrite

/-- A handler leaves the books alone or, when its callback is answered, moves one
payment. -/
theorem settle_cases {recorded : Store} {intentId : String} {status : PaymentStatus}
    {columns : Payment → Payment} {callBack : Payment → Shop × Except ServiceError Unit}
    (hsame : p.payments.Same recorded) :
    p.payments.Same (settle p recorded intentId status columns callBack).1.payments ∨
    ∃ q ∈ p.payments.payments, q.providerPaymentIntentId = intentId ∧ q.status ≠ status ∧
      (callBack q).2 = .ok () ∧
      (settle p recorded intentId status columns callBack).1.shop = (callBack q).1 ∧
      p.payments.Puts (settle p recorded intentId status columns callBack).1.payments
        { columns q with status := status, version := q.version + 1 } := by
  unfold settle
  split
  · exact Or.inl hsame
  next q hq =>
  obtain ⟨hmem, hintent⟩ := getPaymentByIntent_eq_some hq
  rw [Table.mem_def, hsame.payments] at hmem
  split
  · exact Or.inl hsame
  next hne =>
  rcases hcall : callBack q with ⟨shop, e | _⟩
  · exact Or.inl (.refl _)
  · refine Or.inr ⟨q, hmem, hintent, hne, by rw [hcall], by rw [hcall]; rfl, ?_, ?_, ?_⟩
    · exact congrArg (Table.put · _) hsame.payments
    · exact hsame.refunds
    · exact hsame.drawn

theorem webhook_booked {event : StripeEvent} (hcall : call.request = .webhook event) :
    Booked env p call (handleWebhookEvent call.link call.now p event).1 := by
  unfold handleWebhookEvent
  split
  · exact .same (.refl _)
  next hnew =>
  split
  · exact .same (.refl _)
  next recorded hadd =>
  obtain ⟨hsame, hlength⟩ := addWebhookEvent_ok hadd
  split
  next htype =>
    rcases @settle_cases p recorded event.object.id .succeeded id (fun payment =>
        paymentAuthorized call.link call.now p.shop payment.orderId payment.providerPaymentIntentId
          (ofHundredths payment.amount) payment.currencyCode paymentService) hsame with
      hquiet | ⟨q, hq, hintent, -, hok, hshop, hput⟩
    · exact .same hquiet
    · obtain ⟨hlink, hserved, x, hanswer⟩ := callback_ok hok
      obtain ⟨data, o, o', hparse, hbefore, hawaited, hafter, hconfirmed⟩ :=
        postPaymentAuthorized_ok hanswer
      refine .succeeded event q _ o o' ⟨hcall, hlink, hnew, hlength, hq, hintent⟩ htype hput
        ⟨rfl, rfl, rfl, rfl, rfl⟩ rfl ?_ hbefore hawaited ?_ hconfirmed
      · rw [Payment.authorization, hparse]
        rfl
      · rw [onPaymentSucceeded, hshop]
        show (callback call.link p.shop _).1.orders.orders.get? _ = _
        rw [hserved]
        exact hafter
  next htype =>
    rcases @settle_cases p recorded event.object.id .failed (fun payment =>
        { payment with failureReason := some (declineReason event.object) }) (fun payment =>
        paymentFailed call.link p.shop payment.orderId (some payment.providerPaymentIntentId)
          (declineReason event.object) paymentService) hsame with
      hquiet | ⟨q, hq, hintent, -, hok, hshop, hput⟩
    · exact .same hquiet
    · obtain ⟨hlink, -, x, hanswer⟩ := callback_ok hok
      obtain ⟨o, hbefore, hawaited⟩ := postPaymentFailed_ok hanswer
      exact .failed event q _ o ⟨hcall, hlink, hnew, hlength, hq, hintent⟩ htype hput
        ⟨rfl, rfl, rfl, rfl, rfl⟩ rfl hbefore hawaited
  next => exact .same hsame

theorem step_booked (env : PlatformEnv) (p : Platform) (call : Call) :
    Booked env p call (step env p call) := by
  unfold step
  split
  next => exact .same (.refl _)
  next => exact createPayment_booked
  next hcall => exact createRefund_booked hcall
  next hcall => exact webhook_booked hcall

end Requests

/-! ## What a request leaves of the shop -/

section Shop

variable {env : PlatformEnv} {p : Platform}

theorem callback_effect {shop : Shop} {served : Shop × Reply Order} {link : Link}
    (h : Inventory.Inv shop.inventory) (hserved : Orders.Effect env.shop shop served.1) :
    Orders.Effect env.shop shop (callback link shop served).1 := by
  rcases callback_shop link shop served with hsame | hsame
  · rw [hsame]
    exact .refl h
  · rw [hsame]
    exact hserved

theorem settle_effect {recorded : Store} {intentId : String} {status : PaymentStatus}
    {columns : Payment → Payment} {callBack : Payment → Shop × Except ServiceError Unit}
    (h : Inventory.Inv p.shop.inventory)
    (hcall : ∀ q, Orders.Effect env.shop p.shop (callBack q).1) :
    Orders.Effect env.shop p.shop (settle p recorded intentId status columns callBack).1.shop := by
  unfold settle
  split
  · exact .refl h
  next q _ =>
  split
  · exact .refl h
  have he := hcall q
  rcases hrun : callBack q with ⟨shop, e | _⟩
  · rw [hrun] at he
    exact he
  · rw [hrun] at he
    exact he

theorem step_shop (h : Inventory.Inv p.shop.inventory) (call : Call) :
    Orders.Effect env.shop p.shop (step env p call).shop := by
  unfold step
  split
  next request _ => exact Orders.step_effect h (call.now, request)
  next data principal key stripe _ =>
    cases createPayment env.payments call.link p data principal key stripe <;> exact .refl h
  next paymentId data principal key stripe _ =>
    simp only [createRefund]
    split
    · exact .refl h
    · exact .refl h
    split
    · exact .refl h
    split
    · exact .refl h
    split
    · exact .refl h
    · exact callback_effect h (Orders.postPaymentRefunded_effect h _)
  next event _ =>
    unfold handleWebhookEvent
    split
    · exact .refl h
    split
    · exact .refl h
    split
    · exact settle_effect h fun q => callback_effect h (Orders.postPaymentAuthorized_effect h _)
    · exact settle_effect h fun q => callback_effect h (Orders.postPaymentFailed_effect h _)
    · exact .refl h

end Shop

/-! ## The invariant over runs -/

section Invariant

variable {env : PlatformEnv} {p p' : Platform} {call : Call} {q q' : Payment} {o o' : Order}

/-- An order that has left its payment behind does not come back to it. -/
theorem Order.Next.left (h : o.Next o')
    (hleft : o.status ≠ .pendingPayment ∧ o.status ≠ .paymentFailed) :
    o'.status ≠ .pendingPayment ∧ o'.status ≠ .paymentFailed := by
  rcases h.status with ⟨hst, -⟩ | hmoves
  · rw [hst]
    exact hleft
  · exact hmoves.leaves hleft.1

/-- The order of a payment stays the order of the payment. -/
theorem Payment.For.kept (h : q.For o) (ho : o ∈ p.shop.orders.orders)
    (he : Orders.Effect env.shop p.shop p'.shop) : ∃ o' ∈ p'.shop.orders.orders, q.For o' := by
  obtain ⟨o', ho', rfl | hnext⟩ := he.kept o ho
  · exact ⟨o', ho', h⟩
  · exact ⟨o', ho', hnext.same.id.trans h.id, hnext.same.total.trans h.total,
      hnext.same.currency.trans h.currency, fun hpaid => Order.Next.left hnext (h.left hpaid)⟩

theorem Account.kept (h : Account p q) (he : Orders.Effect env.shop p.shop p'.shop)
    (hsum : p'.payments.refundedAmount q.id ≤ q.amount) : Account p' q := by
  obtain ⟨o, ho, hfor⟩ := h.order
  exact ⟨h.positive, h.bounded, hsum, hfor.kept ho he, h.authorized⟩

/-- The account of a payment whose status has changed. -/
theorem Account.moved (h : Account p q) (hsame : q.Same q')
    (he : Orders.Effect env.shop p.shop p'.shop)
    (hsum : p'.payments.refundedAmount q.id ≤ q.amount)
    (hpaid : q'.status.Paid → q.authorization.isSome ∧ ∀ o ∈ p'.shop.orders.orders,
      o.id = q.orderId → o.status ≠ .pendingPayment ∧ o.status ≠ .paymentFailed) :
    Account p' q' := by
  obtain ⟨o, ho, hfor⟩ := h.order
  obtain ⟨o', ho', hfor'⟩ := hfor.kept ho he
  refine ⟨by rw [hsame.amount]; exact h.positive, by rw [hsame.amount]; exact h.bounded, ?_,
    ⟨o', ho', ?_, ?_, ?_, fun hp => (hpaid hp).2 o' ho' hfor'.id⟩, fun hp => ?_⟩
  · rw [hsame.id, hsame.amount]
    exact hsum
  · rw [hsame.order, hfor'.id]
  · rw [hsame.amount, hfor'.total]
  · rw [hsame.currency, hfor'.currency]
  · have hparsed := (hpaid hp).1
    unfold Payment.authorization at hparsed ⊢
    rw [hsame.intent, hsame.amount, hsame.currency]
    exact hparsed

theorem Books.empty (env : PlatformEnv) : Books env Platform.empty where
  shop := .empty env.shop
  issued _ h := absurd h (Table.not_mem_empty _)
  positive _ h := absurd h (Table.not_mem_empty _)
  owned _ h := absurd h (Table.not_mem_empty _)
  intents _ h := absurd h (Table.not_mem_empty _)
  accounts _ h := absurd h (Table.not_mem_empty _)

/-- The payments after one has been put. -/
theorem mem_put (hput : p'.payments.payments = p.payments.payments.put q')
    (hq : q ∈ p.payments.payments) (hid : q'.id = q.id) {x : Payment} :
    x ∈ p'.payments.payments ↔ x = q' ∨ (x ∈ p.payments.payments ∧ x.id ≠ q.id) := by
  rw [hput]
  exact Table.mem_put_of_mem hq hid

/-- A request that puts one payment, with or without a refund of it. -/
theorem Books.puts (h : Books env p) (he : Orders.Effect env.shop p.shop p'.shop)
    (hput : p'.payments.payments = p.payments.payments.put q') (hq : q ∈ p.payments.payments)
    (hsame : q.Same q') (hdrawn : p.payments.drawn ≤ p'.payments.drawn)
    (hrefunds : ∀ r ∈ p'.payments.refunds, r ∈ p.payments.refunds ∨
      (env.payments.uuid4.Issued p'.payments.drawn r.id ∧ 0 < r.amount ∧ r.paymentId = q.id))
    (hsum : ∀ id, id ≠ q.id → p'.payments.refundedAmount id = p.payments.refundedAmount id)
    (haccount : Account p' q') : Books env p' := by
  have hid := hsame.id
  refine ⟨h.shop.effect he, fun r hr => ?_, fun r hr => ?_, fun r hr => ?_, fun x hx y hy hxy => ?_,
    fun x hx => ?_⟩
  · rcases hrefunds r hr with hr | ⟨hissued, -⟩
    · exact (h.issued r hr).mono hdrawn
    · exact hissued
  · rcases hrefunds r hr with hr | ⟨-, hpos, -⟩
    · exact h.positive r hr
    · exact hpos
  · have hnew : q' ∈ p'.payments.payments := (mem_put hput hq hid).mpr (Or.inl rfl)
    rcases hrefunds r hr with hr | ⟨-, -, hpayment⟩
    · obtain ⟨x, hx, hxr⟩ := h.owned r hr
      by_cases hxq : x.id = q.id
      · exact ⟨q', hnew, by rw [hid, ← hxq, hxr]⟩
      · exact ⟨x, (mem_put hput hq hid).mpr (Or.inr ⟨hx, hxq⟩), hxr⟩
    · exact ⟨q', hnew, hid.trans hpayment.symm⟩
  · have hold : ∀ z ∈ p.payments.payments, z.providerPaymentIntentId = q'.providerPaymentIntentId →
        z = q := fun z hz hzq => h.intents q hq z hz (hzq.trans hsame.intent)
    rcases (mem_put hput hq hid).mp hx with rfl | ⟨hx, hne⟩
    · rcases (mem_put hput hq hid).mp hy with rfl | ⟨hy, hne⟩
      · rfl
      · exact absurd (congrArg Payment.id (hold y hy hxy)) hne
    · rcases (mem_put hput hq hid).mp hy with rfl | ⟨hy, -⟩
      · exact absurd (congrArg Payment.id (hold x hx hxy.symm)) hne
      · exact h.intents x hx y hy hxy
  · rcases (mem_put hput hq hid).mp hx with rfl | ⟨hx, hne⟩
    · exact haccount
    · refine (h.accounts x hx).kept he ?_
      rw [hsum x.id hne]
      exact (h.accounts x hx).covered

/-- A webhook puts one payment and leaves the refunds alone. -/
theorem Books.settled (h : Books env p) (he : Orders.Effect env.shop p.shop p'.shop)
    (hput : p.payments.Puts p'.payments q') (hq : q ∈ p.payments.payments) (hsame : q.Same q')
    (hpaid : q'.status.Paid → q.authorization.isSome ∧ ∀ o ∈ p'.shop.orders.orders,
      o.id = q.orderId → o.status ≠ .pendingPayment ∧ o.status ≠ .paymentFailed) :
    Books env p' := by
  have hsum : ∀ id, p'.payments.refundedAmount id = p.payments.refundedAmount id :=
    fun id => refundedAmount_same hput.refunds
  refine h.puts he hput.payments hq hsame hput.drawn.ge (fun r hr => ?_) (fun id _ => hsum id) ?_
  · rw [hput.refunds] at hr
    exact Or.inl hr
  · refine (h.accounts q hq).moved hsame he ?_ hpaid
    rw [hsum]
    exact (h.accounts q hq).covered

/-- A stored refund fits into what is left of its payment. -/
theorem refund_covered {paymentId : UUID} {data : RefundCreate} {principal : Principal} {a : ℚ}
    (hread : refundRead p.payments paymentId data principal = .ok (q, a)) :
    p.payments.refundedAmount q.id + toHundredths a ≤ q.amount := by
  obtain ⟨-, -, -, -, hle⟩ := refundRead_eq_ok.mp hread
  have := toHundredths_le hle
  unfold remaining at this
  omega

/-- A request that leaves the payments and the refunds alone. -/
theorem Books.same (h : Books env p) (he : Orders.Effect env.shop p.shop p'.shop)
    (hsame : p.payments.Same p'.payments) : Books env p' := by
  refine ⟨h.shop.effect he, ?_, ?_, ?_, ?_, fun q hq => ?_⟩
  · rw [hsame.refunds, hsame.drawn]
    exact h.issued
  · rw [hsame.refunds]
    exact h.positive
  · rw [hsame.refunds, hsame.payments]
    exact h.owned
  · rw [hsame.payments]
    exact h.intents
  · rw [hsame.payments] at hq
    refine (h.accounts q hq).kept he ?_
    rw [refundedAmount_same hsame.refunds]
    exact (h.accounts q hq).covered

/-- A payment that is new has not been refunded. -/
theorem Books.new_sum (h : Books env p)
    (hins : p.payments.payments.insert? q = some p'.payments.payments)
    (hrefunds : p'.payments.refunds = p.payments.refunds) :
    p'.payments.refundedAmount q.id = 0 := by
  rw [refundedAmount_same hrefunds]
  refine refundedAmount_none fun r hr hpayment => ?_
  obtain ⟨x, hx, hxr⟩ := h.owned r hr
  exact (Table.insert?_eq_some hins).1 x hx (hxr.trans hpayment)

/-- A request that adds a payment. -/
theorem Books.opened (h : Books env p) (he : Orders.Effect env.shop p.shop p'.shop)
    (hins : p.payments.payments.insert? q = some p'.payments.payments)
    (hrefunds : p'.payments.refunds = p.payments.refunds)
    (hdrawn : p.payments.drawn ≤ p'.payments.drawn)
    (hintent : ∀ x ∈ p.payments.payments, x.providerPaymentIntentId ≠ q.providerPaymentIntentId)
    (haccount : Account p' q) : Books env p' := by
  refine ⟨h.shop.effect he, ?_, ?_, ?_, fun x hx y hy hxy => ?_, fun x hx => ?_⟩
  · rw [hrefunds]
    exact fun r hr => (h.issued r hr).mono hdrawn
  · rw [hrefunds]
    exact h.positive
  · rw [hrefunds]
    intro r hr
    obtain ⟨x, hx, hxr⟩ := h.owned r hr
    exact ⟨x, (Table.mem_insert? hins).mpr (Or.inl hx), hxr⟩
  · rcases (Table.mem_insert? hins).mp hx with hx | rfl
    · rcases (Table.mem_insert? hins).mp hy with hy | rfl
      · exact h.intents x hx y hy hxy
      · exact absurd hxy.symm (hintent x hx)
    · rcases (Table.mem_insert? hins).mp hy with hy | rfl
      · exact absurd hxy (hintent y hy)
      · rfl
  · rcases (Table.mem_insert? hins).mp hx with hx | rfl
    · refine (h.accounts x hx).kept he ?_
      rw [refundedAmount_same hrefunds]
      exact (h.accounts x hx).covered
    · exact haccount

/-- A request that refunds a payment that has gone through. -/
theorem Books.refunded (h : Books env p) (he : Orders.Effect env.shop p.shop p'.shop)
    {paymentId : UUID} {data : RefundCreate} {principal : Principal} {key : Option PaymentKey}
    {providerRefundId : String} {a : ℚ} {r : Refund}
    (hread : refundRead p.payments paymentId data principal = .ok (q, a))
    (hwrite : refundWrite env.payments p.payments q a data principal key providerRefundId =
      .ok (p'.payments, r)) : Books env p' := by
  obtain ⟨hins, hput, hdrawn, hid, hpayment, hst, hamount, hpos, -, -⟩ := refundWrite_ok hwrite
  obtain ⟨hget, -, hrefundable, -, -⟩ := refundRead_eq_ok.mp hread
  have hq : q ∈ p.payments.payments := Table.mem_of_get? hget
  refine h.puts he hput hq ⟨rfl, rfl, rfl, rfl, rfl⟩ (hdrawn ▸ Nat.le_succ _) (fun x hx => ?_)
    (fun id hne => ?_) ?_
  · rcases (Table.mem_insert? hins).mp hx with hx | rfl
    · exact Or.inl hx
    · refine Or.inr ⟨?_, hpos, hpayment⟩
      rw [hdrawn, hid]
      exact Supply.issued_succ
  · rw [refundedAmount_insert hins hst, if_neg (by rw [hpayment]; exact hne.symm), add_zero]
  · refine (h.accounts q hq).moved ⟨rfl, rfl, rfl, rfl, rfl⟩ he ?_ fun _ =>
      ⟨(h.accounts q hq).authorized hrefundable.paid, fun x hx hxid => ?_⟩
    · rw [refundedAmount_insert hins hst, if_pos hpayment, hamount]
      exact refund_covered hread
    · obtain ⟨o, ho, hfor⟩ := (h.accounts q hq).order
      obtain ⟨o', ho', hfor'⟩ := hfor.kept ho he
      cases Table.eq_of_key_eq hx ho' (hxid.trans hfor'.id.symm)
      exact hfor'.left hrefundable.paid

theorem Books.step (h : Books env p) (call : Call) : Books env (step env p call) := by
  have he := @step_shop env p h.shop.inventory.inv call
  rcases step_booked env p call with
    hsame |
    ⟨q, o, ho, hid, htotal, hcurrency, hshop, hst, hpos, hmax, hins, hrefunds, hdrawn, hintent⟩ |
    ⟨event, q, q', o, o', hd, -, hput, hsame, -, hparsed, -, -, hafter, hconfirmed⟩ |
    ⟨event, q, q', o, hd, -, hput, hsame, hst, -, -⟩ |
    ⟨paymentId, data, principal, key, stripe, rid, q, a, r, -, -, hread, hwrite⟩
  · exact h.same he hsame
  · have hunpaid : ¬q.status.Paid := by
      rw [hst]
      exact not_paid_pending
    refine h.opened he hins hrefunds (hdrawn ▸ Nat.le_succ _) hintent ⟨hpos, hmax, ?_,
      ⟨o, hshop ▸ ho, hid, htotal, hcurrency, fun hp => absurd hp hunpaid⟩,
      fun hp => absurd hp hunpaid⟩
    rw [h.new_sum hins hrefunds]
    exact hpos.le
  · refine h.settled he hput hd.stored hsame fun _ => ⟨hparsed, fun x hx hxid => ?_⟩
    cases Table.eq_of_key_eq hx (Table.mem_of_get? hafter)
      (hxid.trans (Table.key_of_get? hafter).symm)
    rw [hconfirmed]
    exact ⟨nofun, nofun⟩
  · refine h.settled he hput hd.stored hsame fun hp => ?_
    rw [hst] at hp
    exact absurd hp not_paid_failed
  · exact h.refunded he hread hwrite

/-- The payment of an intent is found by it. -/
theorem Books.byIntent (h : Books env p) (hq : q ∈ p.payments.payments) :
    p.payments.getPaymentByIntent q.providerPaymentIntentId = some q := by
  cases hfind : p.payments.getPaymentByIntent q.providerPaymentIntentId with
  | none => exact absurd (decide_eq_true rfl) (List.find?_eq_none.mp hfind q hq)
  | some x =>
    obtain ⟨hx, hintent⟩ := getPaymentByIntent_eq_some hfind
    rw [h.intents q hq x hx hintent]

/-- The payment an event is about, after the event has been recorded. -/
theorem Books.found (h : Books env p) {recorded : Store} (hsame : p.payments.Same recorded)
    (hq : q ∈ p.payments.payments) :
    recorded.getPaymentByIntent q.providerPaymentIntentId = some q := by
  rw [Store.getPaymentByIntent, hsame.payments]
  exact h.byIntent hq

/-- The order of a payment, as it is found. -/
theorem Books.orderOf (h : Books env p) (hq : q ∈ p.payments.payments)
    (hget : p.shop.orders.orders.get? q.orderId = some o) : q.For o := by
  obtain ⟨x, hx, hfor⟩ := (h.accounts q hq).order
  have hid : x.id = o.id := hfor.id.trans (Table.key_of_get? hget).symm
  rw [← Table.eq_of_key_eq hx (Table.mem_of_get? hget) hid]
  exact hfor

theorem run_books (env : PlatformEnv) (calls : List Call) :
    Books env (run (Payments.step env) Platform.empty calls) :=
  run_keeps_all (fun _ call h => h.step call) calls (.empty env)

end Invariant
end Payments
end Marketplace
