import Marketplace.Orders.Coverage
import Marketplace.Payments.Charge

/-!
# Payments: the orders that are paid for

An order is confirmed by the success event of its payment, and the payment is
written once the Order Service has answered.  When the answer is lost the order is
confirmed all the same and its payment is not, until the event comes again.  That
helps as long as the order is only confirmed: once it has been dispatched, every
delivery is refused, and the payment is never written.
-/

namespace Marketplace
namespace Payments

open Base
open Orders (Shop Order OrderStatus Dispatched)
open Inventory (GroupIs GroupExpired)

/-! ## What the Order Service makes of a payment -/

/-- A commit of the group goes through. -/
def Committable (now : DateTime) (inventory : Inventory.Store) (g : UUID) : Prop :=
  GroupIs inventory g .committed ∨ (GroupIs inventory g .active ∧ ¬GroupExpired inventory g now)

/-- The order awaits its payment, and its group can be committed. -/
structure Confirmable (now : DateTime) (shop : Shop) (orderId : UUID) (o : Order) : Prop where
  read : shop.orders.orders.get? orderId = some o
  awaiting : o.status = .pendingPayment
  group : ∃ g, o.reservationGroupId = some g ∧ Committable now shop.inventory g

/-- One order has been confirmed. -/
structure Confirmed (shop shop' : Shop) (orderId : UUID) (o o' : Order) : Prop where
  puts : shop.orders.Puts shop'.orders o'
  same : o.Same o'
  id : o'.id = orderId
  status : o'.status = .confirmed

section Orders

variable {env : Orders.ShopEnv} {shop : Shop} {now : DateTime} {orderId : UUID}

theorem commitGroup_ok_iff (h : Inventory.Inv shop.inventory) (g : UUID) :
    (Orders.commitGroup now shop.inventory g orderService).2 = .ok () ↔
      Committable now shop.inventory g := by
  by_cases hc : GroupIs shop.inventory g .committed
  · rw [Orders.commitGroup_committed hc]
    exact iff_of_true rfl (Or.inl hc)
  by_cases ha : GroupIs shop.inventory g .active
  · by_cases hexp : GroupExpired shop.inventory g now
    · obtain ⟨inventory, e, hrun, -⟩ := Orders.commitGroup_expired h ha hexp
      rw [hrun]
      refine iff_of_false (fun he => by cases he) ?_
      rintro (hc' | ⟨-, hnot⟩)
      · exact hc hc'
      · exact hnot hexp
    · obtain ⟨inventory, hrun, -⟩ := Orders.commitGroup_active h ha hexp
      rw [hrun]
      exact iff_of_true rfl (Or.inr ⟨ha, hexp⟩)
  · obtain ⟨e, hrun⟩ := @Orders.commitGroup_fails now _ _ hc ha
    rw [hrun]
    refine iff_of_false (fun he => by cases he) ?_
    rintro (hc' | ⟨ha', -⟩)
    · exact hc hc'
    · exact ha ha'

/-- A valid payment for an order confirms it if and only if the order is
confirmable; otherwise the orders stay as they were. -/
theorem postPaymentAuthorized_cases (h : Orders.Sane env shop)
    {body : Option Orders.PaymentAuthorized}
    (hpays : ∀ data ∈ body, ∀ o, shop.orders.orders.get? orderId = some o → data.Pays o) :
    (∀ o, body.isSome → Confirmable now shop orderId o →
      ∃ shop' a o', Orders.postPaymentAuthorized now shop orderId body paymentService =
        (shop', .ok a) ∧ Confirmed shop shop' orderId o o') ∧
    ((body.isSome → ∀ o, ¬Confirmable now shop orderId o) →
      (Orders.postPaymentAuthorized now shop orderId body paymentService).1.orders =
        shop.orders) := by
  rw [Orders.postPaymentAuthorized, paymentEndpoint_paymentService]
  cases body with
  | none => exact ⟨fun o hsome => absurd hsome (by decide), fun _ => rfl⟩
  | some data =>
    simp only [Orders.paymentAuthorized]
    constructor
    · rintro o - ⟨hget, hp, g, hg, hcommit⟩
      have hread : Orders.authorizeRead shop.orders orderId data = .ok (.act o) :=
        Orders.authorizeRead_act.mpr ⟨hget, hp, hpays data rfl o hget⟩
      obtain rfl : o.id = orderId := Table.key_of_get? hget
      rcases hrun : Orders.commitGroup now shop.inventory g orderService with ⟨inventory, r⟩
      have hok := (commitGroup_ok_iff h.inventory.inv g).mpr hcommit
      rw [hrun] at hok
      obtain rfl : r = .ok () := hok
      simp only [hread, Orders.commitOrder, hg, hrun]
      exact ⟨_, _, _, rfl, Orders.authorizeWrite_puts hget data paymentService,
        ⟨rfl, rfl, rfl, rfl, rfl⟩, rfl, rfl⟩
    · intro hnot
      cases hread : Orders.authorizeRead shop.orders orderId data with
      | error e => rfl
      | ok finding =>
        cases finding with
        | done o => rfl
        | act o =>
          obtain ⟨hget, hp, -⟩ := Orders.authorizeRead_act.mp hread
          obtain ⟨g, -, hg, -⟩ := h.placed o (Table.mem_of_get? hget)
          simp only [Orders.commitOrder, hg]
          rcases hrun : Orders.commitGroup now shop.inventory g orderService with
            ⟨inventory, e | _⟩
          · rfl
          · have hcommit := (commitGroup_ok_iff h.inventory.inv g).mp (congrArg Prod.snd hrun)
            exact absurd ⟨hget, hp, g, hg, hcommit⟩ (hnot rfl o)

theorem Confirmed.mem {shop' : Shop} {o o' x : Order} (h : Confirmed shop shop' orderId o o')
    (ho : o ∈ shop.orders.orders) :
    x ∈ shop'.orders.orders ↔ x = o' ∨ (x ∈ shop.orders.orders ∧ x.id ≠ o.id) :=
  h.puts.mem ho h.same.id

end Orders

/-! ## Lost answers -/

/-- The event confirms the order of the payment, and the answer of the Order
Service is lost. -/
structure Unanswered (p : Platform) (call : Call) (event : StripeEvent) (q : Payment) (o : Order) :
    Prop where
  request : call.request = .webhook event
  type : event.type = .paymentIntentSucceeded
  link : call.link = .lost
  unrecorded : p.payments.webhookEvents.get? event.id = none
  storable : event.id.length ≤ 255
  stored : q ∈ p.payments.payments
  intent : q.providerPaymentIntentId = event.object.id
  authorized : q.authorization.isSome
  confirmable : Confirmable call.now p.shop q.orderId o

def LosesConfirmation (p : Platform) (call : Call) : Prop :=
  ∃ event q o, Unanswered p call event q o

/-- Nobody but the Payment Service tells the Order Service of a payment. -/
def Call.Routed (call : Call) : Prop :=
  match call.request with
  | .shop (.paymentAuthorized _ _ _) => False
  | _ => True

abbrev RoutedCall := { call : Call // call.Routed }

/-- One request of a run. -/
def routedStep (env : PlatformEnv) (p : Platform) (call : RoutedCall) : Platform :=
  step env p call.val

/-- The order has a payment that went through. -/
def PaidFor (p : Platform) (o : Order) : Prop :=
  ∃ q ∈ p.payments.payments, q.orderId = o.id ∧ q.status.Paid

/-- Every order that is being fulfilled is paid for. -/
def OrdersPaid (p : Platform) : Prop :=
  ∀ o ∈ p.shop.orders.orders, o.status.Fulfilling → PaidFor p o

section Step

variable {env : PlatformEnv} {p : Platform} {call : Call}

theorem Books.pays (h : Books env p) {q : Payment} (hq : q ∈ p.payments.payments) :
    ∀ data ∈ q.authorization, ∀ o, p.shop.orders.orders.get? q.orderId = some o → data.Pays o :=
  fun _ hdata _ hget => authorization_pays hdata (h.orderOf hq hget)

theorem Payment.Same.refl (q : Payment) : q.Same q := ⟨rfl, rfl, rfl, rfl, rfl⟩

/-- A payment is never lost, and one that has gone through stays so. -/
theorem Books.keeps (h : Books env p) (call : Call) {q : Payment} (hq : q ∈ p.payments.payments) :
    ∃ q' ∈ (Payments.step env p call).payments.payments,
      q.Same q' ∧ (q.status.Paid → q'.status.Paid) := by
  have hput : ∀ {x : Payment} {p' : Platform} (x' : Payment), x ∈ p.payments.payments → x.Same x' →
      p'.payments.payments = p.payments.payments.put x' → (x.status.Paid → x'.status.Paid) →
      ∃ q' ∈ p'.payments.payments, q.Same q' ∧ (q.status.Paid → q'.status.Paid) := by
    intro x p' x' hx hsame hput hpaid
    by_cases hxq : q.id = x.id
    · cases Table.eq_of_key_eq hq hx hxq
      exact ⟨x', (mem_put hput hx hsame.id).mpr (Or.inl rfl), hsame, hpaid⟩
    · exact ⟨q, (mem_put hput hx hsame.id).mpr (Or.inr ⟨hq, hxq⟩), .refl q, id⟩
  rcases step_booked env p call with
    hsame | ⟨x, o, -, -, -, -, -, -, -, -, hins, -, -, -⟩ |
    ⟨event, x, x', o, o', hd, -, hputs, hsame, hst, -, -, -, -, -⟩ |
    ⟨event, x, x', o, hd, -, hputs, hsame, hst, hbefore, hawaited⟩ |
    ⟨paymentId, data, principal, key, stripe, rid, x, a, r, -, -, hread, hwrite⟩
  · exact ⟨q, by rw [hsame.payments]; exact hq, .refl q, id⟩
  · exact ⟨q, (Table.mem_insert? hins).mpr (Or.inl hq), .refl q, id⟩
  · exact hput x' hd.stored hsame hputs.payments fun _ => Or.inl hst
  · -- A failure is taken only while the order awaits its payment, which then is not paid.
    refine hput x' hd.stored hsame hputs.payments fun hpaid => ?_
    obtain ⟨hp, hf⟩ := (h.orderOf hd.stored hbefore).left hpaid
    rcases hawaited with hst' | hst'
    · exact absurd hst' hf
    · exact absurd hst' hp
  · obtain ⟨-, hputs, -, -, -, -, -, -, -, -⟩ := refundWrite_ok hwrite
    obtain ⟨hget, -, -, -, -⟩ := refundRead_eq_ok.mp hread
    refine hput (x.afterRefund p.payments a) (Table.mem_of_get? hget) ⟨rfl, rfl, rfl, rfl, rfl⟩
      hputs fun _ => ?_
    show (if _ then PaymentStatus.refunded else .partiallyRefunded).Paid
    split_ifs
    · exact Or.inr (Or.inl rfl)
    · exact Or.inr (Or.inr rfl)

theorem Books.unpaid (h : Books env p) {o : Order} (ho : o ∈ p.shop.orders.orders)
    (hp : o.status = .pendingPayment) : ¬PaidFor p o := by
  rintro ⟨q, hq, horder, hpaid⟩
  exact ((h.orderOf hq (horder ▸ Table.get?_key ho)).left hpaid).1 hp

/-- The order of an unanswered event is confirmed and nothing is written. -/
theorem Unanswered.confirms (h : Books env p) {event : StripeEvent} {q : Payment} {o : Order}
    (hu : Unanswered p call event q o) :
    (step env p call).payments = p.payments ∧
      ∃ o', Confirmed p.shop (step env p call).shop q.orderId o o' := by
  obtain ⟨recorded, hadd⟩ := @addWebhookEvent_of_new p.payments event (by rw [hu.type]; decide)
    hu.storable hu.unrecorded
  have hfind : recorded.getPaymentByIntent event.object.id = some q :=
    hu.intent ▸ h.found (addWebhookEvent_ok hadd).1 hu.stored
  have hne : q.status ≠ .succeeded := fun hst =>
    ((h.orderOf hu.stored hu.confirmable.read).left (Or.inl hst)).1 hu.confirmable.awaiting
  obtain ⟨shop', a, o', hserved, hconfirmed⟩ :=
    (postPaymentAuthorized_cases h.shop (h.pays hu.stored)).1 o hu.authorized hu.confirmable
  have hcall : ∃ e, paymentAuthorized .lost call.now p.shop q.orderId q.providerPaymentIntentId
      (ofHundredths q.amount) q.currencyCode paymentService = (shop', .error e) := by
    rw [paymentAuthorized, ← Payment.authorization, hserved]
    exact ⟨_, rfl⟩
  obtain ⟨e, hcall⟩ := hcall
  have hrun := (@webhook_succeeded p recorded .lost call.now event hu.unrecorded hadd hu.type).trans
    (settle_raises hfind hne hcall)
  have hstep : step env p call = { p with shop := shop' } := by
    simp only [step, hu.request, hu.link]
    exact congrArg Prod.fst hrun
  rw [hstep]
  exact ⟨rfl, o', hconfirmed⟩

theorem callback_before {P : OrderStatus → Prop} {shop : Shop} {served : Shop × Reply Order}
    {link : Link} (h : Orders.Before P shop.orders served.1.orders) :
    Orders.Before P shop.orders (callback link shop served).1.orders := by
  rcases callback_shop link shop served with hsame | hsame
  · exact .of_same (by rw [hsame])
  · rw [hsame]
    exact h

theorem paymentEndpoint_before {P : OrderStatus → Prop} {α : Type} {shop : Shop} {body : Option α}
    {operation : α → Shop × Except Failure Order}
    (h : ∀ data, Orders.Before P shop.orders (operation data).1.orders) :
    Orders.Before P shop.orders
      (Orders.paymentEndpoint shop body paymentService operation).1.orders := by
  rw [paymentEndpoint_paymentService]
  cases body with
  | none => exact .of_same rfl
  | some data =>
    show Orders.Before P shop.orders (Orders.respond (operation data)).1.orders
    rw [Orders.respond_fst]
    exact h data

theorem postPaymentRefunded_before {P : OrderStatus → Prop} {shop : Shop} {orderId : UUID}
    {body : Option Orders.PaymentRefunded} :
    Orders.Before P shop.orders
      (Orders.postPaymentRefunded shop orderId body paymentService).1.orders := by
  refine paymentEndpoint_before fun data => ?_
  have hb := @Orders.paymentRefunded_before shop P orderId data
  unfold Shop.commit at hb
  split at hb <;> next hrun => simpa only [hrun] using hb

theorem postPaymentFailed_before {shop : Shop} {orderId : UUID}
    {body : Option Orders.PaymentFailed} :
    Orders.Before OrderStatus.Fulfilling shop.orders
      (Orders.postPaymentFailed shop orderId body paymentService).1.orders := by
  refine paymentEndpoint_before fun data => Orders.paymentFailed_before ?_ orderId data _
  rintro (hf | hf | hf | hf) <;> cases hf

/-- What a handler makes of the shop is what its callback does. -/
theorem settle_shop {recorded : Store} {intentId : String} {status : PaymentStatus}
    {columns : Payment → Payment} {callBack : Payment → Shop × Except ServiceError Unit} :
    (settle p recorded intentId status columns callBack).1.shop = p.shop ∨
    ∃ q, recorded.getPaymentByIntent intentId = some q ∧
      (settle p recorded intentId status columns callBack).1.shop = (callBack q).1 ∧
      ((callBack q).2 = .ok () →
        (settle p recorded intentId status columns callBack).1.payments.payments =
          recorded.payments.put { columns q with status := status, version := q.version + 1 }) := by
  unfold settle
  split
  · exact Or.inl rfl
  next q hq =>
  split
  · exact Or.inl rfl
  rcases hcall : callBack q with ⟨shop, e | _⟩
  · exact Or.inr ⟨q, hq, by rw [hcall]; rfl, fun hok => by rw [hcall] at hok; cases hok⟩
  · exact Or.inr ⟨q, hq, by rw [hcall]; rfl, fun _ => rfl⟩

/-- The orders that are being fulfilled were so before, or one has been confirmed
and is paid for. -/
def FulfilsPaid (p p' : Platform) : Prop :=
  Orders.Before OrderStatus.Fulfilling p.shop.orders p'.shop.orders ∨
    ∃ k o o', Confirmed p.shop p'.shop k o o' ∧ o ∈ p.shop.orders.orders ∧ PaidFor p' o'

/-- The success event fulfils no order but that of its payment, which is paid for
then unless the answer was lost. -/
theorem onPaymentSucceeded_fulfils (h : Books env p) {recorded : Store} {event : StripeEvent}
    (hrequest : call.request = .webhook event) (htype : event.type = .paymentIntentSucceeded)
    (hnew : p.payments.webhookEvents.get? event.id = none)
    (hadd : p.payments.addWebhookEvent ⟨event.id, event.type.text⟩ = .ok recorded)
    (hl : ¬LosesConfirmation p call) :
    FulfilsPaid p (onPaymentSucceeded call.link call.now p recorded event.object).1 := by
  obtain ⟨hsame, hlength⟩ := addWebhookEvent_ok hadd
  unfold onPaymentSucceeded FulfilsPaid
  rcases @settle_shop p recorded event.object.id .succeeded id (fun payment =>
      paymentAuthorized call.link call.now p.shop payment.orderId payment.providerPaymentIntentId
        (ofHundredths payment.amount) payment.currencyCode paymentService) with
    hshop | ⟨q, hq, hshop, hput⟩
  · exact Or.inl (.of_same (by rw [hshop]))
  obtain ⟨hstored, hintent⟩ := getPaymentByIntent_eq_some hq
  have hmem : q ∈ p.payments.payments := by
    rw [← hsame.payments]
    exact hstored
  rw [hshop]
  obtain ⟨hok, hnone⟩ := @postPaymentAuthorized_cases _ p.shop call.now q.orderId h.shop
    q.authorization (h.pays hmem)
  by_cases hc : q.authorization.isSome ∧ ∃ o, Confirmable call.now p.shop q.orderId o
  · obtain ⟨hauthorized, o, hconfirmable⟩ := hc
    obtain ⟨shop', a, o', hserved, hconfirmed⟩ := hok o hauthorized hconfirmable
    cases hlink : call.link with
    | down => exact Or.inl (.of_same rfl)
    | lost =>
      exact absurd ⟨event, q, o, hrequest, htype, hlink, hnew, hlength, hmem, hintent, hauthorized,
        hconfirmable⟩ hl
    | up =>
      have hcall : paymentAuthorized .up call.now p.shop q.orderId q.providerPaymentIntentId
          (ofHundredths q.amount) q.currencyCode paymentService = (shop', .ok ()) :=
        callback_answered hserved
      rw [hlink] at hput
      rw [hcall]
      refine Or.inr ⟨q.orderId, o, o', hconfirmed, Table.mem_of_get? hconfirmable.read,
        { q with status := .succeeded, version := q.version + 1 }, ?_, hconfirmed.id.symm,
        Or.inl rfl⟩
      rw [hput (congrArg Prod.snd hcall)]
      exact Table.mem_put_self hstored rfl
  · refine Or.inl (callback_before (.of_same ?_))
    exact congrArg Orders.Store.orders (hnone fun hsome o ho => hc ⟨hsome, o, ho⟩)

theorem onPaymentFailed_fulfils {link : Link} (recorded : Store) (intent : Intent) :
    FulfilsPaid p (onPaymentFailed link p recorded intent).1 := by
  refine Or.inl ?_
  unfold onPaymentFailed
  rcases @settle_shop p recorded intent.id .failed (fun payment =>
      { payment with failureReason := some (declineReason intent) }) (fun payment =>
      paymentFailed link p.shop payment.orderId (some payment.providerPaymentIntentId)
        (declineReason intent) paymentService) with hshop | ⟨q, -, hshop, -⟩
  · exact .of_same (by rw [hshop])
  · rw [hshop]
    exact callback_before postPaymentFailed_before

theorem createRefund_fulfils {link : Link} (paymentId : UUID) (data : RefundCreate)
    (principal : Principal) (key : Option PaymentKey) (stripe : StripeReply String) :
    FulfilsPaid p (createRefund env.payments link p paymentId data principal key stripe).1 := by
  refine Or.inl ?_
  simp only [createRefund]
  split
  · exact .of_same rfl
  · exact .of_same rfl
  split
  · exact .of_same rfl
  split
  · exact .of_same rfl
  split
  · exact .of_same rfl
  · exact callback_before postPaymentRefunded_before

/-- An order that a routed request has fulfilled is paid for, unless the answer was
lost. -/
theorem routedStep_fulfils (h : Books env p) (call : RoutedCall)
    (hl : ¬LosesConfirmation p call.val) : FulfilsPaid p (routedStep env p call) := by
  obtain ⟨⟨now, link, request⟩, hrouted⟩ := call
  unfold routedStep step
  cases request with
  | shop request =>
    refine Or.inl (Orders.step_before h.shop.inventory.inv (now, request) ?_)
    rintro k data principal rfl
    exact hrouted
  | createPayment data principal key stripe =>
    simp only
    cases createPayment env.payments link p data principal key stripe with
    | error e => exact Or.inl (.of_same rfl)
    | ok result => exact Or.inl (.of_same rfl)
  | createRefund paymentId data principal key stripe =>
    exact createRefund_fulfils paymentId data principal key stripe
  | webhook event =>
    simp only [handleWebhookEvent]
    split
    · exact Or.inl (.of_same rfl)
    next hnew =>
    split
    · exact Or.inl (.of_same rfl)
    next recorded hadd =>
    split
    next htype => exact onPaymentSucceeded_fulfils h rfl htype hnew hadd hl
    next => exact onPaymentFailed_fulfils recorded event.object
    next => exact Or.inl (.of_same rfl)

theorem ordersPaid_step_iff (h : Books env p) (hp : OrdersPaid p) (call : RoutedCall) :
    OrdersPaid (routedStep env p call) ↔ ¬LosesConfirmation p call.val := by
  constructor
  · rintro hp' ⟨event, q, o, hu⟩
    obtain ⟨hpayments, o', hconfirmed⟩ := hu.confirms h
    have ho : o ∈ p.shop.orders.orders := Table.mem_of_get? hu.confirmable.read
    obtain ⟨x, hx, horder, hpaid⟩ :=
      hp' o' ((hconfirmed.mem ho).mpr (Or.inl rfl)) (Or.inl hconfirmed.status)
    refine h.unpaid ho hu.confirmable.awaiting ⟨x, ?_, ?_, hpaid⟩
    · rw [← hpayments]
      exact hx
    · rw [horder, hconfirmed.same.id]
  · intro hl o' ho' hf
    have hkeep : ∀ o ∈ p.shop.orders.orders, o.Same o' → o.status.Fulfilling →
        PaidFor (routedStep env p call) o' := by
      intro o ho hsame hold
      obtain ⟨q, hq, horder, hpaid⟩ := hp o ho hold
      obtain ⟨q', hq', hsame', hstays⟩ := h.keeps call.val hq
      exact ⟨q', hq', hsame'.order.trans (horder.trans hsame.id.symm), hstays hpaid⟩
    rcases routedStep_fulfils h call hl with hbefore | ⟨k, x, x', hconfirmed, hx, hpaid⟩
    · obtain ⟨o, ho, hsame, hold⟩ := hbefore o' ho' hf
      exact hkeep o ho hsame hold
    · rcases (hconfirmed.mem hx).mp ho' with rfl | ⟨ho, -⟩
      · exact hpaid
      · exact hkeep o' ho (.refl o') hf

end Step

theorem OrdersPaid.empty : OrdersPaid Platform.empty :=
  fun _ ho => absurd ho (Table.not_mem_empty _)

/-- A run of the three services keeps every order that is being fulfilled paid for
if and only if no answer to a payment that confirms its order is lost in it. -/
theorem orders_paid (env : PlatformEnv) (calls : List RoutedCall) :
    Along (routedStep env) OrdersPaid Platform.empty calls ↔
      Admitted (routedStep env) (fun p call => ¬LosesConfirmation p call.val) Platform.empty
        calls := by
  have hkeep : ∀ p call, Books env p → Books env (routedStep env p call) :=
    fun _ call h => h.step call.val
  have hstep : ∀ p call, Books env p → OrdersPaid p →
      (OrdersPaid (routedStep env p call) ↔ ¬LosesConfirmation p call.val) :=
    fun _ call h hp => ordersPaid_step_iff h hp call
  exact along_iff_admitted hkeep hstep (.empty env) .empty

/-! ## The next delivery -/

/-- Every order that is being fulfilled has a payment that the Order Service can be
told of. -/
def Backed (p : Platform) : Prop :=
  ∀ o ∈ p.shop.orders.orders, o.status.Fulfilling →
    ∃ q ∈ p.payments.payments, q.orderId = o.id ∧ q.authorization.isSome

section Delivery

variable {env : PlatformEnv} {p : Platform}

theorem Payment.Same.authorization {q q' : Payment} (h : q.Same q') :
    q'.authorization = q.authorization := by
  rw [Payment.authorization, h.intent, h.amount, h.currency, Payment.authorization]

theorem Backed.step (hb : Backed p) (h : Books env p) (call : RoutedCall) :
    Backed (routedStep env p call) := by
  intro o' ho' hf
  have hkeep : ∀ o ∈ p.shop.orders.orders, o.Same o' → o.status.Fulfilling →
      ∃ q ∈ (routedStep env p call).payments.payments,
        q.orderId = o'.id ∧ q.authorization.isSome := by
    intro o ho hsame hold
    obtain ⟨q, hq, horder, hauthorized⟩ := hb o ho hold
    obtain ⟨q', hq', hsame', -⟩ := h.keeps call.val hq
    refine ⟨q', hq', ?_, ?_⟩
    · rw [hsame'.order, horder, hsame.id]
    · rw [hsame'.authorization]
      exact hauthorized
  by_cases hl : LosesConfirmation p call.val
  · obtain ⟨event, q, o, hu⟩ := hl
    obtain ⟨hpayments, x', hconfirmed⟩ := hu.confirms h
    rcases (hconfirmed.mem (Table.mem_of_get? hu.confirmable.read)).mp ho' with rfl | ⟨ho, -⟩
    · refine ⟨q, ?_, hconfirmed.id.symm, hu.authorized⟩
      show q ∈ (Payments.step env p call.val).payments.payments
      rw [hpayments]
      exact hu.stored
    · exact hkeep o' ho (.refl o') hf
  · rcases routedStep_fulfils h call hl with hbefore | ⟨k, x, x', hconfirmed, hx, hpaid⟩
    · obtain ⟨o, ho, hsame, hold⟩ := hbefore o' ho' hf
      exact hkeep o ho hsame hold
    · rcases (hconfirmed.mem hx).mp ho' with rfl | ⟨ho, -⟩
      · obtain ⟨q, hq, horder, hq'⟩ := hpaid
        exact ⟨q, hq, horder, ((h.step call.val).accounts q hq).authorized hq'⟩
      · exact hkeep o' ho (.refl o') hf

theorem run_backed (env : PlatformEnv) (calls : List RoutedCall) :
    Books env (run (routedStep env) Platform.empty calls) ∧
      Backed (run (routedStep env) Platform.empty calls) := by
  have hkeep : ∀ p call, Books env p ∧ Backed p →
      Books env (routedStep env p call) ∧ Backed (routedStep env p call) :=
    fun _ call h => ⟨h.1.step call.val, h.2.step h.1 call⟩
  exact run_keeps_all hkeep calls ⟨.empty env, fun _ ho => absurd ho (Table.not_mem_empty _)⟩

/-- The delivery of a new success event for an order that is being fulfilled and
unpaid. -/
theorem deliver_unpaid (h : Books env p) {o : Order} (ho : o ∈ p.shop.orders.orders)
    (hf : o.status.Fulfilling) (hunpaid : ¬PaidFor p o) {q : Payment}
    (hq : q ∈ p.payments.payments) (horder : q.orderId = o.id) (hparsed : q.authorization.isSome)
    (now : DateTime) {event : StripeEvent} (htype : event.type = .paymentIntentSucceeded)
    (hintent : event.object.id = q.providerPaymentIntentId) (hlength : event.id.length ≤ 255)
    (hnew : p.payments.webhookEvents.get? event.id = none) :
    (o.status = .confirmed → (handleWebhookEvent .up now p event).2 = .ok () ∧
      PaidFor (handleWebhookEvent .up now p event).1 o) ∧
    (o.status ≠ .confirmed → (∃ e, (handleWebhookEvent .up now p event).2 = .error e) ∧
      ¬PaidFor (handleWebhookEvent .up now p event).1 o) := by
  obtain ⟨recorded, hadd⟩ := @addWebhookEvent_of_new p.payments event (by rw [htype]; decide)
    hlength hnew
  have hsame := (addWebhookEvent_ok hadd).1
  have hfind : recorded.getPaymentByIntent event.object.id = some q :=
    hintent ▸ h.found hsame hq
  have hne : q.status ≠ .succeeded := fun hst => hunpaid ⟨q, hq, horder, Or.inl hst⟩
  have hget : p.shop.orders.orders.get? q.orderId = some o := horder ▸ Table.get?_key ho
  constructor
  · intro hc
    have hcall := @paymentAuthorized_confirmed q p.shop now o hparsed hget hc
    have hrun := (webhook_succeeded hnew hadd htype).trans (settle_moves hfind hne hcall)
    rw [hrun]
    have hstored : q ∈ recorded.payments := by
      rw [hsame.payments]
      exact hq
    exact ⟨rfl, _, Table.mem_put_self hstored rfl, horder, Or.inl rfl⟩
  · intro hc
    have hp : o.status ≠ .pendingPayment := fun hp => by
      rw [hp] at hf
      rcases hf with hf | hf | hf | hf <;> cases hf
    obtain ⟨code, hpost⟩ := @postPaymentAuthorized_left now p.shop q.orderId o hget hc hp
      q.authorization
    obtain ⟨e, hcall⟩ := callback_refused hpost
    have hrun := (webhook_succeeded hnew hadd htype).trans (settle_raises hfind hne hcall)
    rw [hrun]
    exact ⟨⟨_, rfl⟩, hunpaid⟩

end Delivery

/-- In every run, an order that is being fulfilled although it is not paid for has
a payment whose next success event is taken if and only if the order is still
confirmed: then it is paid for, and otherwise the handler raises and it is not. -/
theorem redelivery_pays (env : PlatformEnv) (calls : List RoutedCall) {o : Order}
    (ho : o ∈ (run (routedStep env) Platform.empty calls).shop.orders.orders)
    (hf : o.status.Fulfilling) (hunpaid : ¬PaidFor (run (routedStep env) Platform.empty calls) o) :
    ∃ q ∈ (run (routedStep env) Platform.empty calls).payments.payments, q.orderId = o.id ∧
      ∀ now event, event.type = .paymentIntentSucceeded →
        event.object.id = q.providerPaymentIntentId → event.id.length ≤ 255 →
        (run (routedStep env) Platform.empty calls).payments.webhookEvents.get? event.id = none →
        let delivered :=
          handleWebhookEvent .up now (run (routedStep env) Platform.empty calls) event
        (delivered.2 = .ok () ↔ o.status = .confirmed) ∧
          (PaidFor delivered.1 o ↔ o.status = .confirmed) := by
  obtain ⟨hbooks, hbacked⟩ := run_backed env calls
  obtain ⟨q, hq, horder, hparsed⟩ := hbacked o ho hf
  refine ⟨q, hq, horder, fun now event htype hintent hlength hnew => ?_⟩
  obtain ⟨htaken, hrefused⟩ :=
    deliver_unpaid hbooks ho hf hunpaid hq horder hparsed now htype hintent hlength hnew
  by_cases hc : o.status = .confirmed
  · exact ⟨iff_of_true (htaken hc).1 hc, iff_of_true (htaken hc).2 hc⟩
  · obtain ⟨⟨e, he⟩, hnot⟩ := hrefused hc
    exact ⟨iff_of_false (fun hok => by cases hok.symm.trans he) hc, iff_of_false hnot hc⟩

/-! ### A lost answer -/

instance (status : PaymentStatus) : Decidable status.Paid :=
  inferInstanceAs (Decidable (_ ∨ _ ∨ _))

instance (p : Platform) (o : Order) : Decidable (PaidFor p o) :=
  inferInstanceAs (Decidable (∃ q ∈ p.payments.payments.rows, _ ∧ _))

instance (call : Call) : Decidable call.Routed :=
  match call with
  | ⟨_, _, .shop (.paymentAuthorized _ _ _)⟩ => isFalse id
  | ⟨_, _, .shop (.inventory _)⟩ | ⟨_, _, .shop (.checkout _ _ _ _)⟩
  | ⟨_, _, .shop (.cancel _ _ _ _)⟩ | ⟨_, _, .shop (.paymentFailed _ _ _)⟩
  | ⟨_, _, .shop (.paymentRefunded _ _ _)⟩ | ⟨_, _, .shop (.fulfillment _ _ _)⟩
  | ⟨_, _, .createPayment _ _ _ _⟩ | ⟨_, _, .createRefund _ _ _ _ _⟩ | ⟨_, _, .webhook _⟩ =>
    isTrue trivial

/-- The order is confirmed, and the answer is lost. -/
def unheardCalls : List Call := paymentCalls ++ [⟨2, .lost, .webhook (succeededEvent "evt_1")⟩]

theorem unheardCalls_routed : ∀ call ∈ unheardCalls, call.Routed := by decide

def unheardRun : List RoutedCall :=
  unheardCalls.attach.map fun call => ⟨call.val, unheardCalls_routed call.val call.property⟩

/-- The event comes again, and the order is paid for. -/
theorem lost_answer_made_up :
    ∃ o ∈ (run (routedStep samplePlatformEnv) Platform.empty unheardRun).shop.orders.orders,
      ¬PaidFor (run (routedStep samplePlatformEnv) Platform.empty unheardRun) o ∧
      PaidFor (handleWebhookEvent .up 3
        (run (routedStep samplePlatformEnv) Platform.empty unheardRun) (succeededEvent "evt_1")).1
        o := by
  obtain ⟨o, ho, hc, hunpaid⟩ :
      ∃ o ∈ (run (routedStep samplePlatformEnv) Platform.empty unheardRun).shop.orders.orders.rows,
        o.status = .confirmed ∧
        ¬PaidFor (run (routedStep samplePlatformEnv) Platform.empty unheardRun) o := by
    decide +kernel
  obtain ⟨q, hq, -, hdelivered⟩ :=
    redelivery_pays samplePlatformEnv unheardRun ho (Or.inl hc) hunpaid
  have hintent : (succeededEvent "evt_1").object.id = q.providerPaymentIntentId := by
    have hall : ∀ q ∈ (run (routedStep samplePlatformEnv) Platform.empty
        unheardRun).payments.payments.rows, "pi_1" = q.providerPaymentIntentId := by decide +kernel
    exact hall q hq
  exact ⟨o, ho, hunpaid, ((hdelivered 3 (succeededEvent "evt_1") rfl hintent (by decide)
    (by decide +kernel)).2.mpr hc)⟩

/-! ## Dispatched and unpaid -/

/-- The order is dispatched and its payment has not gone through. -/
def WrittenOff (p : Platform) (k : UUID) : Prop :=
  ∃ o ∈ p.shop.orders.orders, o.id = k ∧ Dispatched o.status ∧ ¬PaidFor p o

section WrittenOff

variable {env : PlatformEnv} {p : Platform}

/-- A payment goes through only while its order awaits it or is confirmed. -/
theorem pays_only (call : Call) {q' : Payment}
    (hq' : q' ∈ (Payments.step env p call).payments.payments) (hpaid : q'.status.Paid) :
    (∃ q ∈ p.payments.payments, q.orderId = q'.orderId ∧ q.status.Paid) ∨
    ∃ o, p.shop.orders.orders.get? q'.orderId = some o ∧
      (o.status = .confirmed ∨ o.status = .pendingPayment) := by
  rcases step_booked env p call with
    hsame | ⟨x, o, -, -, -, -, -, hst, -, -, hins, -, -, -⟩ |
    ⟨event, x, x', o, o', hd, -, hputs, hsame, -, -, hbefore, hawaited, -, -⟩ |
    ⟨event, x, x', o, hd, -, hputs, hsame, hst, -, -⟩ |
    ⟨paymentId, data, principal, key, stripe, rid, x, a, r, -, -, hread, hwrite⟩
  · exact Or.inl ⟨q', by rw [← hsame.payments]; exact hq', rfl, hpaid⟩
  · rcases (Table.mem_insert? hins).mp hq' with hold | rfl
    · exact Or.inl ⟨q', hold, rfl, hpaid⟩
    · exact absurd (hst ▸ hpaid) not_paid_pending
  · rcases (mem_put hputs.payments hd.stored hsame.id).mp hq' with rfl | ⟨hold, -⟩
    · exact Or.inr ⟨o, hsame.order ▸ hbefore, hawaited⟩
    · exact Or.inl ⟨q', hold, rfl, hpaid⟩
  · rcases (mem_put hputs.payments hd.stored hsame.id).mp hq' with rfl | ⟨hold, -⟩
    · exact absurd (hst ▸ hpaid) not_paid_failed
    · exact Or.inl ⟨q', hold, rfl, hpaid⟩
  · obtain ⟨-, hputs, -, -, -, -, -, -, -, -⟩ := refundWrite_ok hwrite
    obtain ⟨hget, -, hrefundable, -, -⟩ := refundRead_eq_ok.mp hread
    have hx := Table.mem_of_get? hget
    rcases (mem_put hputs hx rfl).mp hq' with rfl | ⟨hold, -⟩
    · exact Or.inl ⟨x, hx, rfl, hrefundable.paid⟩
    · exact Or.inl ⟨q', hold, rfl, hpaid⟩

theorem WrittenOff.step {k : UUID} (hw : WrittenOff p k) (h : Books env p) (call : Call) :
    WrittenOff (Payments.step env p call) k := by
  obtain ⟨o, ho, rfl, hd, hunpaid⟩ := hw
  obtain ⟨o', ho', hid, hd'⟩ : ∃ o' ∈ (Payments.step env p call).shop.orders.orders,
      o'.id = o.id ∧ Dispatched o'.status := by
    obtain ⟨o', ho', rfl | hnext⟩ := (step_shop h.shop.inventory.inv call).kept o ho
    · exact ⟨o', ho', rfl, hd⟩
    · refine ⟨o', ho', hnext.same.id, ?_⟩
      rcases hnext.status with ⟨hst, -⟩ | hmoves
      · exact hst ▸ hd
      · exact (Orders.next_dispatched (Orders.moves_dispatched hd hmoves)).1
  refine ⟨o', ho', hid, hd', ?_⟩
  rintro ⟨q', hq', horder, hpaid⟩
  rw [hid] at horder
  rcases pays_only call hq' hpaid with ⟨q, hq, hsame, hq'⟩ | ⟨x, hget, hst⟩
  · exact hunpaid ⟨q, hq, hsame.trans horder, hq'⟩
  · cases (Table.get?_key ho).symm.trans (horder ▸ hget)
    rcases hst with hst | hst <;> rw [hst] at hd <;> rcases hd with hd | hd | hd <;> cases hd

end WrittenOff

end Payments
end Marketplace
