import Marketplace.Payments.Ledger

/-!
# Payments: a charge and its events

Stripe delivers the events of one intent, each of them at least once and in any
order.  The first delivery that is acted upon settles the order for good: after a
failed attempt the Order Service refuses the payment, the handler raises, and
however often the success event comes again it raises again.
-/

namespace Marketplace
namespace Payments

open Base
open Orders (Shop Order)
open Inventory (GroupIs GroupExpired)

/-- A payment whose order awaits it, on a platform that some run has led to. -/
structure Charge (env : PlatformEnv) where
  calls : List Call
  payment : Payment
  order : Order
  stored : payment ∈ (run (step env) Platform.empty calls).payments.payments
  pending : payment.status = .pending
  placed : order ∈ (run (step env) Platform.empty calls).shop.orders.orders
  ordered : order.id = payment.orderId
  awaiting : order.status = .pendingPayment

namespace Charge

variable {env : PlatformEnv}

def platform (c : Charge env) : Platform := run (step env) Platform.empty c.calls

def group (c : Charge env) : UUID := c.order.reservationGroupId.getD 0

theorem books (c : Charge env) : Books env c.platform := run_books env c.calls

theorem reservationGroupId (c : Charge env) : c.order.reservationGroupId = some c.group := by
  obtain ⟨g, key, hg, -⟩ := c.books.shop.placed c.order c.placed
  rw [group, hg]
  rfl

theorem get?_order (c : Charge env) :
    c.platform.shop.orders.orders.get? c.payment.orderId = some c.order :=
  c.ordered ▸ Table.get?_key c.placed

theorem isFor (c : Charge env) : c.payment.For c.order := c.books.orderOf c.stored c.get?_order

end Charge

/-- The delivery of an event of the charge's intent: the attempt succeeded or
failed, and the reservation has not expired. -/
structure Delivery {env : PlatformEnv} (c : Charge env) where
  now : DateTime
  event : StripeEvent
  intent : event.object.id = c.payment.providerPaymentIntentId
  type : event.type = .paymentIntentSucceeded ∨ event.type = .paymentIntentPaymentFailed
  unexpired : ¬GroupExpired c.platform.shop.inventory c.group now

section Charge

variable {env : PlatformEnv} {c : Charge env} {p : Platform}

/-- What the webhook endpoint does with a delivery. -/
def deliver (p : Platform) (d : Delivery c) : Platform × Except Failure Unit :=
  handleWebhookEvent .up d.now p d.event

/-- The payment has succeeded and its order is confirmed. -/
def Settled (c : Charge env) (p : Platform) : Prop :=
  (∃ q ∈ p.payments.payments.rows, q.id = c.payment.id ∧ q.status = .succeeded) ∧
    ∃ o ∈ p.shop.orders.orders.rows, o.id = c.order.id ∧ o.status = .confirmed

/-- Some delivery of a success event is acknowledged and leaves the charge
settled. -/
def Collected (c : Charge env) : Platform → List (Delivery c) → Prop
  | _, [] => False
  | p, d :: rest =>
    (d.event.type = .paymentIntentSucceeded ∧ (deliver p d).2 = .ok () ∧
        Settled c (deliver p d).1) ∨
      Collected c (deliver p d).1 rest

/-- The Order Service takes the callback of an event while the order awaits its
payment: it finds the body valid, and can commit or release the group. -/
def Taken (c : Charge env) (intent : Intent) : EventType → Prop
  | .paymentIntentSucceeded => c.payment.authorization.isSome = true ∧
      (GroupIs c.platform.shop.inventory c.group .active ∨
        GroupIs c.platform.shop.inventory c.group .committed)
  | .paymentIntentPaymentFailed =>
      (Orders.PaymentFailed.parse (some c.payment.providerPaymentIntentId)
        (declineReason intent)).isSome = true ∧
      ∃ r ∈ c.platform.shop.inventory.reservations.rows, r.reservationGroupId = some c.group
  | .other _ => False

instance (c : Charge env) (intent : Intent) : (type : EventType) → Decidable (Taken c intent type)
  | .paymentIntentSucceeded => inferInstanceAs (Decidable (_ ∧ _))
  | .paymentIntentPaymentFailed => inferInstanceAs (Decidable (_ ∧ _))
  | .other _ => inferInstanceAs (Decidable False)

/-- An event that is acted upon while the order awaits its payment: it is new, it
can be stored, and its callback is taken. -/
def Decisive (c : Charge env) (event : StripeEvent) : Prop :=
  c.platform.payments.webhookEvents.get? event.id = none ∧ event.id.length ≤ 255 ∧
    Taken c event.object event.type

instance (c : Charge env) (event : StripeEvent) : Decidable (Decisive c event) :=
  inferInstanceAs (Decidable (_ ∧ _ ∧ _))

/-! ## The callbacks of the charge -/

theorem authorization_pays {q : Payment} {o : Order} {data : Orders.PaymentAuthorized}
    (hdata : q.authorization = some data) (hfor : q.For o) : data.Pays o := by
  unfold Payment.authorization Orders.PaymentAuthorized.parse at hdata
  split at hdata
  · cases hdata
    exact ⟨hfor.currency.symm, by rw [hfor.total]⟩
  · cases hdata

/-- The payment callback of the charge is taken, and confirms the order, or it is
refused without a trace. -/
theorem Charge.authorize (c : Charge env) {now : DateTime}
    (hexp : ¬GroupExpired c.platform.shop.inventory c.group now) (intent : Intent) :
    (Taken c intent .paymentIntentSucceeded →
      ∃ shop o, paymentAuthorized .up now c.platform.shop c.payment.orderId
          c.payment.providerPaymentIntentId (ofHundredths c.payment.amount) c.payment.currencyCode
          paymentService = (shop, .ok ()) ∧
        shop.orders.orders.get? c.payment.orderId = some o ∧ o.status = .confirmed) ∧
    (¬Taken c intent .paymentIntentSucceeded →
      ∃ e, paymentAuthorized .up now c.platform.shop c.payment.orderId
        c.payment.providerPaymentIntentId (ofHundredths c.payment.amount) c.payment.currencyCode
        paymentService = (c.platform.shop, .error e)) := by
  unfold paymentAuthorized Taken
  rw [← Payment.authorization]
  cases hdata : c.payment.authorization with
  | none =>
    refine ⟨fun h => absurd h.1 (by decide), fun _ => ?_⟩
    exact callback_refused (show _ = (_, Reply.refused 422) from rfl)
  | some data =>
    have hinv := c.books.shop.inventory.inv
    obtain ⟨hok, herror⟩ := @postPaymentAuthorized_awaited now c.platform.shop c.payment.orderId
      data c.order c.get?_order c.awaiting (authorization_pays hdata c.isFor)
    simp only [Orders.commitOrder, c.reservationGroupId] at hok herror
    constructor
    · rintro ⟨-, hgroup⟩
      have hcommit : ∃ inventory, Orders.commitGroup now c.platform.shop.inventory c.group
          orderService = (inventory, .ok ()) := by
        rcases hgroup with ha | hc
        · obtain ⟨inventory, hrun, -⟩ := Orders.commitGroup_active hinv ha hexp
          exact ⟨inventory, hrun⟩
        · exact ⟨_, Orders.commitGroup_committed hc⟩
      obtain ⟨inventory, hrun⟩ := hcommit
      obtain ⟨shop, o, o', hpost, hget, hconfirmed⟩ := hok inventory hrun
      exact ⟨shop, o', callback_answered hpost, hget, hconfirmed⟩
    · intro hnot
      have hgroup : ¬(GroupIs c.platform.shop.inventory c.group .active ∨
          GroupIs c.platform.shop.inventory c.group .committed) := fun h => hnot ⟨rfl, h⟩
      obtain ⟨ha, hc⟩ := not_or.mp hgroup
      obtain ⟨e, hrun⟩ := @Orders.commitGroup_fails now _ _ hc ha
      obtain ⟨code, hpost⟩ := herror e hrun
      exact callback_refused hpost

/-- The failure callback of the charge is taken, and makes the order a failed one,
or it is refused without a trace. -/
theorem Charge.decline (c : Charge env) (intent : Intent) :
    (Taken c intent .paymentIntentPaymentFailed →
      ∃ shop o, paymentFailed .up c.platform.shop c.payment.orderId
          (some c.payment.providerPaymentIntentId) (declineReason intent) paymentService =
          (shop, .ok ()) ∧
        shop.orders.orders.get? c.payment.orderId = some o ∧ o.status = .paymentFailed) ∧
    (¬Taken c intent .paymentIntentPaymentFailed →
      ∃ e, paymentFailed .up c.platform.shop c.payment.orderId
        (some c.payment.providerPaymentIntentId) (declineReason intent) paymentService =
        (c.platform.shop, .error e)) := by
  unfold paymentFailed Taken
  cases hdata : Orders.PaymentFailed.parse (some c.payment.providerPaymentIntentId)
      (declineReason intent) with
  | none =>
    refine ⟨fun h => absurd h.1 (by decide), fun _ => ?_⟩
    exact callback_refused (show _ = (_, Reply.refused 422) from rfl)
  | some data =>
    obtain ⟨hok, herror⟩ := @postPaymentFailed_awaited c.platform.shop c.payment.orderId
      data c.order c.get?_order c.awaiting
    simp only [Orders.releaseOrder, c.reservationGroupId] at hok herror
    constructor
    · rintro ⟨-, hmem⟩
      have hreason : data.reason.length ≤ 2000 := data.reason_valid.2.trans (by omega)
      obtain ⟨inventory, hrun, -⟩ := Orders.releaseGroup_answered c.books.shop.inventory.inv hreason
        hmem (Orders.mayResolve_orderService _ _)
      obtain ⟨shop, o, o', hpost, hget, hfailed⟩ := hok inventory hrun
      exact ⟨shop, o', callback_answered hpost, hget, hfailed⟩
    · intro hnot
      obtain ⟨e, hrun⟩ := @Orders.releaseGroup_missing c.platform.shop.inventory c.group data.reason
        orderService fun hmem => hnot ⟨rfl, hmem⟩
      obtain ⟨code, hpost⟩ := herror e hrun
      exact callback_refused hpost

/-! ## The first decisive delivery -/

theorem Charge.not_settled (c : Charge env) : ¬Settled c c.platform := by
  rintro ⟨⟨q, hq, hid, hst⟩, -⟩
  rw [Table.eq_of_key_eq hq c.stored hid, c.pending] at hst
  cases hst

/-- A delivery that is not decisive changes nothing. -/
theorem deliver_idle (d : Delivery c) (h : ¬Decisive c d.event) :
    (deliver c.platform d).1 = c.platform := by
  unfold deliver
  cases hrecord : c.platform.payments.webhookEvents.get? d.event.id with
  | some x => rw [webhook_recorded hrecord]
  | none =>
  cases hadd : c.platform.payments.addWebhookEvent ⟨d.event.id, d.event.type.text⟩ with
  | error e => rw [webhook_raises hrecord hadd]
  | ok recorded =>
  obtain ⟨hsame, hlength⟩ := addWebhookEvent_ok hadd
  have hfind : recorded.getPaymentByIntent d.event.object.id = some c.payment :=
    d.intent ▸ c.books.found hsame c.stored
  have hnot : ¬Taken c d.event.object d.event.type := fun ht => h ⟨hrecord, hlength, ht⟩
  rcases d.type with htype | htype
  · rw [htype] at hnot
    obtain ⟨e, hcall⟩ := (c.authorize d.unexpired d.event.object).2 hnot
    rw [webhook_succeeded hrecord hadd htype]
    exact congrArg Prod.fst (settle_raises hfind (by rw [c.pending]; decide) hcall)
  · rw [htype] at hnot
    obtain ⟨e, hcall⟩ := (c.decline d.event.object).2 hnot
    rw [webhook_failed hrecord hadd htype]
    exact congrArg Prod.fst (settle_raises hfind (by rw [c.pending]; decide) hcall)

/-- What a decisive delivery does: it moves the payment and the order together. -/
theorem deliver_decisive (d : Delivery c) (h : Decisive c d.event) :
    ∃ (status : PaymentStatus) (final : Orders.OrderStatus),
      (d.event.type = .paymentIntentSucceeded ∧ status = .succeeded ∧ final = .confirmed ∨
        d.event.type = .paymentIntentPaymentFailed ∧ status = .failed ∧ final = .paymentFailed) ∧
      (deliver c.platform d).2 = .ok () ∧
      (∃ q ∈ (deliver c.platform d).1.payments.payments, c.payment.Same q ∧ q.status = status) ∧
      ∃ o, (deliver c.platform d).1.shop.orders.orders.get? c.payment.orderId = some o ∧
        o.status = final := by
  obtain ⟨hrecord, hlength, htaken⟩ := h
  obtain ⟨recorded, hadd⟩ := @addWebhookEvent_of_new c.platform.payments d.event
    (by rcases d.type with htype | htype <;> rw [htype] <;> decide) hlength hrecord
  have hsame := (addWebhookEvent_ok hadd).1
  have hfind : recorded.getPaymentByIntent d.event.object.id = some c.payment :=
    d.intent ▸ c.books.found hsame c.stored
  have hmem : ∀ q : Payment, q.id = c.payment.id → q ∈ recorded.payments.put q := by
    intro q hid
    have hstored : c.payment ∈ recorded.payments := by
      rw [hsame.payments]
      exact c.stored
    exact Table.mem_put_self hstored hid
  unfold deliver
  rcases d.type with htype | htype
  · rw [htype] at htaken
    obtain ⟨shop, o, hcall, hget, hst⟩ := (c.authorize d.unexpired d.event.object).1 htaken
    have hrun := (@webhook_succeeded c.platform recorded .up d.now d.event hrecord hadd htype).trans
      (settle_moves hfind (by rw [c.pending]; decide) hcall)
    rw [hrun]
    exact ⟨.succeeded, .confirmed, Or.inl ⟨htype, rfl, rfl⟩, rfl,
      ⟨_, hmem _ rfl, ⟨rfl, rfl, rfl, rfl, rfl⟩, rfl⟩, o, hget, hst⟩
  · rw [htype] at htaken
    obtain ⟨shop, o, hcall, hget, hst⟩ := (c.decline d.event.object).1 htaken
    have hrun := (@webhook_failed c.platform recorded .up d.now d.event hrecord hadd htype).trans
      (settle_moves hfind (by rw [c.pending]; decide) hcall)
    rw [hrun]
    exact ⟨.failed, .paymentFailed, Or.inr ⟨htype, rfl, rfl⟩, rfl,
      ⟨_, hmem _ rfl, ⟨rfl, rfl, rfl, rfl, rfl⟩, rfl⟩, o, hget, hst⟩

/-! ## A lost charge stays lost -/

/-- The payment and its order have failed. -/
structure Lost (c : Charge env) (p : Platform) : Prop where
  books : Books env p
  payment : ∃ q ∈ p.payments.payments, c.payment.Same q ∧ q.status = .failed
  order : ∃ o, p.shop.orders.orders.get? c.payment.orderId = some o ∧ o.status = .paymentFailed

theorem Books.deliver (h : Books env p) (d : Delivery c) : Books env (deliver p d).1 :=
  h.step ⟨d.now, .up, .webhook d.event⟩

theorem Lost.not_settled (h : Lost c p) : ¬Settled c p := by
  rintro ⟨⟨q', hq', hid, hst⟩, -⟩
  obtain ⟨q, hq, hsame, hfailed⟩ := h.payment
  cases Table.eq_of_key_eq hq' hq (hid.trans hsame.id.symm)
  cases hst.symm.trans hfailed

/-- After a failed attempt the success event raises, and another failure is
acknowledged without an effect. -/
theorem Lost.deliver (h : Lost c p) (d : Delivery c) : Lost c (deliver p d).1 := by
  have hbooks := h.books.deliver d
  obtain ⟨q, hq, hsame, hfailed⟩ := h.payment
  obtain ⟨o, hget, hst⟩ := h.order
  unfold Payments.deliver at hbooks ⊢
  cases hrecord : p.payments.webhookEvents.get? d.event.id with
  | some x =>
    rw [webhook_recorded hrecord]
    exact h
  | none =>
  cases hadd : p.payments.addWebhookEvent ⟨d.event.id, d.event.type.text⟩ with
  | error e =>
    rw [webhook_raises hrecord hadd]
    exact h
  | ok recorded =>
  have hrows := (addWebhookEvent_ok hadd).1
  have hfind : recorded.getPaymentByIntent d.event.object.id = some q := by
    rw [d.intent, ← hsame.intent]
    exact h.books.found hrows hq
  rcases d.type with htype | htype
  · have hget' : p.shop.orders.orders.get? q.orderId = some o := hsame.order ▸ hget
    obtain ⟨code, hpost⟩ := @postPaymentAuthorized_left d.now p.shop q.orderId o hget'
      (by rw [hst]; decide) (by rw [hst]; decide) q.authorization
    obtain ⟨e, hcall⟩ := callback_refused hpost
    have hrun := (@webhook_succeeded p recorded .up d.now d.event hrecord hadd htype).trans
      (settle_raises hfind (by rw [hfailed]; decide) hcall)
    rw [hrun]
    exact h
  · have hrun := (@webhook_failed p recorded .up d.now d.event hrecord hadd htype).trans
      (settle_there hfind hfailed)
    rw [hrun] at hbooks ⊢
    refine ⟨hbooks, ⟨q, ?_, hsame, hfailed⟩, o, hget, hst⟩
    show q ∈ recorded.payments
    rw [hrows.payments]
    exact hq

theorem Lost.not_collected (deliveries : List (Delivery c)) :
    ∀ {p : Platform}, Lost c p → ¬Collected c p deliveries := by
  induction deliveries with
  | nil => exact fun _ => id
  | cons d rest ih =>
    rintro p h (⟨-, -, hsettled⟩ | hrest)
    · exact (h.deliver d).not_settled hsettled
    · exact ih (h.deliver d) hrest

/-- A failed attempt that is acted upon first loses the charge. -/
theorem not_collected_of_failed {d : Delivery c} (h : Decisive c d.event)
    (htype : d.event.type = .paymentIntentPaymentFailed) (rest : List (Delivery c)) :
    ¬Collected c c.platform (d :: rest) := by
  obtain ⟨status, final, hcase, -, ⟨q, hq, hsame, hst⟩, o, hget, hfinal⟩ := deliver_decisive d h
  rcases hcase with ⟨hs, -⟩ | ⟨-, rfl, rfl⟩
  · cases htype.symm.trans hs
  have hlost : Lost c (deliver c.platform d).1 :=
    ⟨c.books.deliver d, ⟨q, hq, hsame, hst⟩, o, hget, hfinal⟩
  rintro (⟨hs, -⟩ | hrest)
  · cases htype.symm.trans hs
  · exact Lost.not_collected rest hlost hrest

/-- A successful attempt that is acted upon first settles the charge. -/
theorem collected_of_succeeded {d : Delivery c} (h : Decisive c d.event)
    (htype : d.event.type = .paymentIntentSucceeded) (rest : List (Delivery c)) :
    Collected c c.platform (d :: rest) := by
  obtain ⟨status, final, hcase, hok, ⟨q, hq, hsame, hst⟩, o, hget, hfinal⟩ := deliver_decisive d h
  rcases hcase with ⟨-, rfl, rfl⟩ | ⟨hf, -⟩
  · refine Or.inl ⟨htype, hok, ⟨q, hq, hsame.id, hst⟩, o, Table.mem_of_get? hget, ?_, hfinal⟩
    rw [Table.key_of_get? hget, c.ordered]
  · cases htype.symm.trans hf

end Charge

/-! ## A charge that is lost -/

/-- Every event whose handler raised is delivered again; `earlier` are the events
delivered before. -/
def Redelivered {env : PlatformEnv} {c : Charge env} :
    List StripeEvent → Platform → List (Delivery c) → Prop
  | _, _, [] => True
  | earlier, p, d :: rest =>
    ((deliver p d).2 = .ok () ∨ d.event ∈ earlier ∨ d.event ∈ rest.map Delivery.event) ∧
      Redelivered (d.event :: earlier) (deliver p d).1 rest

def samplePayment : Payment :=
  (run (step samplePlatformEnv) Platform.empty paymentCalls).payments.payments.rows.head
    (by decide +kernel)

def sampleCharge : Charge samplePlatformEnv where
  calls := paymentCalls
  payment := samplePayment
  order := (run (step samplePlatformEnv) Platform.empty paymentCalls).shop.orders.orders.rows.head
    (by decide +kernel)
  stored := List.head_mem _
  pending := by decide +kernel
  placed := List.head_mem _
  ordered := by decide +kernel
  awaiting := by decide +kernel

def failedDelivery : Delivery sampleCharge where
  now := 2
  event := ⟨"evt_1", .paymentIntentPaymentFailed, ⟨"pi_1", some "Your card was declined."⟩⟩
  intent := by decide +kernel
  type := Or.inr rfl
  unexpired := by decide +kernel

def succeededDelivery : Delivery sampleCharge where
  now := 3
  event := succeededEvent "evt_2"
  intent := by decide +kernel
  type := Or.inl rfl
  unexpired := by decide +kernel

/-- The card is declined and the retry goes through: the success event raises, it
is delivered again, and no number of deliveries has it acted upon. -/
theorem charge_lost :
    Redelivered [] sampleCharge.platform [failedDelivery, succeededDelivery, succeededDelivery] ∧
    ∀ n, ¬Collected sampleCharge sampleCharge.platform
      (failedDelivery :: List.replicate n succeededDelivery) := by
  have hdecisive : Decisive sampleCharge failedDelivery.event := by decide +kernel
  obtain ⟨-, -, -, hok, -⟩ := deliver_decisive failedDelivery hdecisive
  refine ⟨⟨Or.inl hok, Or.inr (Or.inr ?_), Or.inr (Or.inl ?_), trivial⟩, fun n => ?_⟩
  · exact List.mem_cons_self
  · exact List.mem_cons_self
  · exact not_collected_of_failed hdecisive rfl _

/-- A charge is collected if and only if the first of its deliveries that is
decisive is one of a success event. -/
theorem charge_collected {env : PlatformEnv} (c : Charge env) (deliveries : List (Delivery c)) :
    Collected c c.platform deliveries ↔
      ∃ d, deliveries.find? (fun d => Decisive c d.event) = some d ∧
        d.event.type = .paymentIntentSucceeded := by
  induction deliveries with
  | nil => exact ⟨fun h => h.elim, fun ⟨_, h, _⟩ => by cases h⟩
  | cons d rest ih =>
    by_cases hd : Decisive c d.event
    · rw [List.find?_cons_of_pos (by simpa using hd)]
      rcases d.type with htype | htype
      · exact iff_of_true (collected_of_succeeded hd htype rest) ⟨d, rfl, htype⟩
      · refine iff_of_false (not_collected_of_failed hd htype rest) ?_
        rintro ⟨x, hx, hs⟩
        cases hx
        cases htype.symm.trans hs
    · rw [List.find?_cons_of_neg (by simpa using hd), ← ih]
      have hidle := deliver_idle d hd
      constructor
      · rintro (⟨-, -, hsettled⟩ | hrest)
        · exact absurd (hidle ▸ hsettled) c.not_settled
        · exact hidle ▸ hrest
      · intro hrest
        right
        rw [hidle]
        exact hrest

end Payments
end Marketplace
