import Marketplace.Payments.Paid

/-!
# Payments: what was asked before

A payment or a refund that was asked for under a key is recorded with it, and so is
every event that was handled.  No record is ever lost, and so the same request is
answered with the same row at any later time, and changes nothing.
-/

namespace Marketplace
namespace Payments

open Base
open Orders (Shop)

/-! ## Records -/

/-- The key was used for the request that made the row. -/
def Store.Remembers (s : Store) (actorId : UUID) (key : PaymentKey) (requestHash : String)
    (id : UUID) : Prop :=
  ∃ rec ∈ s.idempotency, rec.key = (actorId, key.text) ∧ rec.requestHash = requestHash ∧
    rec.resourceId = some id

/-- Nothing is lost. -/
structure Store.Grows (s s' : Store) : Prop where
  payments : ∀ q ∈ s.payments, ∃ q' ∈ s'.payments, q'.id = q.id
  refunds : ∀ r ∈ s.refunds, r ∈ s'.refunds
  idempotency : ∀ rec ∈ s.idempotency, rec ∈ s'.idempotency
  webhookEvents : ∀ x ∈ s.webhookEvents, x ∈ s'.webhookEvents

section Records

variable {s s' t : Store} {actorId id : UUID} {key : PaymentKey} {requestHash : String}

theorem Store.Grows.refl (s : Store) : s.Grows s :=
  ⟨fun q hq => ⟨q, hq, rfl⟩, fun _ h => h, fun _ h => h, fun _ h => h⟩

theorem Store.Grows.trans (h : s.Grows t) (h' : t.Grows s') : s.Grows s' where
  payments q hq := by
    obtain ⟨x, hx, hxq⟩ := h.payments q hq
    obtain ⟨y, hy, hyx⟩ := h'.payments x hx
    exact ⟨y, hy, hyx.trans hxq⟩
  refunds r hr := h'.refunds r (h.refunds r hr)
  idempotency rec hrec := h'.idempotency rec (h.idempotency rec hrec)
  webhookEvents x hx := h'.webhookEvents x (h.webhookEvents x hx)

theorem Store.Remembers.grows (h : s.Remembers actorId key requestHash id) (hg : s.Grows s') :
    s'.Remembers actorId key requestHash id := by
  obtain ⟨rec, hrec, hkey⟩ := h
  exact ⟨rec, hg.idempotency rec hrec, hkey⟩

theorem Store.Remembers.replayed {α : Type} {resource : UUID → Option α} {a : α}
    (h : s.Remembers actorId key requestHash id) (ha : resource id = some a) :
    replayed s actorId (some key) requestHash resource = .ok (some a) := by
  obtain ⟨rec, hrec, hkey, hhash, hid⟩ := h
  have hget : s.idempotency.get? (actorId, key.text) = some rec := hkey ▸ Table.get?_key hrec
  have hsame : ∀ r ∈ s.idempotency.get? (actorId, key.text), r.requestHash = requestHash :=
    fun r hr => by cases hget.symm.trans hr; exact hhash
  simp only [Payments.replayed]
  rw [require_pos hsame, ok_bind, hget, Option.bind_some, hid, Option.bind_some, ha]
  rfl

theorem replayed_some {α : Type} {resource : UUID → Option α} {given : Option PaymentKey} {a : α}
    (h : replayed s actorId given requestHash resource = .ok (some a)) :
    ∃ key id, given = some key ∧ s.Remembers actorId key requestHash id ∧ resource id = some a := by
  cases given with
  | none => cases h
  | some key =>
    simp only [replayed, bind_eq_ok, require_eq_ok, pure_eq_ok] at h
    obtain ⟨_, hsame, h⟩ := h
    obtain ⟨id, hres, ha⟩ := Option.bind_eq_some_iff.mp h
    obtain ⟨rec, hget, hid⟩ := Option.bind_eq_some_iff.mp hres
    exact ⟨key, id, rfl, ⟨rec, Table.mem_of_get? hget, Table.key_of_get? hget, hsame rec hget, hid⟩,
      ha⟩

theorem recordKey_remembers {given : Option PaymentKey} {resourceType : String}
    (h : recordKey s actorId given requestHash resourceType id = .ok s') :
    s.Grows s' ∧ s'.payments = s.payments ∧ s'.refunds = s.refunds ∧
      ∀ key ∈ given, s'.Remembers actorId key requestHash id := by
  cases given with
  | none =>
    cases h
    exact ⟨.refl s, rfl, rfl, fun _ hk => by cases hk⟩
  | some key =>
    simp only [recordKey, Store.addIdempotencyRecord, bind_eq_ok, orRaise_eq_ok, pure_eq_ok] at h
    obtain ⟨records, hins, rfl⟩ := h
    have hmem := fun rec => @Table.mem_insert? _ _ _ _ _ _ _ rec hins
    refine ⟨⟨fun q hq => ⟨q, hq, rfl⟩, fun _ h => h, fun rec hrec => (hmem rec).mpr (Or.inl hrec),
      fun _ h => h⟩, rfl, rfl, fun k hk => ?_⟩
    cases hk
    exact ⟨_, (hmem _).mpr (Or.inr rfl), rfl, rfl, rfl⟩

end Records

/-! ## What an operation records -/

section Operations

variable {env : Env} {p : Platform} {s : Store} {link : Link} {now : DateTime}
variable {principal : Principal} {given : Option PaymentKey}

theorem Store.Grows.put {q : Payment} (hq : q ∈ s.payments) (q' : Payment) (hid : q'.id = q.id) :
    s.Grows (s.putPayment q') where
  payments x hx := by
    by_cases hxq : x.id = q.id
    · exact ⟨q', Table.mem_put_self hq hid, hid.trans hxq.symm⟩
    · exact ⟨x, (Table.mem_put_of_mem hq hid).mpr (Or.inr ⟨hx, hxq⟩), rfl⟩
  refunds _ h := h
  idempotency _ h := h
  webhookEvents _ h := h

/-- A payment that is created was recorded before, or is new and recorded now. -/
theorem createPayment_ok {data : PaymentCreate} {stripe : StripeReply StripePaymentIntent}
    {s' : Store} {q : Payment} {secret : Option String}
    (h : createPayment env link p data principal given stripe = .ok (s', q, secret)) :
    p.payments.Grows s' ∧ q ∈ s'.payments ∧
      (∀ key ∈ given, s'.Remembers principal.subject key (env.paymentHash data) q.id) ∧
      ((∀ x ∈ p.payments.payments, ∀ y ∈ p.payments.payments, y.orderId = x.orderId → y = x) →
        ∀ x ∈ s'.payments, ∀ y ∈ s'.payments, y.orderId = x.orderId → y = x) := by
  simp only [createPayment, bind_eq_ok] at h
  obtain ⟨found, hreplayed, h⟩ := h
  cases found with
  | some payment =>
    cases h
    obtain ⟨key, id, rfl, hremembers, hget⟩ := replayed_some hreplayed
    obtain rfl : q.id = id := Table.key_of_get? hget
    refine ⟨.refl _, Table.mem_of_get? hget, fun k hk => ?_, fun hsingle => hsingle⟩
    cases hk
    exact hremembers
  | none =>
    simp only [bind_eq_ok, require_eq_ok, pure_eq_ok, Prod.mk.injEq, Prod.exists] at h
    obtain ⟨_, hfree, _, -, _, -, intent, -, t, x, hstore, rfl, rfl, -⟩ := h
    simp only [storePayment, bind_eq_ok, numericColumn_eq_ok, textColumn_eq_ok, pure_eq_ok,
      Prod.mk.injEq, Store.addPayment, require_eq_ok, orRaise_eq_ok] at hstore
    obtain ⟨amount, -, currency, -, _, -, t, ⟨_, -, _, hsingle, _, -, payments, hins, rfl⟩, u, hkey,
      rfl, rfl⟩ := hstore
    obtain ⟨hgrows, hpayments, -, hremembers⟩ := recordKey_remembers hkey
    have hmem : ∀ y, y ∈ u.payments ↔ y ∈ p.payments.payments ∨ y = _ := fun y => by
      rw [hpayments]
      exact Table.mem_insert? hins
    refine ⟨⟨fun y hy => ⟨y, (hmem y).mpr (Or.inl hy), rfl⟩, hgrows.refunds, hgrows.idempotency,
      hgrows.webhookEvents⟩, (hmem _).mpr (Or.inr rfl), hremembers, fun hall x hx y hy hxy => ?_⟩
    rcases (hmem x).mp hx with hx | rfl <;> rcases (hmem y).mp hy with hy | rfl
    · exact hall x hx y hy hxy
    · exact absurd hxy.symm (hsingle x hx)
    · exact absurd hxy (hsingle y hy)
    · rfl

/-- A refund that is created was recorded before, or is new and recorded now. -/
theorem createRefund_grows {paymentId : UUID} {data : RefundCreate} {stripe : StripeReply String} :
    p.payments.Grows (createRefund env link p paymentId data principal given stripe).1.payments ∧
    (∀ r, (createRefund env link p paymentId data principal given stripe).2 = .ok r →
      (∃ row ∈ (createRefund env link p paymentId data principal given stripe).1.payments.refunds,
          row.id = r.id) ∧
        ∀ key ∈ given,
          (createRefund env link p paymentId data principal given stripe).1.payments.Remembers
            principal.subject key (env.refundHash paymentId data) r.id) := by
  simp only [createRefund]
  split
  · exact ⟨.refl _, fun r hr => by cases hr⟩
  next refund hreplayed =>
    refine ⟨.refl _, fun r hr => ?_⟩
    cases hr
    obtain ⟨key, id, rfl, hremembers, hget⟩ := replayed_some hreplayed
    obtain rfl : refund.id = id := Table.key_of_get? hget
    refine ⟨⟨refund, Table.mem_of_get? hget, rfl⟩, fun k hk => ?_⟩
    cases hk
    exact hremembers
  split
  · exact ⟨.refl _, fun r hr => by cases hr⟩
  next q a hread =>
  split
  · exact ⟨.refl _, fun r hr => by cases hr⟩
  next providerRefundId =>
  split
  · exact ⟨.refl _, fun r hr => by cases hr⟩
  next s' r hwrite =>
    obtain ⟨hget, -, -, -, -⟩ := refundRead_eq_ok.mp hread
    have hq := Table.mem_of_get? hget
    obtain rfl : q.id = paymentId := Table.key_of_get? hget
    simp only [refundWrite, bind_eq_ok, numericColumn_eq_ok, textColumn_eq_ok, pure_eq_ok,
      Prod.mk.injEq, Store.addRefund, require_eq_ok, orRaise_eq_ok] at hwrite
    obtain ⟨amount, -, _, -, t, ⟨_, -, refunds, hins, rfl⟩, u, hkey, rfl, rfl⟩ := hwrite
    obtain ⟨hgrows, -, hrefunds, hremembers⟩ := recordKey_remembers hkey
    have hput := @Store.Grows.put { p.payments with refunds := refunds } q hq
      (q.afterRefund p.payments a) rfl
    have hmem : ∀ x, x ∈ u.refunds ↔ x ∈ p.payments.refunds ∨ x = _ := fun x => by
      rw [hrefunds]
      exact Table.mem_insert? hins
    have hall := hput.trans hgrows
    refine ⟨⟨hall.payments, fun x hx => (hmem x).mpr (Or.inl hx), hall.idempotency,
      hall.webhookEvents⟩, fun x hx => ?_⟩
    cases hx
    exact ⟨⟨_, (hmem _).mpr (Or.inr rfl), rfl⟩, hremembers⟩

theorem settle_grows {recorded : Store} {intentId : String} {status : PaymentStatus}
    {columns : Payment → Payment} {callBack : Payment → Shop × Except ServiceError Unit}
    (hcolumns : ∀ q, (columns q).id = q.id) (h : p.payments.Grows recorded) :
    p.payments.Grows (settle p recorded intentId status columns callBack).1.payments ∧
      ((settle p recorded intentId status columns callBack).2 = .ok () →
        ∀ x ∈ recorded.webhookEvents,
          x ∈ (settle p recorded intentId status columns callBack).1.payments.webhookEvents) := by
  unfold settle
  split
  · exact ⟨h, fun _ _ hx => hx⟩
  next q hq =>
  split
  · exact ⟨h, fun _ _ hx => hx⟩
  rcases callBack q with ⟨shop, e | _⟩
  · exact ⟨.refl _, fun hok => by cases hok⟩
  · exact ⟨h.trans (.put (getPaymentByIntent_eq_some hq).1 _ (hcolumns q)), fun _ _ hx => hx⟩

/-- An event that is handled is recorded. -/
theorem handleWebhookEvent_grows {event : StripeEvent} :
    p.payments.Grows (handleWebhookEvent link now p event).1.payments ∧
    ((handleWebhookEvent link now p event).2 = .ok () →
      ∃ x ∈ (handleWebhookEvent link now p event).1.payments.webhookEvents,
        x.providerEventId = event.id) := by
  unfold handleWebhookEvent
  split
  next x hget => exact ⟨.refl _, fun _ => ⟨x, Table.mem_of_get? hget, Table.key_of_get? hget⟩⟩
  split
  · exact ⟨.refl _, fun hok => by cases hok⟩
  next recorded hadd =>
    simp only [Store.addWebhookEvent, bind_eq_ok, textColumn_eq_ok, orRaise_eq_ok,
      pure_eq_ok] at hadd
    obtain ⟨_, ⟨rfl, -⟩, _, ⟨rfl, -⟩, events, hins, rfl⟩ := hadd
    have hmem := fun x => @Table.mem_insert? _ _ _ _ _ _ _ x hins
    have hgrows : p.payments.Grows { p.payments with webhookEvents := events } :=
      ⟨fun q hq => ⟨q, hq, rfl⟩, fun _ h => h, fun _ h => h, fun x hx => (hmem x).mpr (Or.inl hx)⟩
    have hnew := (hmem ⟨event.id, event.type.text⟩).mpr (Or.inr rfl)
    split
    · refine ⟨(settle_grows ?_ hgrows).1, fun hok => ⟨⟨event.id, event.type.text⟩,
        (settle_grows ?_ hgrows).2 hok _ hnew, rfl⟩⟩ <;> exact fun _ => rfl
    · refine ⟨(settle_grows ?_ hgrows).1, fun hok => ⟨⟨event.id, event.type.text⟩,
        (settle_grows ?_ hgrows).2 hok _ hnew, rfl⟩⟩ <;> exact fun _ => rfl
    · exact ⟨hgrows, fun _ => ⟨_, hnew, rfl⟩⟩

end Operations

/-! ## One payment for an order -/

section Step

variable {env : PlatformEnv} {p : Platform}

theorem step_grows (env : PlatformEnv) (p : Platform) (call : Call) :
    p.payments.Grows (step env p call).payments := by
  unfold step
  split
  · exact .refl _
  next data principal key stripe _ =>
    cases hrun : createPayment env.payments call.link p data principal key stripe with
    | error e => exact .refl _
    | ok result =>
      obtain ⟨s', q, secret⟩ := result
      exact (createPayment_ok hrun).1
  · exact createRefund_grows.1
  · exact handleWebhookEvent_grows.1

theorem run_grows (env : PlatformEnv) (p : Platform) (calls : List Call) :
    p.payments.Grows (run (step env) p calls).payments := by
  have hkeep : ∀ p' call, p.payments.Grows p'.payments →
      p.payments.Grows (step env p' call).payments :=
    fun p' call h => h.trans (step_grows env p' call)
  exact run_keeps_all hkeep calls (.refl _)

/-- No two payments are for one order. -/
def Single (s : Store) : Prop :=
  ∀ x ∈ s.payments, ∀ y ∈ s.payments, y.orderId = x.orderId → y = x

theorem Single.put {s s' : Store} {q q' : Payment} (h : Single s) (hq : q ∈ s.payments)
    (hsame : q.Same q') (hput : s'.payments = s.payments.put q') : Single s' := by
  have hmem : ∀ x, x ∈ s'.payments ↔ x = q' ∨ (x ∈ s.payments ∧ x.id ≠ q.id) := fun x => by
    rw [hput]
    exact Table.mem_put_of_mem hq hsame.id
  intro x hx y hy hxy
  rcases (hmem x).mp hx with rfl | ⟨hx, hne⟩ <;> rcases (hmem y).mp hy with rfl | ⟨hy, hne'⟩
  · rfl
  · exact absurd (congrArg Payment.id (h q hq y hy (hxy.trans hsame.order))) hne'
  · exact absurd (congrArg Payment.id (h q hq x hx (hxy.symm.trans hsame.order))) hne
  · exact h x hx y hy hxy

theorem Single.settle {recorded : Store} {intentId : String} {status : PaymentStatus}
    {columns : Payment → Payment} {callBack : Payment → Shop × Except ServiceError Unit}
    (hcolumns : ∀ q : Payment, q.Same { columns q with status := status, version := q.version + 1 })
    (h : Single p.payments) (hsame : p.payments.Same recorded) :
    Single (settle p recorded intentId status columns callBack).1.payments := by
  rcases settle_cases hsame with hquiet | ⟨q, hq, -, -, -, -, hput⟩
  · unfold Single
    rw [hquiet.payments]
    exact h
  · exact h.put hq (hcolumns q) hput.payments

theorem Single.step (h : Single p.payments) (call : Call) :
    Single (Payments.step env p call).payments := by
  unfold Payments.step
  split
  · exact h
  next data principal key stripe _ =>
    cases hrun : createPayment env.payments call.link p data principal key stripe with
    | error e => exact h
    | ok result =>
      obtain ⟨s', q, secret⟩ := result
      exact (createPayment_ok hrun).2.2.2 h
  next paymentId data principal key stripe _ =>
    simp only [createRefund]
    split
    · exact h
    · exact h
    split
    · exact h
    next q a hread =>
    split
    · exact h
    split
    · exact h
    next s' r hwrite =>
      obtain ⟨-, hput, -, -, -, -, -, -, -, -⟩ := refundWrite_ok hwrite
      obtain ⟨hget, -, -, -, -⟩ := refundRead_eq_ok.mp hread
      exact @Single.put p.payments s' q (q.afterRefund p.payments a) h (Table.mem_of_get? hget)
        ⟨rfl, rfl, rfl, rfl, rfl⟩ hput
  next event _ =>
    unfold handleWebhookEvent
    split
    · exact h
    split
    · exact h
    next recorded hadd =>
    have hsame := (addWebhookEvent_ok hadd).1
    split
    · exact h.settle (fun _ => ⟨rfl, rfl, rfl, rfl, rfl⟩) hsame
    · exact h.settle (fun _ => ⟨rfl, rfl, rfl, rfl, rfl⟩) hsame
    · unfold Single
      rw [hsame.payments]
      exact h

end Step

/-- Every payment has a positive amount that its refunds do not exceed, is for the
total of one order, and no other payment is for that order. -/
def Accounted (p : Platform) : Prop :=
  ∀ q ∈ p.payments.payments, 0 < q.amount ∧ p.payments.refundedAmount q.id ≤ q.amount ∧
    (∃ o ∈ p.shop.orders.orders, q.For o) ∧ ∀ x ∈ p.payments.payments, x.orderId = q.orderId → x = q

/-- In every run of the three services every payment is accounted for. -/
theorem payments_accounted (env : PlatformEnv) (calls : List Call) :
    Accounted (run (step env) Platform.empty calls) := by
  intro q hq
  have hkeep : ∀ p call, Single p.payments → Single (step env p call).payments :=
    fun _ call h => h.step call
  have hsingle : Single (run (step env) Platform.empty calls).payments :=
    @run_keeps_all _ _ (step env) (fun p => Single p.payments) hkeep Platform.empty calls
      fun _ h => absurd h (Table.not_mem_empty _)
  have haccount := (run_books env calls).accounts q hq
  exact ⟨haccount.positive, haccount.covered, haccount.order, hsingle q hq⟩

/-! ## The same request again -/

/-- The same request, whatever Stripe answers this time. -/
inductive Request.Again : Request → Request → Prop
  | createPayment (data : PaymentCreate) (principal : Principal) (key : PaymentKey)
      (stripe stripe' : StripeReply StripePaymentIntent) :
      Again (.createPayment data principal (some key) stripe)
        (.createPayment data principal (some key) stripe')
  | createRefund (paymentId : UUID) (data : RefundCreate) (principal : Principal)
      (key : PaymentKey) (stripe stripe' : StripeReply String) :
      Again (.createRefund paymentId data principal (some key) stripe)
        (.createRefund paymentId data principal (some key) stripe')
  | webhook (event : StripeEvent) : Again (.webhook event) (.webhook event)

/-- What an accepted request of the Payment Service is answered with: the
identifier of a payment or refund, nothing for an event. -/
def answer (env : PlatformEnv) (p : Platform) (call : Call) : Option (Option UUID) :=
  match call.request with
  | .shop _ => none
  | .createPayment data principal key stripe =>
    (createPayment env.payments call.link p data principal key stripe).toOption.map fun r =>
      some r.2.1.id
  | .createRefund paymentId data principal key stripe =>
    (createRefund env.payments call.link p paymentId data principal key stripe).2.toOption.map
      fun r => some r.id
  | .webhook event => (handleWebhookEvent call.link call.now p event).2.toOption.map fun _ => none

section Again

variable {env : PlatformEnv} {p p' : Platform} {link : Link} {now : DateTime}

theorem toOption_map_eq_some {ε α β : Type} {f : α → β} {x : Except ε α} {b : β} :
    x.toOption.map f = some b ↔ ∃ a, x = .ok a ∧ f a = b := by
  constructor
  · intro h
    cases x with
    | error e => cases h
    | ok a => exact ⟨a, rfl, Option.some.inj h⟩
  · rintro ⟨a, rfl, rfl⟩
    rfl

theorem createPayment_again {data : PaymentCreate} {principal : Principal} {key : PaymentKey}
    {q : Payment} (hq : q ∈ p.payments.payments)
    (hremembers : p.payments.Remembers principal.subject key (env.payments.paymentHash data) q.id)
    (stripe : StripeReply StripePaymentIntent) :
    createPayment env.payments link p data principal (some key) stripe =
      .ok (p.payments, q, none) := by
  simp only [createPayment, hremembers.replayed (Table.get?_key hq), ok_bind]
  rfl

theorem createRefund_again {paymentId : UUID} {data : RefundCreate} {principal : Principal}
    {key : PaymentKey} {r : Refund} (hr : r ∈ p.payments.refunds)
    (hremembers : p.payments.Remembers principal.subject key
      (env.payments.refundHash paymentId data) r.id) (stripe : StripeReply String) :
    createRefund env.payments link p paymentId data principal (some key) stripe =
      (p, .ok r.response) := by
  simp only [createRefund, hremembers.replayed (Table.get?_key hr)]

end Again

/-- A request with a key that was accepted, or an event that was handled, can be
sent again at any later time: it is answered with the same row, and changes
nothing. -/
theorem repeat_is_harmless (env : PlatformEnv) (calls more : List Call) (call again : Call)
    (hagain : call.request.Again again.request) {id : Option UUID}
    (hanswer : answer env (run (step env) Platform.empty calls) call = some id) :
    answer env (run (step env) Platform.empty (calls ++ call :: more)) again = some id ∧
      step env (run (step env) Platform.empty (calls ++ call :: more)) again =
        run (step env) Platform.empty (calls ++ call :: more) := by
  set p := run (step env) Platform.empty calls with hp
  have hlater : run (step env) Platform.empty (calls ++ call :: more) =
      run (step env) (step env p call) more := by
    rw [run_append]
    rfl
  have hgrows := run_grows env (step env p call) more
  rw [hlater]
  generalize run (step env) (step env p call) more = later at hgrows
  obtain ⟨now, link, request⟩ := call
  obtain ⟨now', link', request'⟩ := again
  cases hagain with
  | createPayment data principal key stripe stripe' =>
    obtain ⟨⟨s', q, secret⟩, hrun, rfl⟩ := toOption_map_eq_some.mp hanswer
    obtain ⟨-, hq, hremembers, -⟩ := createPayment_ok hrun
    have hstep : (step env p ⟨now, link, .createPayment data principal (some key) stripe⟩).payments
        = s' := by
      simp only [step, hrun, Platform.commit]
    rw [hstep] at hgrows
    obtain ⟨q', hq', hid⟩ := hgrows.payments q hq
    have hserved := @createPayment_again env later link' data principal key q' hq'
      (hid ▸ (hremembers key rfl).grows hgrows) stripe'
    refine ⟨?_, ?_⟩
    · simp only [answer, hserved]
      exact congrArg (fun i => some (some i)) hid
    · simp only [step, hserved, Platform.commit]
  | createRefund paymentId data principal key stripe stripe' =>
    obtain ⟨r, hrun, rfl⟩ := toOption_map_eq_some.mp hanswer
    obtain ⟨-, hmade⟩ := @createRefund_grows env.payments p link principal (some key) paymentId data
      stripe
    obtain ⟨⟨row, hrow, hid⟩, hremembers⟩ := hmade r hrun
    have hserved := @createRefund_again env later link' paymentId data principal key row
      (hgrows.refunds row hrow) (hid ▸ (hremembers key rfl).grows hgrows) stripe'
    refine ⟨?_, ?_⟩
    · simp only [answer, hserved]
      exact congrArg (fun i => some (some i)) hid
    · simp only [step, hserved]
  | webhook event =>
    obtain ⟨_, hrun, rfl⟩ := toOption_map_eq_some.mp hanswer
    obtain ⟨-, hrecorded⟩ := @handleWebhookEvent_grows p link now event
    obtain ⟨x, hx, hid⟩ := hrecorded hrun
    have hserved := @webhook_recorded later link' now' event x
      (hid ▸ Table.get?_key (hgrows.webhookEvents x hx))
    refine ⟨?_, ?_⟩
    · simp only [answer, hserved]
      rfl
    · simp only [step, hserved]

/-- A refund of all that was paid, under a key. -/
def keyedRefund (stripe : String) : Request :=
  .createRefund 0 ⟨none, some "broken", by decide, by decide⟩ Inventory.sampleBuyer
    (some ⟨"refund-1", by decide⟩) (.ok stripe)

/-- The refund is asked for again, and the first one is the answer. -/
theorem refunded_once :
    answer samplePlatformEnv (run (step samplePlatformEnv) Platform.empty
        (paidCalls ++ ⟨3, .lost, keyedRefund "re_1"⟩ :: [])) ⟨9, .up, keyedRefund "re_2"⟩ =
      some (some 1) ∧
    step samplePlatformEnv (run (step samplePlatformEnv) Platform.empty
        (paidCalls ++ ⟨3, .lost, keyedRefund "re_1"⟩ :: [])) ⟨9, .up, keyedRefund "re_2"⟩ =
      run (step samplePlatformEnv) Platform.empty
        (paidCalls ++ ⟨3, .lost, keyedRefund "re_1"⟩ :: []) := by
  have hanswer : answer samplePlatformEnv (run (step samplePlatformEnv) Platform.empty paidCalls)
      ⟨3, .lost, keyedRefund "re_1"⟩ = some (some 1) := by decide +kernel
  exact repeat_is_harmless samplePlatformEnv paidCalls [] _ _ (.createRefund ..) hanswer

end Payments
end Marketplace
