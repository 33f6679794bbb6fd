import Marketplace.Payments.Books

/-!
# Payments: the ledger and the status

The status of a payment should say how much of it has been refunded.  Two
requests can break that: a refund whose amount, rounded in its row, makes up the
whole remainder although the amount itself does not; and a success event that
arrives after a refund, and puts the status back.
-/

namespace Marketplace
namespace Payments

open Base
open Orders (Shop Order)

/-- The status of a payment tells what its refunds add up to. -/
def Agrees (s : Store) (q : Payment) : Prop :=
  s.refundedAmount q.id ≤ q.amount ∧
  (q.status = .refunded ↔ s.refundedAmount q.id = q.amount ∧ 0 < q.amount) ∧
  (q.status = .partiallyRefunded ↔ 0 < s.refundedAmount q.id ∧ s.refundedAmount q.id < q.amount)

instance (s : Store) (q : Payment) : Decidable (Agrees s q) :=
  inferInstanceAs (Decidable (_ ∧ _ ∧ _))

def LedgerAgrees (p : Platform) : Prop := ∀ q ∈ p.payments.payments.rows, Agrees p.payments q

instance (p : Platform) : Decidable (LedgerAgrees p) :=
  inferInstanceAs (Decidable (∀ q ∈ p.payments.payments.rows, _))

/-! ## The condition -/

/-- A refund of less than the remainder whose rounding is the remainder. -/
def RoundsUp (s : Store) (q : Payment) (data : RefundCreate) : Prop :=
  ∃ a ∈ data.amount, a < ofHundredths (remaining s q) ∧ toHundredths a = remaining s q

/-- The refund, if it is made, does not round up to the remainder. -/
def RefundSafe (s : Store) (paymentId : UUID) (data : RefundCreate) (principal : Principal)
    (key : Option PaymentKey) (stripe : StripeReply String) : Prop :=
  ∀ q ∈ s.payments.rows, q.id = paymentId → q.VisibleTo principal → q.status.Refundable →
    Unused s principal.subject key → (∃ id, stripe = .ok id ∧ id.length ≤ 255) →
    ¬RoundsUp s q data

/-- A success event, if it is processed, is not about a payment that has been
refunded and whose order is still confirmed. -/
def EventSafe (p : Platform) (link : Link) (event : StripeEvent) : Prop :=
  event.type = .paymentIntentSucceeded → link = .up →
    p.payments.webhookEvents.get? event.id = none → event.id.length ≤ 255 →
    ∀ q ∈ p.payments.payments.rows, q.providerPaymentIntentId = event.object.id →
      q.status = .refunded ∨ q.status = .partiallyRefunded →
      ∀ o ∈ p.shop.orders.orders.rows, o.id = q.orderId → o.status ≠ .confirmed

def LedgerSafe (p : Platform) (call : Call) : Prop :=
  match call.request with
  | .createRefund paymentId data principal key stripe =>
    RefundSafe p.payments paymentId data principal key stripe
  | .webhook event => EventSafe p call.link event
  | _ => True

/-! ## One request -/

section Step

variable {env : PlatformEnv} {p p' : Platform} {call : Call} {q q' : Payment}

/-- A payment that no status calls refunded has no refunds. -/
theorem agrees_iff_none {s : Store} (hpos : 0 < q.amount) (hsum : 0 ≤ s.refundedAmount q.id)
    (hr : q.status ≠ .refunded) (hp : q.status ≠ .partiallyRefunded) :
    Agrees s q ↔ s.refundedAmount q.id = 0 := by
  unfold Agrees
  constructor
  · rintro ⟨hle, hfull, hpart⟩
    have h₁ : ¬(s.refundedAmount q.id = q.amount ∧ 0 < q.amount) := fun h => hr (hfull.mpr h)
    have h₂ : ¬(0 < s.refundedAmount q.id ∧ s.refundedAmount q.id < q.amount) :=
      fun h => hp (hpart.mpr h)
    omega
  · intro hzero
    refine ⟨by omega, ⟨fun h => absurd h hr, fun h => ?_⟩, ⟨fun h => absurd h hp, fun h => ?_⟩⟩
    · omega
    · omega

/-- A payment with refunds agrees when it is refunded or partially refunded, as
they make up its amount or not. -/
theorem agrees_of_some {s : Store} (hsum : 0 < s.refundedAmount q.id)
    (hle : s.refundedAmount q.id ≤ q.amount)
    (hfull : s.refundedAmount q.id = q.amount → q.status = .refunded)
    (hpart : s.refundedAmount q.id < q.amount → q.status = .partiallyRefunded) : Agrees s q := by
  rcases hle.eq_or_lt with heq | hlt
  · have hst := hfull heq
    refine ⟨hle, ⟨fun _ => ⟨heq, by omega⟩, fun _ => hst⟩, ⟨fun h => ?_, fun h => by omega⟩⟩
    rw [hst] at h
    cases h
  · have hst := hpart hlt
    refine ⟨hle, ⟨fun h => ?_, fun h => by omega⟩, ⟨fun _ => ⟨hsum, hlt⟩, fun _ => hst⟩⟩
    rw [hst] at h
    cases h

/-- Putting one payment: the others agree as before. -/
theorem ledger_put (hl : LedgerAgrees p)
    (hput : p'.payments.payments = p.payments.payments.put q') (hq : q ∈ p.payments.payments)
    (hid : q'.id = q.id)
    (hsum : ∀ id, id ≠ q.id → p'.payments.refundedAmount id = p.payments.refundedAmount id)
    (hnew : Agrees p'.payments q') : LedgerAgrees p' := by
  intro x hx
  rcases (mem_put hput hq hid).mp hx with rfl | ⟨hx, hne⟩
  · exact hnew
  · unfold Agrees
    rw [hsum x.id hne]
    exact hl x hx

/-- A webhook that moves a payment without refunds. -/
theorem ledger_moved (h : Books env p) (hl : LedgerAgrees p) (hput : p.payments.Puts p'.payments q')
    (hq : q ∈ p.payments.payments) (hsame : q.Same q')
    (hold : q.status ≠ .refunded ∧ q.status ≠ .partiallyRefunded)
    (hnew : q'.status ≠ .refunded ∧ q'.status ≠ .partiallyRefunded) : LedgerAgrees p' := by
  have hpos := (h.accounts q hq).positive
  have hnone := (agrees_iff_none hpos (refundedAmount_nonneg h.positive) hold.1 hold.2).mp (hl q hq)
  have hsum : ∀ id, p'.payments.refundedAmount id = p.payments.refundedAmount id :=
    fun id => refundedAmount_same hput.refunds
  have hnone' : p'.payments.refundedAmount q'.id = 0 := by rw [hsum, hsame.id, hnone]
  refine ledger_put hl hput.payments hq hsame.id (fun id _ => hsum id) ?_
  exact (agrees_iff_none (hsame.amount ▸ hpos) hnone'.ge hnew.1 hnew.2).mpr hnone'

/-- What a stored refund leaves: the remainder, if the amount as requested was
the remainder. -/
theorem ledger_refunded (h : Books env p) (hl : LedgerAgrees p) {paymentId : UUID}
    {data : RefundCreate} {principal : Principal} {key : Option PaymentKey}
    {providerRefundId : String} {a : ℚ} {r : Refund}
    (hread : refundRead p.payments paymentId data principal = .ok (q, a))
    (hwrite : refundWrite env.payments p.payments q a data principal key providerRefundId =
      .ok (p'.payments, r))
    (hsafe : ¬RoundsUp p.payments q data) : LedgerAgrees p' := by
  obtain ⟨hins, hput, -, -, hpayment, hst, hamount, hpos, -, -⟩ := refundWrite_ok hwrite
  obtain ⟨hget, -, -, hgiven, hle⟩ := refundRead_eq_ok.mp hread
  have hq : q ∈ p.payments.payments := Table.mem_of_get? hget
  have hcovered := refund_covered hread
  have hold : 0 ≤ p.payments.refundedAmount q.id := refundedAmount_nonneg h.positive
  have hsum : p'.payments.refundedAmount q.id =
      p.payments.refundedAmount q.id + toHundredths a := by
    rw [refundedAmount_insert hins hst, if_pos hpayment, hamount]
  rw [hamount] at hpos
  refine ledger_put hl hput hq rfl (fun id hne => ?_) ?_
  · rw [refundedAmount_insert hins hst, if_neg (by rw [hpayment]; exact hne.symm), add_zero]
  -- The row is the whole remainder exactly when the amount as requested is.
  have hfull : a = ofHundredths (remaining p.payments q) ↔
      toHundredths a = remaining p.payments q := by
    constructor
    · intro he
      rw [he, toHundredths_ofHundredths]
    · intro he
      by_contra hne
      have hlt := lt_of_le_of_ne hle hne
      cases hdata : data.amount with
      | none =>
        rw [hdata] at hgiven
        exact hne hgiven.symm
      | some b =>
        rw [hdata] at hgiven
        cases hgiven
        exact hsafe ⟨b, hdata, hlt, he⟩
  unfold remaining at hfull
  refine agrees_of_some ?_ ?_ (fun heq => ?_) (fun hlt => ?_)
  · show 0 < p'.payments.refundedAmount q.id
    omega
  · show p'.payments.refundedAmount q.id ≤ q.amount
    omega
  · have heq : p'.payments.refundedAmount q.id = q.amount := heq
    exact if_pos (hfull.mpr (by omega))
  · have hlt : p'.payments.refundedAmount q.id < q.amount := hlt
    exact if_neg fun he => by have := hfull.mp he; omega

theorem ledger_step (h : Books env p) (hl : LedgerAgrees p) (hsafe : LedgerSafe p call) :
    LedgerAgrees (step env p call) := by
  rcases step_booked env p call with
    hsame | ⟨q, o, -, -, -, -, -, hst, hpos, -, hins, hrefunds, -, -⟩ |
    ⟨event, q, q', o, o', hd, htype, hput, hsame, hst, -, hbefore, hawaited, -, -⟩ |
    ⟨event, q, q', o, hd, -, hput, hsame, hst, hbefore, hawaited⟩ |
    ⟨paymentId, data, principal, key, stripe, rid, q, a, r, hrequest, hanswer, hread, hwrite⟩
  · intro q hq
    rw [hsame.payments] at hq
    unfold Agrees
    rw [refundedAmount_same hsame.refunds]
    exact hl q hq
  · intro x hx
    rcases (Table.mem_insert? hins).mp hx with hx | rfl
    · unfold Agrees
      rw [refundedAmount_same hrefunds]
      exact hl x hx
    · have hzero := h.new_sum hins hrefunds
      exact (agrees_iff_none hpos hzero.ge (by rw [hst]; decide) (by rw [hst]; decide)).mpr hzero
  · refine ledger_moved h hl hput hd.stored hsame ?_ (by rw [hst]; decide)
    unfold LedgerSafe at hsafe
    rw [hd.request] at hsafe
    -- The order of a payment that has gone through no longer awaits it.
    have hnot : ¬(q.status = .refunded ∨ q.status = .partiallyRefunded) := by
      intro hrefunded
      have hleft := (h.orderOf hd.stored hbefore).left (Or.inr hrefunded)
      rcases hawaited with hc | hp
      · exact hsafe htype hd.link hd.unrecorded hd.storable q hd.stored hd.intent hrefunded o
          (Table.mem_of_get? hbefore) (Table.key_of_get? hbefore) hc
      · exact hleft.1 hp
    exact not_or.mp hnot
  · refine ledger_moved h hl hput hd.stored hsame ?_ (by rw [hst]; decide)
    have hnot : ¬(q.status = .refunded ∨ q.status = .partiallyRefunded) := by
      intro hrefunded
      have hleft := (h.orderOf hd.stored hbefore).left (Or.inr hrefunded)
      rcases hawaited with hf | hp
      · exact hleft.2 hf
      · exact hleft.1 hp
    exact not_or.mp hnot
  · unfold LedgerSafe at hsafe
    rw [hrequest] at hsafe
    obtain ⟨hget, hv, hrefundable, -, -⟩ := refundRead_eq_ok.mp hread
    obtain ⟨-, -, -, -, -, -, -, -, hlength, hunused⟩ := refundWrite_ok hwrite
    exact ledger_refunded h hl hread hwrite (hsafe q (Table.mem_of_get? hget)
      (Table.key_of_get? hget) hv hrefundable hunused ⟨rid, hanswer, hlength⟩)

/-- A refund that rounds up to the remainder is stored, and leaves a payment that
is refunded in full and called partially refunded. -/
theorem refund_breaks (h : Books env p) {link : Link} {paymentId : UUID} {data : RefundCreate}
    {principal : Principal} {key : Option PaymentKey} {stripe : StripeReply String}
    (hbad : ¬RefundSafe p.payments paymentId data principal key stripe) :
    ¬LedgerAgrees (createRefund env.payments link p paymentId data principal key stripe).1 := by
  simp only [RefundSafe, not_forall, not_not] at hbad
  obtain ⟨q, hq, hid, hv, hrefundable, hunused, ⟨rid, rfl, hlength⟩, a, ha, hlt, hround⟩ := hbad
  have hgiven : data.amount.getD (ofHundredths (remaining p.payments q)) = a := by rw [ha]; rfl
  have hread : refundRead p.payments paymentId data principal = .ok (q, a) :=
    refundRead_eq_ok.mpr ⟨hid ▸ Table.get?_key hq, hv, hrefundable, hgiven, hlt.le⟩
  have hpos : 0 < toHundredths a := by
    rw [hround]
    have hapos : 0 < a := data.amount_valid a ha
    have hrest : ofHundredths 0 < ofHundredths (remaining p.payments q) := by
      have hzero : ofHundredths 0 = 0 := by simp [ofHundredths]
      rw [hzero]
      exact hapos.trans hlt
    exact not_le.mp fun hle => absurd (ofHundredths_le.mpr hle) (not_le.mpr hrest)
  have hmax : toHundredths a < 10 ^ 14 := by
    have hbound := (h.accounts q hq).bounded
    have hcovered := refund_covered hread
    have hsum : 0 ≤ p.payments.refundedAmount q.id := refundedAmount_nonneg h.positive
    omega
  have hfresh : ∀ r ∈ p.payments.refunds, r.id ≠ env.payments.uuid4.value p.payments.drawn :=
    fun r hr he => Supply.not_issued le_rfl (he ▸ h.issued r hr)
  obtain ⟨s', r, hwrite⟩ := @refundWrite_succeeds env.payments p.payments principal key q a data rid
    hpos hmax hlength hunused hfresh
  have hrun : (createRefund env.payments link p paymentId data principal key (.ok rid)).1.payments
      = s' := by
    simp only [createRefund, replayed_of_unused hunused, hread, hwrite]
  intro hl
  obtain ⟨hins, hput, -, -, hpayment, hst, hamount, -, -, -⟩ := refundWrite_ok hwrite
  have hmem : q.afterRefund p.payments a ∈ s'.payments := by
    rw [hput]
    exact Table.mem_put_self hq rfl
  have hagrees := hl (q.afterRefund p.payments a) (by rw [hrun]; exact hmem)
  have hpart : (q.afterRefund p.payments a).status = .partiallyRefunded := if_neg hlt.ne
  rw [hrun] at hagrees
  have hless : s'.refundedAmount q.id < q.amount := (hagrees.2.2.mp hpart).2
  rw [refundedAmount_insert hins hst, if_pos hpayment, hamount, hround] at hless
  unfold remaining at hless
  omega

/-- A success event for a refunded payment whose order is confirmed is processed,
and takes the status of the refund away. -/
theorem event_breaks (h : Books env p) (hl : LedgerAgrees p) {link : Link} {now : DateTime}
    {event : StripeEvent} (hbad : ¬EventSafe p link event) :
    ¬LedgerAgrees (handleWebhookEvent link now p event).1 := by
  simp only [EventSafe, not_forall, not_not] at hbad
  obtain ⟨htype, rfl, hnew, hlength, q, hq, hintent, hrefunded, o, ho, hid, hconfirmed⟩ := hbad
  obtain ⟨recorded, hadd⟩ := @addWebhookEvent_of_new p.payments event (by rw [htype]; decide)
    hlength hnew
  have hsame := (addWebhookEvent_ok hadd).1
  have hfind : recorded.getPaymentByIntent event.object.id = some q := hintent ▸ h.found hsame hq
  have hne : q.status ≠ .succeeded := by
    rcases hrefunded with hst | hst
    · rw [hst]; decide
    · rw [hst]; decide
  have hcall := @paymentAuthorized_confirmed q p.shop now o
    ((h.accounts q hq).authorized (Or.inr hrefunded)) (hid ▸ Table.get?_key ho) hconfirmed
  have hrun := (webhook_succeeded hnew hadd htype).trans (settle_moves hfind hne hcall)
  rw [hrun]
  intro hl'
  let q' : Payment := { q with status := .succeeded, version := q.version + 1 }
  have hstored : q ∈ recorded.payments := by
    rw [hsame.payments]
    exact hq
  have hmem : q' ∈ (recorded.putPayment q').payments :=
    Table.mem_put_self hstored rfl
  have hpos : 0 < q.amount := (h.accounts q hq).positive
  have hsum : (recorded.putPayment q').refundedAmount q'.id = p.payments.refundedAmount q.id :=
    refundedAmount_same hsame.refunds
  have hzero : p.payments.refundedAmount q.id = 0 := by
    rw [← hsum]
    have hst : q'.status = .succeeded := rfl
    refine (@agrees_iff_none q' _ hpos ?_ (by rw [hst]; decide) (by rw [hst]; decide)).mp
      (hl' q' hmem)
    rw [hsum]
    exact refundedAmount_nonneg h.positive
  rcases hrefunded with hst | hst
  · have := ((hl q hq).2.1.mp hst).1
    omega
  · have := ((hl q hq).2.2.mp hst).1
    omega

/-- A request keeps the ledger and the status in agreement if and only if it is
safe. -/
theorem ledger_step_iff (h : Books env p) (hl : LedgerAgrees p) :
    LedgerAgrees (step env p call) ↔ LedgerSafe p call := by
  refine ⟨fun hl' => ?_, fun hsafe => ledger_step h hl hsafe⟩
  by_contra hbad
  obtain ⟨now, link, request⟩ := call
  cases request with
  | shop request => exact hbad trivial
  | createPayment data principal key stripe => exact hbad trivial
  | createRefund paymentId data principal key stripe => exact refund_breaks h hbad hl'
  | webhook event => exact event_breaks h hl hbad hl'

end Step

/-! ## Runs that break it -/

def samplePlatformEnv : PlatformEnv where
  shop := Orders.sampleShopEnv
  payments :=
    { uuid4 := ⟨id, fun _ _ h => h⟩
      paymentHash := fun _ => "digest"
      refundHash := fun _ _ => "digest" }

/-- The stock and one order over 20.00, and a payment for it. -/
def paymentCalls : List Call :=
  (Orders.orderCalls.map fun call => ⟨call.val.1, .up, .shop call.val.2⟩) ++
    [⟨1, .up, .createPayment ⟨0⟩ Inventory.sampleBuyer none (.ok ⟨"pi_1", none⟩)⟩]

def succeededEvent (id : String) : StripeEvent := ⟨id, .paymentIntentSucceeded, ⟨"pi_1", none⟩⟩

def paidCalls : List Call := paymentCalls ++ [⟨2, .up, .webhook (succeededEvent "evt_1")⟩]

/-- A refund by the customer. -/
def refundCall (data : RefundCreate) : Call :=
  ⟨3, .up, .createRefund 0 data Inventory.sampleBuyer none (.ok "re_1")⟩

/-- A refund of 19.996 is stored as 20.00, all there is, and the payment is called
partially refunded; a second success event takes the status of a full refund
away. -/
theorem ledger_disagrees :
    ¬LedgerAgrees (run (step samplePlatformEnv) Platform.empty (paidCalls ++
      [refundCall ⟨some 19.996, none, by norm_num, by decide⟩])) ∧
    ¬LedgerAgrees (run (step samplePlatformEnv) Platform.empty (paidCalls ++
      [refundCall ⟨none, none, by decide, by decide⟩,
       ⟨4, .up, .webhook (succeededEvent "evt_2")⟩])) := by
  decide +kernel

/-- A run of the three services keeps the ledger and the status of every payment
in agreement if and only if all of its requests are safe. -/
theorem ledger_agrees (env : PlatformEnv) (calls : List Call) :
    Along (step env) LedgerAgrees Platform.empty calls ↔
      Admitted (step env) LedgerSafe Platform.empty calls := by
  have hkeep : ∀ p call, Books env p → Books env (step env p call) := fun _ call h => h.step call
  have hstep : ∀ p call, Books env p → LedgerAgrees p →
      (LedgerAgrees (step env p call) ↔ LedgerSafe p call) := fun _ _ h hl => ledger_step_iff h hl
  exact along_iff_admitted hkeep hstep (.empty env) fun _ hq => absurd hq (Table.not_mem_empty _)

end Payments
end Marketplace
