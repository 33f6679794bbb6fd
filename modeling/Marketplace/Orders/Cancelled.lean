import Marketplace.Orders.Spares

/-!
# Orders: what becomes of the stock of a cancelled order

While the only calls that resolve reservations are those of the Order Service,
a group is committed exactly when its order has been paid for.  `Joint` says so,
and holds in every run.  It decides what cancelling does: the group of an unpaid
order is released, and the group of a confirmed order is committed by then, so
Inventory refuses the release, the client takes the refusal for success, and the
units of the cancelled order stay sold.
-/

namespace Marketplace
namespace Orders

open Base
open Inventory (Inv GroupIs ClosedAll closeAs InventoryReservation)

/-- The payment of the order went through, whatever happened to it since. -/
def OrderStatus.Settled (status : OrderStatus) : Prop :=
  status ≠ .pendingPayment ∧ status ≠ .paymentAuthorized ∧ status ≠ .paymentFailed

/-- The order is being delivered to its customer. -/
def OrderStatus.Fulfilling (status : OrderStatus) : Prop :=
  status = .confirmed ∨ status = .processing ∨ status = .shipped ∨ status = .delivered

theorem OrderStatus.Moves.settled {status next : OrderStatus} (h : status.Moves next)
    (hs : status.Settled) : next.Settled := by
  cases h with
  | confirm => exact absurd rfl hs.1
  | fail => exact absurd rfl hs.1
  | cancel _ => exact ⟨nofun, nofun, nofun⟩
  | fulfill h => cases status <;> cases h <;> exact ⟨nofun, nofun, nofun⟩

/-- The units of every cancelled order are free again. -/
def StockReturned (shop : Shop) : Prop :=
  ∀ o ∈ shop.orders.orders.rows, o.status = .cancelled →
    ∀ r ∈ shop.inventory.reservations.rows, o.reservationGroupId ≠ none →
      r.reservationGroupId = o.reservationGroupId → r.status = .released ∨ r.status = .expired

instance (shop : Shop) : Decidable (StockReturned shop) :=
  inferInstanceAs (Decidable (∀ _ ∈ _, _))

theorem stockReturned_iff {shop : Shop} :
    StockReturned shop ↔ ∀ o ∈ shop.orders.orders, o.status = .cancelled →
      ∀ g, o.reservationGroupId = some g → ∀ r ∈ shop.inventory.reservations,
        r.reservationGroupId = some g → r.status = .released ∨ r.status = .expired := by
  constructor
  · intro h o ho hc g hg r hr hrg
    exact h o ho hc r hr (by rw [hg]; nofun) (hrg.trans hg.symm)
  · intro h o ho hc r hr hne hrg
    obtain ⟨g, hg⟩ := Option.ne_none_iff_exists'.mp hne
    exact h o ho hc g hg r hr (hrg.trans hg)

structure Joint (env : ShopEnv) (shop : Shop) : Prop where
  sane : Sane env shop
  uniform : Inventory.Uniform shop.inventory
  paid : ∀ r ∈ shop.inventory.reservations, r.status = .committed → ∀ g,
    r.reservationGroupId = some g →
      ∃ o ∈ shop.orders.orders, o.reservationGroupId = some g ∧ o.status.Settled
  sold : ∀ o ∈ shop.orders.orders, o.status.Fulfilling → ∀ g, o.reservationGroupId = some g →
    GroupIs shop.inventory g .committed

theorem Joint.empty (env : ShopEnv) : Joint env Shop.empty where
  sane := .empty env
  uniform := nofun
  paid _ h := absurd h (Table.not_mem_empty _)
  sold _ h := absurd h (Table.not_mem_empty _)

section Keeping

variable {env : ShopEnv} {shop shop' : Shop}

/-- Every committed reservation was committed before, or its group belongs to an
order that has been paid for. -/
def CommitsPaid (shop shop' : Shop) : Prop :=
  ∀ r ∈ shop'.inventory.reservations, r.status = .committed → r ∈ shop.inventory.reservations ∨
    ∀ g, r.reservationGroupId = some g →
      ∃ o ∈ shop'.orders.orders, o.reservationGroupId = some g ∧ o.status.Settled

/-- The orders that are being fulfilled were so before, or their group is
committed now. -/
def FulfillsSold (shop shop' : Shop) : Prop :=
  ∀ o' ∈ shop'.orders.orders, o'.status.Fulfilling →
    (∃ o ∈ shop.orders.orders, o.Same o' ∧ o.status.Fulfilling) ∨
      ∀ g, o'.reservationGroupId = some g → GroupIs shop'.inventory g .committed

theorem Joint.stays (h : Joint env shop) (he : Effect env shop shop')
    (hs : Stays env.inventory shop.inventory shop'.inventory)
    (hu : Inventory.Uniform shop'.inventory) (hpaid : CommitsPaid shop shop')
    (hsold : FulfillsSold shop shop') : Joint env shop' where
  sane := h.sane.effect he
  uniform := hu
  paid r hr hc g hg := by
    rcases hpaid r hr hc with hold | hnew
    · obtain ⟨o, ho, hog, hsettled⟩ := h.paid r hold hc g hg
      obtain ⟨o', ho', rfl | hnext⟩ := he.kept o ho
      · exact ⟨o', ho', hog, hsettled⟩
      · refine ⟨o', ho', hnext.same.group.trans hog, ?_⟩
        rcases hnext.status with ⟨hsame, -⟩ | hmoves
        · rw [hsame]
          exact hsettled
        · exact hmoves.settled hsettled
    · exact hnew g hg
  sold o' ho' hf g hg := by
    rcases hsold o' ho' hf with ⟨o, ho, hsame, hof⟩ | hnew
    · exact hs.groupIs h.sane.inventory.ids (h.sold o ho hof g (hsame.group ▸ hg))
    · exact hnew g hg

/-- A request that commits no reservation and confirms no order. -/
theorem Joint.spares (h : Joint env shop) (he : Effect env shop shop')
    (hs : Spares env.inventory shop.inventory shop'.inventory)
    (hu : Inventory.Uniform shop'.inventory)
    (hb : Before OrderStatus.Fulfilling shop.orders shop'.orders) : Joint env shop' :=
  h.stays he hs.toStays hu (fun r hr hc => Or.inl (hs.committed r hr hc))
    fun o' ho' hf => Or.inl (hb o' ho' hf)

theorem joint_paymentAuthorized (h : Joint env shop) (now : DateTime) (orderId : UUID)
    (data : PaymentAuthorized) (principal : Principal) :
    Joint env (paymentAuthorized now shop orderId data principal).1 := by
  have he := @paymentAuthorized_effect env shop h.sane.inventory.inv now orderId data principal
  have hs := @paymentAuthorized_stays env shop h.sane now orderId data principal
  have hu := paymentAuthorized_uniform h.sane h.uniform now orderId data principal
  rcases paymentAuthorized_cases h.sane now orderId data principal with
    hsame | ⟨order, g, hget, hp, hg, ⟨inventory, hrun, hcommitted, hi⟩ | ⟨inventory, hrun, hi⟩⟩
  · rw [hsame]
    exact h
  · rw [hrun] at he hs hu ⊢
    have hid : order.id = orderId := Table.key_of_get? hget
    have ho : order ∈ shop.orders.orders := Table.mem_of_get? hget
    have hput := authorizeWrite_puts (hid ▸ hget) data principal
    have hconfirmed := (hput.mem ho rfl).mpr (Or.inl rfl)
    refine h.stays he hs hu (fun r hr hc => ?_) fun x hx hf => ?_
    · rcases hi with rfl | ⟨-, hclosed⟩
      · exact Or.inl hr
      rcases hclosed.mem hr with ⟨y, hy, rfl⟩ | ⟨hold, -⟩
      · refine Or.inr fun g' hg' => ⟨_, hconfirmed, ?_, nofun, nofun, nofun⟩
        have hyg := (Inventory.Store.mem_listReservationsByGroup.mp hy).2
        rw [← hg', (hclosed.closes y hy).group, hyg]
        exact hg
      · exact Or.inl hold
    · rcases (hput.mem ho rfl).mp hx with rfl | ⟨hx, -⟩
      · refine Or.inr fun g' hg' => ?_
        cases hg.symm.trans hg'
        exact hcommitted
      · exact Or.inl ⟨x, hx, .refl x, hf⟩
  · rw [hrun] at he hs hu ⊢
    refine h.stays he hs hu (fun r hr hc => Or.inl ?_) fun x hx hf => Or.inl ⟨x, hx, .refl x, hf⟩
    rcases hi with rfl | ⟨-, hclosed⟩
    · exact hr
    · exact (Spares.of_closed hclosed nofun : Spares env.inventory _ _).committed r hr hc

end Keeping

/-! ## Runs -/

/-- The requests of the two services and of stock keeping; nobody else resolves
reservations. -/
def Listed : Request → Prop
  | .inventory request => request.StockKeeping
  | _ => True

abbrev ShopCall := { call : DateTime × Request // Listed call.2 }

/-- One request of a run. -/
def shopStep (env : ShopEnv) (shop : Shop) (call : ShopCall) : Shop := step env shop call.val

/-- The order a request cancels is not confirmed. -/
def NoConfirmedCancel (shop : Shop) (call : ShopCall) : Prop :=
  match call.val.2 with
  | .cancel orderId _ principal version =>
    ∀ o ∈ shop.orders.orders.rows, o.id = orderId → o.VisibleTo principal → o.version = version →
      o.status ≠ .confirmed
  | _ => True

section Step

variable {env : ShopEnv} {shop : Shop}

theorem OrderStatus.fulfilling_of_next {status next : OrderStatus}
    (h : status.next = some next) (_ : next.Fulfilling) : status.Fulfilling := by
  cases status with
  | confirmed => exact Or.inl rfl
  | processing => exact Or.inr (Or.inl rfl)
  | shipped => exact Or.inr (Or.inr (Or.inl rfl))
  | _ => cases h

theorem Joint.step (h : Joint env shop) (call : ShopCall) :
    Joint env (shopStep env shop call) := by
  obtain ⟨⟨now, req⟩, hlisted⟩ := call
  have hinv := h.sane.inventory.inv
  have he : Effect env shop (Orders.step env shop (now, req)) := step_effect hinv (now, req)
  have hnot : ∀ status : OrderStatus, status = .cancelled ∨ status = .pendingPayment ∨
      status = .paymentFailed → ¬status.Fulfilling := by
    rintro _ (rfl | rfl | rfl) (hf | hf | hf | hf) <;> cases hf
  unfold shopStep
  cases req with
  | inventory request =>
    have hsame := @Inventory.step_stockKeeping env.inventory _ hinv (now, request) hlisted
    exact h.spares he (.of_same hsame) (Inventory.uniform_of_same h.uniform hsame) (.of_same rfl)
  | checkout data principal key replies =>
    exact h.spares he (create_spares hinv now data principal key replies)
      (create_uniform h.sane.inventory h.uniform now data principal key replies)
      (create_before (hnot _ (by simp)) hinv now data principal key replies)
  | cancel orderId data principal version =>
    exact h.spares he (cancel_spares hinv orderId data principal version)
      (cancel_uniform hinv h.uniform orderId data principal version)
      (cancel_before (hnot _ (by simp)) orderId data principal version)
  | paymentAuthorized orderId data principal =>
    exact joint_paymentAuthorized h now orderId data principal
  | paymentFailed orderId data principal =>
    exact h.spares he (paymentFailed_spares hinv orderId data principal)
      (paymentFailed_uniform hinv h.uniform orderId data principal)
      (paymentFailed_before (hnot _ (by simp)) orderId data principal)
  | paymentRefunded orderId data principal =>
    have hsame := @commit_inventory shop _ (paymentRefunded shop.orders orderId data)
    exact h.spares he (.of_same (congrArg _ hsame)) (hsame ▸ h.uniform)
      (paymentRefunded_before orderId data)
  | fulfillment orderId data principal =>
    have hsame := @commit_inventory shop _ (fulfillment shop.orders orderId data principal)
    exact h.spares he (.of_same (congrArg _ hsame)) (hsame ▸ h.uniform)
      (fulfillment_before (fun _ _ => OrderStatus.fulfilling_of_next) orderId data principal)

/-- An order that was cancelled before keeps its stock returned. -/
theorem StockReturned.stays {shop' : Shop} (h : Sane env shop) (hr : StockReturned shop)
    (hs : Stays env.inventory shop.inventory shop'.inventory) {o : Order}
    (ho : o ∈ shop.orders.orders) (hc : o.status = .cancelled) {g : UUID}
    (hg : o.reservationGroupId = some g) {r : InventoryReservation}
    (hmem : r ∈ shop'.inventory.reservations) (hrg : r.reservationGroupId = some g) :
    r.status = .released ∨ r.status = .expired := by
  have hreturned := stockReturned_iff.mp hr o ho hc g hg
  rcases hs.new r hmem with hold | hnew
  · exact hreturned r hold hrg
  · rcases hnew g hrg with hni | ⟨x, hx, ha, hxg⟩
    · obtain ⟨g', key, hg', -, rec, hrec, -, hres⟩ := h.placed o ho
      cases hg.symm.trans hg'
      exact absurd (h.inventory.ids.records rec hrec g hres) hni
    · rcases hreturned x hx hxg with hx' | hx' <;> cases ha.symm.trans hx'

/-- A request that cancels nothing. -/
theorem StockReturned.before {shop' : Shop} (h : Sane env shop) (hr : StockReturned shop)
    (hs : Stays env.inventory shop.inventory shop'.inventory)
    (hb : Before (fun status => status = .cancelled) shop.orders shop'.orders) :
    StockReturned shop' := by
  refine stockReturned_iff.mpr fun o' ho' hc g hg r hmem hrg => ?_
  obtain ⟨o, ho, hsame, hoc⟩ := hb o' ho' hc
  exact hr.stays h hs ho hoc (hsame.group ▸ hg) hmem hrg

/-- The group of an order that has not been paid for has no committed member. -/
theorem Joint.not_committed (h : Joint env shop) {o : Order} (ho : o ∈ shop.orders.orders)
    {g : UUID} (hg : o.reservationGroupId = some g) (hst : ¬o.status.Settled)
    {r : InventoryReservation} (hr : r ∈ shop.inventory.reservations)
    (hrg : r.reservationGroupId = some g) : r.status ≠ .committed := by
  intro hc
  obtain ⟨o', ho', hg', hsettled⟩ := h.paid r hr hc g hrg
  rw [h.sane.alone ho ho' hg hg' ⟨r, hr, hrg⟩] at hsettled
  exact hst hsettled

/-- What an answered release leaves of the group of an unpaid order. -/
theorem Joint.released (h : Joint env shop) {o : Order} (ho : o ∈ shop.orders.orders) {g : UUID}
    (hg : o.reservationGroupId = some g) (hst : ¬o.status.Settled) {inventory : Inventory.Store}
    (hi : (GroupIs shop.inventory g .active ∧ ClosedAll (closeAs .released)
        (shop.inventory.listReservationsByGroup g) shop.inventory inventory) ∨
      (¬GroupIs shop.inventory g .active ∧ inventory = shop.inventory))
    {r : InventoryReservation} (hr : r ∈ inventory.reservations)
    (hrg : r.reservationGroupId = some g) : r.status = .released ∨ r.status = .expired := by
  rcases hi with ⟨ha, hc⟩ | ⟨hna, rfl⟩
  · exact Or.inl ((hc.groupIs ha.1 fun _ => rfl).2 r hr hrg)
  · have hcommitted := h.not_committed ho hg hst hr hrg
    cases hstatus : r.status with
    | active =>
      refine absurd ⟨⟨r, hr, hrg⟩, fun x hx hxg => ?_⟩ hna
      rw [← hstatus]
      exact h.uniform r hr x hx (by rw [hrg]; nofun) (hxg.trans hrg.symm)
    | committed => exact absurd hstatus hcommitted
    | released => exact Or.inl rfl
    | expired => exact Or.inr rfl

/-- Cancelling returns the stock if and only if the order is not confirmed. -/
theorem stockReturned_cancel_iff (h : Joint env shop) (hr : StockReturned shop) (orderId : UUID)
    (data : CancelOrder) (principal : Principal) (version : Nat) :
    StockReturned (cancel shop orderId data principal version).1 ↔
      ∀ o ∈ shop.orders.orders.rows, o.id = orderId → o.VisibleTo principal →
        o.version = version → o.status ≠ .confirmed := by
  have hs : Stays env.inventory shop.inventory
      (cancel shop orderId data principal version).1.inventory :=
    (cancel_spares h.sane.inventory.inv orderId data principal version).toStays
  unfold cancel at hs ⊢
  cases hread : cancelRead shop.orders orderId principal version with
  | error e =>
    refine iff_of_true hr fun o ho hid hv hversion hc => ?_
    have hok := cancelRead_eq_ok.mpr ⟨hid ▸ Table.get?_key ho, hv, hversion, Or.inr (Or.inr hc)⟩
    cases hread.symm.trans hok
  | ok order =>
    rw [hread] at hs
    obtain ⟨hget, hv, hversion, hcancellable⟩ := cancelRead_eq_ok.mp hread
    have ho : order ∈ shop.orders.orders := Table.mem_of_get? hget
    have hid : order.id = orderId := Table.key_of_get? hget
    have hone : (∀ o ∈ shop.orders.orders.rows, o.id = orderId → o.VisibleTo principal →
        o.version = version → o.status ≠ .confirmed) ↔ order.status ≠ .confirmed := by
      refine ⟨fun hall => hall order ho hid hv hversion, fun hne o ho' hid' _ _ => ?_⟩
      rw [Table.eq_of_key_eq ho' ho (hid'.trans hid.symm)]
      exact hne
    refine Iff.trans ?_ hone.symm
    obtain ⟨g, -, hg, -⟩ := h.sane.placed order ho
    simp only [releaseOrder, hg] at hs ⊢
    by_cases hmem : ∃ r ∈ shop.inventory.reservations, r.reservationGroupId = some g
    swap
    · obtain ⟨e, hrun⟩ := @releaseGroup_missing _ _ data.reason principal hmem
      rw [hrun]
      refine iff_of_true hr fun hc => hmem (h.sold order ho (Or.inl hc) g hg).1
    have hreason : data.reason.length ≤ 2000 := data.reason_valid.2.trans (by omega)
    obtain ⟨inventory, hrun, hi⟩ := releaseGroup_answered h.sane.inventory.inv hreason hmem
      (h.sane.mayResolve ho hg hv)
    rw [hrun] at hs ⊢
    have hput := cancelWrite_puts (hid ▸ hget) data principal
    constructor
    · intro hreturned hc
      obtain ⟨⟨r, hr', hrg⟩, hall⟩ := h.sold order ho (Or.inl hc) g hg
      have hcommitted := hall r hr' hrg
      have hstays : r ∈ inventory.reservations := hs.old r hr' (by rw [hcommitted]; nofun)
      have hcancelled := (hput.mem ho rfl).mpr (Or.inl rfl)
      rcases stockReturned_iff.mp hreturned _ hcancelled rfl g hg r hstays hrg with hst | hst <;>
        cases hcommitted.symm.trans hst
    · intro hne
      refine stockReturned_iff.mpr fun o' ho' hc g' hg' r hr' hrg => ?_
      rcases (hput.mem ho rfl).mp ho' with rfl | ⟨hold, -⟩
      · cases hg.symm.trans hg'
        refine h.released ho hg ?_ hi hr' hrg
        rintro ⟨h₁, h₂, -⟩
        rcases hcancellable with hst | hst | hst
        · exact h₁ hst
        · exact h₂ hst
        · exact hne hst
      · exact hr.stays h.sane hs hold hc hg' hr' hrg

theorem OrderStatus.not_cancelled_of_next {status next : OrderStatus}
    (h : status.next = some next) (hc : next = .cancelled) : status = .cancelled := by
  subst hc
  cases status <;> cases h

/-- A request returns the stock if and only if it cancels no confirmed order. -/
theorem stockReturned_step_iff (h : Joint env shop) (hr : StockReturned shop) (call : ShopCall) :
    StockReturned (shopStep env shop call) ↔ NoConfirmedCancel shop call := by
  obtain ⟨⟨now, req⟩, hlisted⟩ := call
  have hinv := h.sane.inventory.inv
  unfold shopStep
  cases req with
  | inventory request =>
    have hsame := @Inventory.step_stockKeeping env.inventory _ hinv (now, request) hlisted
    exact iff_of_true (hr.before h.sane (Spares.of_same hsame).toStays (.of_same rfl)) trivial
  | checkout data principal key replies =>
    exact iff_of_true (hr.before h.sane (create_spares hinv now data principal key replies).toStays
      (create_before nofun hinv now data principal key replies)) trivial
  | cancel orderId data principal version =>
    exact stockReturned_cancel_iff h hr orderId data principal version
  | paymentAuthorized orderId data principal =>
    exact iff_of_true (hr.before h.sane (paymentAuthorized_stays h.sane now orderId data principal)
      (paymentAuthorized_before nofun now orderId data principal)) trivial
  | paymentFailed orderId data principal =>
    exact iff_of_true (hr.before h.sane (paymentFailed_spares hinv orderId data principal).toStays
      (paymentFailed_before nofun orderId data principal)) trivial
  | paymentRefunded orderId data principal =>
    have hsame := @commit_inventory shop _ (paymentRefunded shop.orders orderId data)
    exact iff_of_true (hr.before h.sane (Spares.of_same (congrArg _ hsame)).toStays
      (paymentRefunded_before orderId data)) trivial
  | fulfillment orderId data principal =>
    have hsame := @commit_inventory shop _ (fulfillment shop.orders orderId data principal)
    exact iff_of_true (hr.before h.sane (Spares.of_same (congrArg _ hsame)).toStays
      (fulfillment_before (fun _ _ => OrderStatus.not_cancelled_of_next) orderId data principal))
      trivial

end Step

/-! ## A run that loses stock -/

def sampleShopEnv : ShopEnv where
  inventory := Inventory.sampleEnv
  orders :=
    { uuid4 := ⟨id, fun _ _ h => h⟩
      settings := ⟨15, "ORD", by decide⟩
      requestHash := fun _ => "digest" }

def sampleAddress : AddressSnapshot :=
  ⟨"A. Buyer", "1 High Street", none, "Town", "State", "12345", "US", none⟩

/-- A cart with two mugs at ten each, and the seller of the mugs. -/
def sampleReplies : CheckoutReplies where
  cart :=
    { cartStatus := 200
      cart := ⟨40, 500, "USD", 20, 1,
        [⟨901, 900, "MUG", "Mug", "Blue", 2, 10, "USD", 1, by decide, by decide⟩]⟩
      readyStatus := 200
      ready := true
      priceChanged := false }
  owner := fun _ => some 700

def checkoutCall : DateTime × Request :=
  (0, .checkout ⟨40, 1, sampleAddress, none, by decide⟩ Inventory.sampleBuyer
    ⟨"checkout-1", by decide, by decide⟩ sampleReplies)

def samplePayment : PaymentAuthorized := ⟨"pi_1", 20, "USD", by decide, by decide, by decide⟩

def sampleCancel : CancelOrder := ⟨"changed my mind", by decide⟩

/-- The stock and one order, whose identifier is 0. -/
def orderCalls : List ShopCall :=
  (Inventory.stockRequests.map fun request => ⟨(0, .inventory request.val), request.property⟩) ++
    [⟨checkoutCall, trivial⟩]

/-- The order is paid for, and then its customer cancels it: the order is
cancelled and its two mugs stay sold. -/
theorem stock_lost :
    ¬StockReturned (run (shopStep sampleShopEnv) Shop.empty (orderCalls ++
      [⟨(1, .paymentAuthorized 0 samplePayment paymentService), trivial⟩,
       ⟨(2, .cancel 0 sampleCancel Inventory.sampleBuyer 2), trivial⟩])) := by
  decide +kernel

/-- A run of the two services keeps the stock of every cancelled order returned
if and only if it cancels no confirmed order. -/
theorem stock_returned (env : ShopEnv) (calls : List ShopCall) :
    Along (shopStep env) StockReturned Shop.empty calls ↔
      Admitted (shopStep env) NoConfirmedCancel Shop.empty calls := by
  have hkeep : ∀ shop call, Joint env shop → Joint env (shopStep env shop call) :=
    fun _ call h => h.step call
  have hstep : ∀ shop call, Joint env shop → StockReturned shop →
      (StockReturned (shopStep env shop call) ↔ NoConfirmedCancel shop call) :=
    fun _ call h hr => stockReturned_step_iff h hr call
  exact along_iff_admitted hkeep hstep (Joint.empty env) fun _ ho =>
    absurd ho (Table.not_mem_empty _)

end Orders
end Marketplace
