import Marketplace.Orders.Sketch

/-!
# Orders: cancellation versus payment

The outline simulates the race: every interleaving of the two requests is one of
its traces, with the order and its group where the outline says they are.  So
the verdict on the outline is the verdict on the race.
-/

namespace Marketplace
namespace Orders

open Base
open Inventory (Inv GroupIs GroupExpired MayResolveGroup ClosedAll closeAs ReservationStatus)

/-- The two requests, about an order that awaits its payment in a shop that some
run has led to. -/
structure Contest (env : ShopEnv) where
  calls : List (DateTime × Request)
  order : Order
  stored : order ∈ (run (step env) Shop.empty calls).orders.orders
  pending : order.status = .pendingPayment
  cancel : CancelOrder
  buyer : Principal
  version : Nat
  payment : PaymentAuthorized
  caller : Principal
  now : DateTime

namespace Contest

variable {env : ShopEnv}

def shop (c : Contest env) : Shop := run (step env) Shop.empty c.calls

def group (c : Contest env) : UUID := c.order.reservationGroupId.getD 0

def rivals (c : Contest env) : Rivals :=
  ⟨c.order.id, c.cancel, c.buyer, c.version, c.payment, c.caller, c.now⟩

theorem sane (c : Contest env) : Sane env c.shop := run_sane env c.calls

theorem reservationGroupId (c : Contest env) : c.order.reservationGroupId = some c.group := by
  obtain ⟨g, key, hg, -⟩ := c.sane.placed c.order c.stored
  rw [group, hg]
  rfl

/-- What decides the steps of the outline. -/
def terms (c : Contest env) : Terms where
  current := decide (c.order.VisibleTo c.buyer ∧ c.order.version = c.version)
  next := decide (c.order.VisibleTo c.buyer ∧ c.order.version + 1 = c.version)
  pays := decide (c.payment.Pays c.order)
  late := decide (GroupExpired c.shop.inventory c.group c.now)

end Contest

/-- One interleaving of the two requests, up to the end of both. -/
structure Interleaving {env : ShopEnv} (c : Contest env) where
  trace : List Event
  final : Race
  runs : perform c.rivals.step (.start c.shop) trace = some final
  complete : final.cancel = .finished ∧ final.pay = .finished

/-! ## The fate of a group -/

def Fate.ofStatus : ReservationStatus → Fate
  | .active => .active
  | .committed => .committed
  | .released => .released
  | .expired => .expired

def fateOf (s : Inventory.Store) (g : UUID) : Fate :=
  if GroupIs s g .active then .active
  else if GroupIs s g .committed then .committed
  else if GroupIs s g .released then .released
  else if GroupIs s g .expired then .expired
  else if ∃ r ∈ s.reservations.rows, r.reservationGroupId = some g then .mixed
  else .missing

section Fate

variable {s : Inventory.Store} {g : UUID} {status : ReservationStatus}

theorem fateOf_eq_ofStatus : fateOf s g = .ofStatus status ↔ GroupIs s g status := by
  constructor
  · intro h
    unfold fateOf at h
    split at h
    · cases status <;> first | assumption | cases h
    split at h
    · cases status <;> first | assumption | cases h
    split at h
    · cases status <;> first | assumption | cases h
    split at h
    · cases status <;> first | assumption | cases h
    split at h <;> cases status <;> cases h
  · intro h
    have hne : ∀ other, other ≠ status → ¬GroupIs s g other := fun other hne h' =>
      hne (h'.unique h)
    cases status <;> simp [fateOf, h, hne, Fate.ofStatus]

theorem fateOf_eq_missing :
    fateOf s g = .missing ↔ ¬∃ r ∈ s.reservations, r.reservationGroupId = some g := by
  constructor
  · rintro h ⟨r, hr, hg⟩
    unfold fateOf at h
    split at h
    · cases h
    split at h
    · cases h
    split at h
    · cases h
    split at h
    · cases h
    rw [if_pos ⟨r, hr, hg⟩] at h
    cases h
  · intro h
    have hne : ∀ other, ¬GroupIs s g other := fun other h' => h h'.1
    simp only [fateOf, hne, if_false]
    exact if_neg h

theorem fateOf_eq_active : fateOf s g = .active ↔ GroupIs s g .active :=
  @fateOf_eq_ofStatus s g .active

theorem fateOf_eq_committed : fateOf s g = .committed ↔ GroupIs s g .committed :=
  @fateOf_eq_ofStatus s g .committed

theorem fateOf_eq_released : fateOf s g = .released ↔ GroupIs s g .released :=
  @fateOf_eq_ofStatus s g .released

end Fate

/-! ## What the outline says of the race -/

def Mark.status : Mark → OrderStatus
  | .pending => .pendingPayment
  | .confirmed => .confirmed
  | .cancelled => .cancelled

/-- The request is at the stage, with an order of which `P` holds. -/
def Progress.At (P : Order → Prop) : Progress → Stage → Prop
  | .waiting, .waiting => True
  | .read order, .read => P order
  | .called order, .called => P order
  | .finished, .finished => True
  | _, _ => False

section At

variable {P : Order → Prop} {stage : Stage} {order : Order} {progress : Progress}

theorem Progress.At.of_waiting (h : Progress.At P .waiting stage) : stage = .waiting := by
  cases stage <;> first | rfl | exact h.elim

theorem Progress.At.of_read (h : Progress.At P (.read order) stage) : stage = .read ∧ P order := by
  cases stage <;> first | exact ⟨rfl, h⟩ | exact h.elim

theorem Progress.At.of_called (h : Progress.At P (.called order) stage) :
    stage = .called ∧ P order := by
  cases stage <;> first | exact ⟨rfl, h⟩ | exact h.elim

theorem Progress.At.of_finished (h : Progress.At P .finished stage) : stage = .finished := by
  cases stage <;> first | rfl | exact h.elim

theorem Progress.At.locks_iff (h : progress.At P stage) :
    progress.Locks ↔ stage = .read ∨ stage = .called := by
  cases progress with
  | waiting => rw [h.of_waiting]; exact ⟨False.elim, by rintro (h | h) <;> cases h⟩
  | read order => rw [h.of_read.1]; exact ⟨fun _ => Or.inl rfl, fun _ => trivial⟩
  | called order => rw [h.of_called.1]; exact ⟨fun _ => Or.inr rfl, fun _ => trivial⟩
  | finished => rw [h.of_finished]; exact ⟨False.elim, by rintro (h | h) <;> cases h⟩

end At

section Matches

variable {env : ShopEnv}

/-- The row of the order, as the outline has it. -/
structure RowMatches (c : Contest env) (orders : Store) (mark : Mark) (paid : Bool) (row : Order) :
    Prop where
  stored : orders.orders.get? c.order.id = some row
  same : c.order.Same row
  status : row.status = mark.status
  payment : row.paymentStatus = if paid then .authorized else .pending
  unpaid : mark = .pending → row.version = c.order.version
  confirmed : mark = .confirmed → row.version = c.order.version + 1

/-- The group of the order, as the outline has it. -/
structure GroupMatches (c : Contest env) (inventory : Inventory.Store) (group : Fate) : Prop where
  inv : Inv inventory
  fate : fateOf inventory c.group = group
  may : c.order.VisibleTo c.buyer → MayResolveGroup inventory c.group c.buyer
  late : group = .active → (GroupExpired inventory c.group c.now ↔ c.terms.late = true)

structure Matches (c : Contest env) (race : Race) (s : Sketch) : Prop where
  row : ∃ row, RowMatches c race.shop.orders s.mark s.paid row
  group : GroupMatches c race.shop.inventory s.group
  cancel : race.cancel.At (fun o => o.id = c.order.id ∧ o.reservationGroupId = some c.group ∧
    c.order.VisibleTo c.buyer) s.cancel
  pay : race.pay.At (fun o => o.id = c.order.id ∧ o.reservationGroupId = some c.group ∧
    o.version = c.order.version) s.pay

theorem matches_start (c : Contest env) :
    Matches c (.start c.shop) (.start (fateOf c.shop.inventory c.group)) where
  row := ⟨c.order, Table.get?_key c.stored, .refl c.order, c.pending,
    c.sane.unpaid c.order c.stored c.pending, fun _ => rfl, nofun⟩
  group :=
    { inv := c.sane.inventory.inv
      fate := rfl
      may := fun hv => c.sane.mayResolve c.stored c.reservationGroupId hv
      late := fun _ => decide_eq_true_iff.symm }
  cancel := trivial
  pay := trivial

/-- Closing the members of the group gives it the status they are closed with. -/
theorem GroupMatches.closed {c : Contest env} {inventory inventory' : Inventory.Store}
    {group : Fate} (h : GroupMatches c inventory group) {target : ReservationStatus}
    (ha : GroupIs inventory c.group .active)
    (hc : ClosedAll (closeAs target) (inventory.listReservationsByGroup c.group) inventory
      inventory') (ht : target ≠ .active) : GroupMatches c inventory' (.ofStatus target) where
  inv := hc.refines.2
  fate := fateOf_eq_ofStatus.mpr (hc.groupIs ha.1 fun _ => rfl)
  may hv r' hr' hg := by
    rcases hc.mem hr' with ⟨r, hr, rfl⟩ | ⟨hr, -⟩
    · obtain ⟨hr, hrg⟩ := Inventory.Store.mem_listReservationsByGroup.mp hr
      exact h.may hv r hr hrg
    · exact h.may hv r' hr hg
  late hactive := by
    cases target <;> first | exact absurd rfl ht | cases hactive

/-! ### One event -/

variable {c : Contest env} {race race' : Race} {s : Sketch}

theorem passes_iff {orders : Store} {mark : Mark} {paid : Bool} {row : Order}
    (h : RowMatches c orders mark paid row) :
    Sketch.passes c.terms mark = true ↔ row.VisibleTo c.buyer ∧ row.version = c.version ∧
      row.status.Cancellable := by
  have hv : row.VisibleTo c.buyer ↔ c.order.VisibleTo c.buyer := by
    rw [Order.VisibleTo, Order.VisibleTo, h.same.customer]
  rw [hv, h.status]
  cases mark with
  | pending =>
    rw [h.unpaid rfl]
    simp [Sketch.passes, Contest.terms, Mark.status, OrderStatus.Cancellable]
  | confirmed =>
    rw [h.confirmed rfl]
    simp [Sketch.passes, Contest.terms, Mark.status, OrderStatus.Cancellable]
  | cancelled => simp [Sketch.passes, Mark.status, OrderStatus.Cancellable]

theorem sim_cancelRead (h : Matches c race s) (hrun : c.rivals.cancelRead race = some race') :
    ∃ s', s.step c.terms .cancelRead = some s' ∧ Matches c race' s' := by
  unfold Rivals.cancelRead at hrun
  split at hrun
  swap
  · cases hrun
  next hwait =>
  obtain ⟨row, hrow⟩ := h.row
  refine ⟨_, if_pos (hwait ▸ h.cancel).of_waiting, ?_⟩
  split at hrun
  next order hread =>
    cases hrun
    obtain ⟨hget, hv, hversion, hc⟩ := cancelRead_eq_ok.mp hread
    cases hrow.stored.symm.trans hget
    have hpass := (passes_iff hrow).mpr ⟨hv, hversion, hc⟩
    refine { h with row := ⟨row, hrow⟩, cancel := ?_ }
    simp only [hpass, if_true]
    refine ⟨hrow.same.id, hrow.same.group.trans c.reservationGroupId, ?_⟩
    rw [Order.VisibleTo, ← hrow.same.customer]
    exact hv
  next e hread =>
    cases hrun
    have hpass : ¬Sketch.passes c.terms s.mark = true := by
      intro hpass
      obtain ⟨hv, hversion, hc⟩ := (passes_iff hrow).mp hpass
      have hok := cancelRead_eq_ok.mpr ⟨hrow.stored, hv, hversion, hc⟩
      cases hread.symm.trans hok
    refine { h with row := ⟨row, hrow⟩, cancel := ?_ }
    simp only [hpass]
    trivial

theorem sim_releaseCall (h : Matches c race s) (hrun : c.rivals.releaseCall race = some race') :
    ∃ s', s.step c.terms .releaseCall = some s' ∧ Matches c race' s' := by
  unfold Rivals.releaseCall at hrun
  split at hrun
  swap
  · cases hrun
  next order hread =>
  obtain ⟨hstage, hid, hg, hv⟩ := (hread ▸ h.cancel).of_read
  refine ⟨_, if_pos hstage, ?_⟩
  have hgroup := h.group
  simp only [releaseOrder, hg] at hrun
  by_cases hmem : ∃ r ∈ race.shop.inventory.reservations, r.reservationGroupId = some c.group
  · have hreason : c.rivals.cancel.reason.length ≤ 2000 := c.cancel.reason_valid.2.trans (by omega)
    obtain ⟨inventory, hcall, ⟨ha, hc⟩ | ⟨hna, rfl⟩⟩ :=
      releaseGroup_answered hgroup.inv hreason hmem (hgroup.may hv)
    · have hactive : s.group = .active := hgroup.fate.symm.trans (fateOf_eq_active.mpr ha)
      rw [show releaseGroup _ _ _ c.rivals.buyer = _ from hcall] at hrun
      cases hrun
      simp only [Sketch.release, hactive]
      exact ⟨h.row, hgroup.closed ha hc (by decide), ⟨hid, hg, hv⟩, h.pay⟩
    · rw [show releaseGroup _ _ _ c.rivals.buyer = _ from hcall] at hrun
      cases hrun
      have hother : s.release = { s with cancel := .called } := by
        unfold Sketch.release
        split
        next hs => exact absurd (fateOf_eq_active.mp (hgroup.fate.trans hs)) hna
        next hs => exact absurd hmem (fateOf_eq_missing.mp (hgroup.fate.trans hs))
        next => rfl
      rw [hother]
      exact ⟨h.row, hgroup, ⟨hid, hg, hv⟩, h.pay⟩
  · obtain ⟨e, hcall⟩ := @releaseGroup_missing _ _ c.rivals.cancel.reason c.rivals.buyer hmem
    rw [hcall] at hrun
    cases hrun
    have hmissing : s.group = .missing := hgroup.fate.symm.trans (fateOf_eq_missing.mpr hmem)
    simp only [Sketch.release, hmissing]
    exact ⟨h.row, hmissing ▸ hgroup, trivial, h.pay⟩

theorem sim_cancelWrite (h : Matches c race s) (hrun : c.rivals.cancelWrite race = some race') :
    ∃ s', s.step c.terms .cancelWrite = some s' ∧ Matches c race' s' := by
  unfold Rivals.cancelWrite at hrun
  split at hrun
  swap
  · cases hrun
  next order hcalled =>
  obtain ⟨hstage, hid, -⟩ := (hcalled ▸ h.cancel).of_called
  split at hrun
  · cases hrun
  next hlock =>
  rw [h.pay.locks_iff, not_or] at hlock
  refine ⟨_, if_pos ⟨hstage, hlock.1, hlock.2⟩, ?_⟩
  cases hrun
  obtain ⟨row, hrow⟩ := h.row
  have hput := cancelWrite_puts (hid ▸ hrow.stored) c.rivals.cancel c.rivals.buyer
  have hsame := hrow.same
  exact ⟨⟨_, hput.get? hrow.stored hsame.id,
    ⟨hsame.id, hsame.customer, hsame.currency, hsame.total, hsame.group⟩, rfl, hrow.payment,
    fun h => (by cases h), fun h => (by cases h)⟩, h.group, trivial, h.pay⟩

theorem sim_payRead (h : Matches c race s) (hrun : c.rivals.payRead race = some race') :
    ∃ s', s.step c.terms .payRead = some s' ∧ Matches c race' s' := by
  unfold Rivals.payRead at hrun
  split at hrun
  swap
  · cases hrun
  next hwait =>
  obtain ⟨row, hrow⟩ := h.row
  refine ⟨_, if_pos (hwait ▸ h.pay).of_waiting, ?_⟩
  have hpays : c.payment.Pays row ↔ c.terms.pays = true := by
    rw [PaymentAuthorized.Pays, hrow.same.currency, hrow.same.total]
    exact decide_eq_true_iff.symm
  have hpending : row.status = .pendingPayment ↔ s.mark = .pending := by
    rw [hrow.status]
    cases s.mark <;> simp [Mark.status]
  have hact : (∃ order, authorizeRead race.shop.orders c.rivals.orderId c.rivals.payment =
      .ok (.act order)) ↔ s.mark = .pending ∧ c.terms.pays = true := by
    rw [← hpending, ← hpays]
    constructor
    · rintro ⟨order, hread⟩
      obtain ⟨hget, hp, hpays'⟩ := authorizeRead_act.mp hread
      cases hrow.stored.symm.trans hget
      exact ⟨hp, hpays'⟩
    · rintro ⟨hp, hpays'⟩
      exact ⟨row, authorizeRead_act.mpr ⟨hrow.stored, hp, hpays'⟩⟩
  have hidle : (¬∃ order, authorizeRead race.shop.orders c.rivals.orderId c.rivals.payment =
      .ok (.act order)) → Matches c { race with pay := .finished }
        { s with pay := if s.mark = .pending ∧ c.terms.pays = true then .read else .finished } := by
    intro hnone
    refine { h with row := ⟨row, hrow⟩, pay := ?_ }
    simp only [if_neg (mt hact.mpr hnone)]
    trivial
  split at hrun
  next order hread =>
    cases hrun
    obtain ⟨hget, hp, -⟩ := authorizeRead_act.mp hread
    cases hrow.stored.symm.trans hget
    refine { h with row := ⟨row, hrow⟩, pay := ?_ }
    simp only [if_pos (hact.mp ⟨row, hread⟩)]
    exact ⟨hrow.same.id, hrow.same.group.trans c.reservationGroupId, hrow.unpaid (hpending.mp hp)⟩
  next order hread =>
    cases hrun
    refine hidle ?_
    rintro ⟨_, hread'⟩
    cases hread.symm.trans hread'
  next e hread =>
    cases hrun
    refine hidle ?_
    rintro ⟨_, hread'⟩
    cases hread.symm.trans hread'

theorem sim_commitCall (h : Matches c race s) (hrun : c.rivals.commitCall race = some race') :
    ∃ s', s.step c.terms .commitCall = some s' ∧ Matches c race' s' := by
  unfold Rivals.commitCall at hrun
  split at hrun
  swap
  · cases hrun
  next order hread =>
  obtain ⟨hstage, hid, hg, hversion⟩ := (hread ▸ h.pay).of_read
  refine ⟨_, if_pos hstage, ?_⟩
  have hgroup := h.group
  simp only [commitOrder, hg] at hrun
  by_cases hc : GroupIs race.shop.inventory c.group .committed
  · have hcommitted : s.group = .committed := hgroup.fate.symm.trans (fateOf_eq_committed.mpr hc)
    rw [commitGroup_committed hc] at hrun
    cases hrun
    simp only [Sketch.commit, hcommitted]
    exact ⟨h.row, hcommitted ▸ hgroup, h.cancel, hid, hg, hversion⟩
  by_cases ha : GroupIs race.shop.inventory c.group .active
  · have hactive : s.group = .active := hgroup.fate.symm.trans (fateOf_eq_active.mpr ha)
    simp only [Sketch.commit, hactive]
    by_cases hlate : GroupExpired race.shop.inventory c.group c.now
    · obtain ⟨inventory, e, hcall, hclosed⟩ := commitGroup_expired hgroup.inv ha hlate
      rw [show commitGroup c.rivals.now _ _ _ = _ from hcall] at hrun
      cases hrun
      rw [if_pos ((hgroup.late hactive).mp hlate)]
      exact ⟨h.row, hgroup.closed ha hclosed (by decide), h.cancel, trivial⟩
    · obtain ⟨inventory, hcall, hclosed⟩ := commitGroup_active hgroup.inv ha hlate
      rw [show commitGroup c.rivals.now _ _ _ = _ from hcall] at hrun
      cases hrun
      rw [if_neg fun hl => hlate ((hgroup.late hactive).mpr hl)]
      exact ⟨h.row, hgroup.closed ha hclosed (by decide), h.cancel, hid, hg, hversion⟩
  · obtain ⟨e, hcall⟩ := @commitGroup_fails c.rivals.now _ _ hc ha
    rw [hcall] at hrun
    cases hrun
    have hother : s.commit c.terms = { s with pay := .finished } := by
      unfold Sketch.commit
      split
      next hs => exact absurd (fateOf_eq_committed.mp (hgroup.fate.trans hs)) hc
      next hs => exact absurd (fateOf_eq_active.mp (hgroup.fate.trans hs)) ha
      next => rfl
    rw [hother]
    exact ⟨h.row, hgroup, h.cancel, trivial⟩

theorem sim_payWrite (h : Matches c race s) (hrun : c.rivals.payWrite race = some race') :
    ∃ s', s.step c.terms .payWrite = some s' ∧ Matches c race' s' := by
  unfold Rivals.payWrite at hrun
  split at hrun
  swap
  · cases hrun
  next order hcalled =>
  obtain ⟨hstage, hid, -, hversion⟩ := (hcalled ▸ h.pay).of_called
  refine ⟨_, if_pos hstage, ?_⟩
  cases hrun
  obtain ⟨row, hrow⟩ := h.row
  have hput := authorizeWrite_puts (hid ▸ hrow.stored) c.rivals.payment c.rivals.caller
  have hsame := hrow.same
  exact ⟨⟨_, hput.get? hrow.stored hsame.id,
    ⟨hsame.id, hsame.customer, hsame.currency, hsame.total, hsame.group⟩, rfl, rfl,
    fun h => (by cases h), fun _ => congrArg (· + 1) hversion⟩, h.group, h.cancel, trivial⟩

/-- The outline can do whatever the race can. -/
theorem simulates (c : Contest env) :
    Simulates c.rivals.step (Sketch.step c.terms) (Matches c) := by
  intro race s e race' h hrun
  cases e with
  | cancelRead => exact sim_cancelRead h hrun
  | releaseCall => exact sim_releaseCall h hrun
  | cancelWrite => exact sim_cancelWrite h hrun
  | payRead => exact sim_payRead h hrun
  | commitCall => exact sim_commitCall h hrun
  | payWrite => exact sim_payWrite h hrun

end Matches

/-! ## The verdict -/

section Verdict

variable {env : ShopEnv} {c : Contest env}

/-- One of the two requests took effect and the other did not: the order is
confirmed and its group committed, or it is cancelled, its group released and
its payment still pending. -/
def OneTakesEffect (c : Contest env) (race : Race) : Prop :=
  ∃ row, race.shop.orders.orders.get? c.order.id = some row ∧
    ((row.status = .confirmed ∧ GroupIs race.shop.inventory c.group .committed) ∨
      (row.status = .cancelled ∧ GroupIs race.shop.inventory c.group .released ∧
        row.paymentStatus = .pending))

theorem oneTakesEffect_iff {race : Race} {s : Sketch} (h : Matches c race s) :
    OneTakesEffect c race ↔ s.Settled := by
  obtain ⟨row, hrow⟩ := h.row
  have hcommitted : GroupIs race.shop.inventory c.group .committed ↔ s.group = .committed := by
    rw [← fateOf_eq_committed, h.group.fate]
  have hreleased : GroupIs race.shop.inventory c.group .released ↔ s.group = .released := by
    rw [← fateOf_eq_released, h.group.fate]
  have hconfirmed : row.status = .confirmed ↔ s.mark = .confirmed := by
    rw [hrow.status]
    cases s.mark <;> simp [Mark.status]
  have hcancelled : row.status = .cancelled ↔ s.mark = .cancelled := by
    rw [hrow.status]
    cases s.mark <;> simp [Mark.status]
  have hunpaid : row.paymentStatus = .pending ↔ s.paid = false := by
    rw [hrow.payment]
    cases s.paid <;> simp
  rw [Sketch.Settled, ← hcommitted, ← hreleased, ← hconfirmed, ← hcancelled, ← hunpaid]
  constructor
  · rintro ⟨row', hget, heffect⟩
    cases hrow.stored.symm.trans hget
    exact heffect
  · exact fun heffect => ⟨row, hrow.stored, heffect⟩

/-- The cancellation may see the order and names the version it finds, which is
one higher when the payment has committed before it reads. -/
def CancelPasses (c : Contest env) (trace : List Event) : Prop :=
  c.order.VisibleTo c.buyer ∧
    if Precedes .payWrite .cancelRead trace then c.order.version + 1 = c.version
    else c.order.version = c.version

/-- The group is active when the release arrives, or released already. -/
def ReleaseLands (c : Contest env) (trace : List Event) : Prop :=
  GroupIs c.shop.inventory c.group .released ∨
    (GroupIs c.shop.inventory c.group .active ∧ ¬Precedes .commitCall .releaseCall trace)

/-- The payment is for what the order costs, and its group can be committed. -/
def PayLands (c : Contest env) : Prop :=
  c.payment.Pays c.order ∧ (GroupIs c.shop.inventory c.group .committed ∨
    (GroupIs c.shop.inventory c.group .active ∧
      ¬GroupExpired c.shop.inventory c.group c.now))

/-! ### An interleaving in which both take effect -/

def sampleCalls : List (DateTime × Request) := orderCalls.map Subtype.val

def sampleOrder : Order :=
  (run (step sampleShopEnv) Shop.empty sampleCalls).orders.orders.rows.head (by decide +kernel)

def sampleContest : Contest sampleShopEnv where
  calls := sampleCalls
  order := sampleOrder
  stored := List.head_mem _
  pending := by decide +kernel
  cancel := sampleCancel
  buyer := Inventory.sampleBuyer
  version := 1
  payment := samplePayment
  caller := paymentService
  now := 1

/-- `cancel` reads first, then the payment goes through, and then `cancel` goes on
with what it read. -/
def sampleTrace : List Event :=
  [.cancelRead, .payRead, .commitCall, .payWrite, .releaseCall, .cancelWrite]

def sampleInterleaving : Interleaving sampleContest where
  trace := sampleTrace
  final := (perform sampleContest.rivals.step (.start sampleContest.shop) sampleTrace).get
    (by decide +kernel)
  runs := (Option.some_get _).symm
  complete := by decide +kernel

/-- The order ends up cancelled and paid for. -/
theorem both_take_effect : ¬OneTakesEffect sampleContest sampleInterleaving.final := by
  have hend : ∀ row ∈ sampleInterleaving.final.shop.orders.orders.rows,
      row.status = .cancelled ∧ row.paymentStatus = .authorized := by decide +kernel
  rintro ⟨row, hget, heffect⟩
  obtain ⟨hst, hpay⟩ := hend row (Table.mem_of_get? hget)
  rcases heffect with ⟨hconfirmed, -⟩ | ⟨-, -, hpending⟩
  · cases hst.symm.trans hconfirmed
  · cases hpay.symm.trans hpending

/-- Exactly one of the two requests takes effect if and only if a cancellation
that passes its check reaches Inventory first, or, where it does not pass, the
payment goes through. -/
theorem cancel_versus_payment (c : Contest env) (i : Interleaving c) :
    OneTakesEffect c i.final ↔
      (CancelPasses c i.trace → ReleaseLands c i.trace) ∧
        (¬CancelPasses c i.trace → PayLands c) := by
  obtain ⟨s, hrun, h⟩ := (simulates c).perform (matches_start c) i.runs
  have hdone : s.Complete := by
    constructor
    · exact (i.complete.1 ▸ h.cancel).of_finished
    · exact (i.complete.2 ▸ h.pay).of_finished
  have hpasses : c.terms.CancelPasses i.trace ↔ CancelPasses c i.trace := by
    simp only [Terms.CancelPasses, CancelPasses, Contest.terms, decide_eq_true_eq]
    split <;> rfl
  have hreleases : (fateOf c.shop.inventory c.group).ReleaseLands i.trace ↔
      ReleaseLands c i.trace := by
    rw [Fate.ReleaseLands, ReleaseLands, fateOf_eq_released, fateOf_eq_active]
  have hlands : c.terms.PayLands (fateOf c.shop.inventory c.group) ↔ PayLands c := by
    rw [Terms.PayLands, PayLands, fateOf_eq_committed, fateOf_eq_active]
    simp only [Contest.terms, decide_eq_true_eq, decide_eq_false_iff_not]
  rw [oneTakesEffect_iff h, sketch_settles c.terms _ hrun hdone, Terms.Condition, hpasses,
    hreleases, hlands]

end Verdict

end Orders
end Marketplace
