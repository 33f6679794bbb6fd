import Marketplace.Orders.Audit
import Marketplace.Orders.Coverage
import Marketplace.Orders.Spares
import Marketplace.Shipping.Tracking

/-!
# Shipping: shipments and orders in step

An order moves on when its shipment does: the Order Service is asked first, and
the shipment is written when it has agreed.  As long as every move is answered and
then written the two never come apart.  A single answer that is lost, or a single
row that is refused after the order has moved, is enough, though: then the order is
ahead of its shipment, every later attempt asks for a move the order has behind it
and is refused, and nothing brings the two together again.
-/

namespace Marketplace
namespace Shipping

open Base
open Orders (Shop OrderStatus FulfillmentUpdate Dispatched statusOf Before next_dispatched
  moves_dispatched)

/-! ## Orders on their way -/

/-- The stage of the order that a shipment has recorded. -/
def Shipment.stage (x : Shipment) : OrderStatus :=
  if x.deliveredAt.isSome then .delivered else if x.shippedAt.isSome then .shipped else .processing

/-- The order could move to the status. -/
def Advances (orders : Orders.Store) (orderId : UUID) (status : OrderStatus) : Prop :=
  ∃ current, statusOf orders orderId = some current ∧ current.next = some status

/-- The Order Service agrees to the move: the order is due for it, and the reference
can be stored in its history. -/
def Agrees (orders : Orders.Store) (orderId : UUID) (data : FulfillmentUpdate) : Prop :=
  Advances orders orderId data.status ∧ ∀ r ∈ data.shipmentReference, NulFree r

/-- One order has moved to the status. -/
structure Moved (orders orders' : Orders.Store) (orderId : UUID) (status : OrderStatus) :
    Prop where
  advances : Advances orders orderId status
  moved : statusOf orders' orderId = some status
  other : ∀ k, k ≠ orderId → statusOf orders' k = statusOf orders k

section Orders

variable {env : Orders.ShopEnv} {shop : Shop} {P : OrderStatus → Prop}

theorem statusOf_eq_some {orders : Orders.Store} {k : UUID} {status : OrderStatus} :
    statusOf orders k = some status ↔ ∃ o ∈ orders.orders, o.id = k ∧ o.status = status := by
  rw [statusOf, Option.map_eq_some_iff]
  constructor
  · rintro ⟨o, hget, hst⟩
    exact ⟨o, Table.mem_of_get? hget, Table.key_of_get? hget, hst⟩
  · rintro ⟨o, ho, rfl, hst⟩
    exact ⟨o, Table.get?_key ho, hst⟩

/-- Without the fulfillment endpoint no order comes to be dispatched. -/
theorem routed_before (h : Inventory.Inv shop.inventory) (now : DateTime) {req : Orders.Request}
    (hrouted : Routed req) (hP : ∀ status, P status → Dispatched status) :
    Before P shop.orders (Orders.step env shop (now, req)).orders := by
  have hnot : ∀ status, ¬Dispatched status → ¬P status := fun status hd hp => hd (hP status hp)
  cases req with
  | inventory request => exact .of_same rfl
  | checkout data principal key replies =>
    exact Orders.create_before (hnot _ (by rintro (h | h | h) <;> cases h)) h now data principal key
      replies
  | cancel orderId data principal version =>
    exact Orders.cancel_before (hnot _ (by rintro (h | h | h) <;> cases h)) orderId data principal
      version
  | paymentAuthorized orderId data principal =>
    exact Orders.paymentAuthorized_before (hnot _ (by rintro (h | h | h) <;> cases h)) now orderId
      data principal
  | paymentFailed orderId data principal =>
    exact Orders.paymentFailed_before (hnot _ (by rintro (h | h | h) <;> cases h)) orderId data
      principal
  | paymentRefunded orderId data principal => exact Orders.paymentRefunded_before orderId data
  | fulfillment orderId data principal => exact hrouted.elim

/-- Nor does a dispatched order move. -/
theorem routed_status (h : Inventory.Inv shop.inventory) (now : DateTime) {req : Orders.Request}
    (hrouted : Routed req) {status : OrderStatus} (hd : Dispatched status) (k : UUID) :
    statusOf (Orders.step env shop (now, req)).orders k = some status ↔
      statusOf shop.orders k = some status := by
  have hback : ∀ st, Dispatched st →
      Before (· = st) shop.orders (Orders.step env shop (now, req)).orders :=
    fun st hst => routed_before h now hrouted fun _ e => e ▸ hst
  rw [statusOf_eq_some, statusOf_eq_some]
  constructor
  · rintro ⟨o', ho', rfl, hst⟩
    obtain ⟨o, ho, hsame, hold⟩ := hback status hd o' ho' hst
    exact ⟨o, ho, hsame.id.symm, hold⟩
  · rintro ⟨o, ho, rfl, hst⟩
    obtain ⟨o', ho', rfl | hnext⟩ := (Orders.step_effect h (now, req)).kept o ho
    · exact ⟨o', ho', rfl, hst⟩
    refine ⟨o', ho', hnext.same.id, ?_⟩
    rcases hnext.status with ⟨hsame, -⟩ | hmoves
    · exact hsame.trans hst
    · -- The order would have been at the next stage before.
      have hfulfill : o.status.next = some o'.status := moves_dispatched (hst ▸ hd) hmoves
      obtain ⟨x, hx, hsame, hold⟩ := hback o'.status (next_dispatched hfulfill).1 o' ho' rfl
      have hxo : x = o := Table.eq_of_key_eq hx ho (hsame.id.symm.trans hnext.same.id)
      exact absurd (hxo ▸ hold).symm (next_dispatched hfulfill).2

end Orders

/-! ## What becomes of a call -/

/-- The call takes effect, and what follows from it is not recorded: its answer does
not come back, or it does and the rows are refused then. -/
def Connection.Drops (connection : Connection) (written : Prop) : Prop :=
  connection.auth.toBool = true ∧
    (connection.link = .lost ∨ (connection.link = .up ∧ ¬written))

section Call

variable {env : Orders.ShopEnv} {shop : Shop} {orderId : UUID} {data : FulfillmentUpdate}

theorem fulfillment_agreed (h : Agrees shop.orders orderId data) :
    ∃ p, Orders.fulfillment shop.orders orderId data shippingService = .ok p := by
  obtain ⟨⟨current, hcurrent, hnext⟩, hfree⟩ := h
  obtain ⟨o, hget, rfl⟩ := Option.map_eq_some_iff.mp hcurrent
  simp only [Orders.fulfillment, bind_eq_ok, Orders.locked_eq_ok, require_eq_ok,
    Orders.reference_eq_ok, pure_eq_ok]
  exact ⟨_, o, hget, (), hnext, _, ⟨rfl, hfree⟩, rfl⟩

theorem postFulfillment_cases (h : Orders.Sane env shop) (orderId : UUID)
    (data : FulfillmentUpdate) :
    (¬Agrees shop.orders orderId data ∧
      ∃ code, Orders.postFulfillment shop orderId data shippingService = (shop, .refused code)) ∨
    (Agrees shop.orders orderId data ∧
      ∃ shop' order, Orders.postFulfillment shop orderId data shippingService = (shop', .ok order) ∧
        Moved shop.orders shop'.orders orderId data.status ∧ Orders.Sane env shop') := by
  have hstep := h.step (0, .fulfillment orderId data shippingService)
  have hscope : shippingService.hasScope .ordersFulfillment = true := rfl
  unfold Orders.postFulfillment
  rw [if_pos hscope]
  cases hrun : Orders.fulfillment shop.orders orderId data shippingService with
  | error e =>
    refine Or.inl ⟨fun hagrees => ?_, e.statusCode, rfl⟩
    obtain ⟨p, hp⟩ := fulfillment_agreed hagrees
    cases hrun.symm.trans hp
  | ok p =>
    obtain ⟨orders, order⟩ := p
    obtain ⟨o, hget, hnext, hfree, hput⟩ := Orders.fulfillment_ok hrun
    obtain rfl : o.id = orderId := Table.key_of_get? hget
    have hadvances : Advances shop.orders o.id data.status :=
      ⟨o.status, by rw [statusOf, hget, Option.map_some], hnext⟩
    refine Or.inr ⟨⟨hadvances, hfree⟩, _, order, rfl, ⟨hadvances, ?_, fun k hk => ?_⟩, ?_⟩
    · rw [statusOf, hput.get? hget rfl, Option.map_some]
    · rw [statusOf, hput.orders]
      exact congrArg (Option.map Orders.Order.status) (Table.get?_put_ne hk)
    · simpa only [Orders.step, Orders.Shop.commit, hrun] using hstep

/-- A call leaves everything as it was, or the order has moved and the caller learns
of it or does not. -/
theorem callOrder_cases (h : Orders.Sane env shop) (connection : Connection) (orderId : UUID)
    (data : FulfillmentUpdate) :
    ((connection.auth.toBool = false ∨ connection.link = .down ∨
        ¬Agrees shop.orders orderId data) ∧
      ∃ e, connection.callOrder shop orderId data = (shop, .error e)) ∨
    (connection.auth.toBool = true ∧ Agrees shop.orders orderId data ∧
      ∃ shop', Moved shop.orders shop'.orders orderId data.status ∧ Orders.Sane env shop' ∧
        ((connection.link = .up ∧ connection.callOrder shop orderId data = (shop', .ok ())) ∨
          (connection.link = .lost ∧
            ∃ e, connection.callOrder shop orderId data = (shop', .error e)))) := by
  obtain ⟨e | -, link⟩ := connection
  · exact Or.inl ⟨Or.inl rfl, e, rfl⟩
  simp only [Connection.callOrder, advanceFulfillment]
  rcases postFulfillment_cases h orderId data with
    ⟨hnot, code, hserved⟩ | ⟨hagrees, shop', order, hserved, hmoved, hsane⟩ <;> rw [hserved]
  · refine Or.inl ⟨Or.inr (Or.inr hnot), ?_⟩
    cases link with
    | up =>
      simp only [Payments.request]
      split
      · exact ⟨_, rfl⟩
      · split
        · exact ⟨_, rfl⟩
        · exact ⟨_, rfl⟩
    | lost => exact ⟨_, rfl⟩
    | down => exact ⟨_, rfl⟩
  · cases link with
    | up => exact Or.inr ⟨rfl, hagrees, shop', hmoved, hsane, Or.inl ⟨rfl, rfl⟩⟩
    | lost => exact Or.inr ⟨rfl, hagrees, shop', hmoved, hsane, Or.inr ⟨rfl, _, rfl⟩⟩
    | down => exact Or.inl ⟨Or.inr (Or.inl rfl), _, rfl⟩

end Call

/-! ## What a request makes of a shipment and its order -/

/-- A move takes effect at the Order Service and the shipment does not record it. -/
def LosesMove (env : DepotEnv) (depot : Depot) (call : DateTime × Request) : Prop :=
  match call.2 with
  | .createShipment data principal key connection =>
    createRead env.shipments depot.shipments data principal key = .ok none ∧
      connection.Drops (data.Storable call.1) ∧
      Advances depot.shop.orders data.orderId .processing
  | .ship shipmentId data principal connection =>
    ∃ x, shipRead depot.shipments shipmentId principal = .ok x ∧
      connection.Drops (data.Storable call.1) ∧
      Advances depot.shop.orders x.orderId .shipped ∧ NulFree data.trackingNumber
  | .deliver shipmentId data principal connection =>
    ∃ x, deliverRead depot.shipments shipmentId principal = .ok x ∧
      connection.Drops (data.Storable call.1) ∧
      Advances depot.shop.orders x.orderId .delivered
  | _ => False

/-- No order has come to be dispatched, and none that was has moved. -/
def Quiet (orders orders' : Orders.Store) : Prop :=
  ∀ status, Dispatched status → ∀ k,
    (statusOf orders' k = some status ↔ statusOf orders k = some status)

/-- All that one request can do to the shipments and their orders. -/
inductive Depot.Next (env : DepotEnv) (depot : Depot) (call : DateTime × Request) (depot' : Depot) :
    Prop
  | quiet (recorded : ¬LosesMove env depot call)
      (orders : Quiet depot.shop.orders depot'.shop.orders)
      (shipments : depot'.shipments = depot.shipments)
  | booked (recorded : ¬LosesMove env depot call) (x : Shipment) (new : x.stage = .processing)
      (moved : Moved depot.shop.orders depot'.shop.orders x.orderId .processing)
      (shipments : ∀ y, y ∈ depot'.shipments.shipments ↔ y ∈ depot.shipments.shipments ∨ y = x)
  | moved (recorded : ¬LosesMove env depot call) (x x' : Shipment)
      (read : depot.shipments.shipments.get? x.id = some x)
      (same : x'.id = x.id ∧ x'.orderId = x.orderId) (turn : x.stage.next = some x'.stage)
      (moved : Moved depot.shop.orders depot'.shop.orders x.orderId x'.stage)
      (shipments : depot'.shipments.shipments = depot.shipments.shipments.put x')
  | ended (recorded : ¬LosesMove env depot call) (x x' : Shipment)
      (read : depot.shipments.shipments.get? x.id = some x)
      (same : x'.id = x.id ∧ x'.orderId = x.orderId) (stage : x'.stage = x.stage)
      (orders : depot'.shop.orders = depot.shop.orders)
      (shipments : depot'.shipments.shipments = depot.shipments.shipments.put x')
  | lost (unrecorded : LosesMove env depot call) (orderId : UUID) (status : OrderStatus)
      (behind : ∀ x ∈ depot.shipments.shipments, x.orderId = orderId → x.stage.next = some status)
      (booked : status ≠ .processing → ∃ x ∈ depot.shipments.shipments, x.orderId = orderId)
      (moved : Moved depot.shop.orders depot'.shop.orders orderId status)
      (shipments : depot'.shipments = depot.shipments)

section Next

variable {env : DepotEnv} {depot : Depot}

theorem Shipment.Consistent.stage {x x' : Shipment} {type : String} (h : x.Consistent)
    (ht : x.Turns type x') :
    (type = "shipped" → x.stage = .processing ∧ x'.stage = .shipped) ∧
      (type = "delivered" → x.stage = .shipped ∧ x'.stage = .delivered) ∧
      (type = "exception" → x'.stage = x.stage) := by
  cases ht with
  | shipped trackingNumber carrier occurredAt pending fits =>
    obtain ⟨hs, hd, -⟩ := h.of_pending pending
    refine ⟨fun _ => ?_, fun e => absurd e (by decide), fun e => absurd e (by decide)⟩
    simp [Shipment.stage, hs, hd]
  | delivered occurredAt shipped =>
    obtain ⟨hs, hd, -⟩ := h.of_shipped shipped
    refine ⟨fun e => absurd e (by decide), fun _ => ?_, fun e => absurd e (by decide)⟩
    simp [Shipment.stage, hs, hd]
  | failed reason active =>
    exact ⟨fun e => absurd e (by decide), fun e => absurd e (by decide), fun _ => rfl⟩

/-- An operation that calls the Order Service leaves everything as it was, or the
order has moved, and its own rows are written unless the move is dropped. -/
theorem finish_cases (h : Orders.Sane env.shop depot.shop) (connection : Connection)
    (orderId : UUID) (data : FulfillmentUpdate) (write : Except Failure (Store × Shipment)) :
    let depot' := (finish depot (connection.callOrder depot.shop orderId data) write).1
    (¬(connection.Drops (∃ p, write = .ok p) ∧ Agrees depot.shop.orders orderId data) ∧
        depot' = depot) ∨
      (Agrees depot.shop.orders orderId data ∧
        Moved depot.shop.orders depot'.shop.orders orderId data.status ∧
        Orders.Sane env.shop depot'.shop ∧
        ((¬connection.Drops (∃ p, write = .ok p) ∧
            ∃ s x, write = .ok (s, x) ∧ depot'.shipments = s) ∨
          (connection.Drops (∃ p, write = .ok p) ∧ depot'.shipments = depot.shipments))) := by
  rcases callOrder_cases h connection orderId data with
    ⟨hnot, e, hcall⟩ |
    ⟨hauth, hagrees, shop', hmoved, hsane, ⟨hlink, hcall⟩ | ⟨hlink, e, hcall⟩⟩ <;> rw [hcall]
  · refine Or.inl ⟨?_, rfl⟩
    rintro ⟨⟨hauth, hlink⟩, hagrees⟩
    rcases hnot with hnone | hdown | hnot
    · cases hnone.symm.trans hauth
    · rw [hdown] at hlink
      rcases hlink with hlink | ⟨hlink, -⟩ <;> cases hlink
    · exact hnot hagrees
  · cases write with
    | error failure =>
      have hrefused : ¬∃ p, (Except.error failure : Except Failure (Store × Shipment)) = .ok p := by
        rintro ⟨_, hp⟩
        cases hp
      exact Or.inr ⟨hagrees, hmoved, hsane, Or.inr ⟨⟨hauth, Or.inr ⟨hlink, hrefused⟩⟩, rfl⟩⟩
    | ok p =>
      obtain ⟨s, x⟩ := p
      refine Or.inr ⟨hagrees, hmoved, hsane, Or.inl ⟨?_, s, x, rfl, rfl⟩⟩
      rintro ⟨-, hlost | ⟨-, hrefused⟩⟩
      · cases hlink.symm.trans hlost
      · exact hrefused ⟨_, rfl⟩
  · exact Or.inr ⟨hagrees, hmoved, hsane, Or.inr ⟨⟨hauth, Or.inl hlink⟩, rfl⟩⟩

theorem Connection.drops_congr (connection : Connection) {written written' : Prop}
    (h : written ↔ written') : connection.Drops written ↔ connection.Drops written' := by
  rw [propext h]

theorem Depot.Next.of_same {call : DateTime × Request} {depot' : Depot}
    (recorded : ¬LosesMove env depot call) (same : depot' = depot) :
    Depot.Next env depot call depot' := by
  rw [same]
  exact .quiet recorded (fun _ _ _ => Iff.rfl) rfl

/-- A turn that the Order Service is asked for first. -/
theorem turn_next (h : Orders.Sane env.shop depot.shop) (ht : Told env.shipments depot.shipments)
    {call : DateTime × Request} {connection : Connection} {x : Shipment} {data : FulfillmentUpdate}
    {write : Except Failure (Store × Shipment)}
    (hget : depot.shipments.shipments.get? x.id = some x) (hturn : x.stage.next = some data.status)
    (hwrite : ∀ s x', write = .ok (s, x') → (x'.id = x.id ∧ x'.orderId = x.orderId) ∧
      x'.stage = data.status ∧ s.shipments = depot.shipments.shipments.put x')
    (hloses : LosesMove env depot call ↔
      connection.Drops (∃ p, write = .ok p) ∧ Agrees depot.shop.orders x.orderId data) :
    let depot' := (finish depot (connection.callOrder depot.shop x.orderId data) write).1
    Orders.Sane env.shop depot'.shop ∧ Depot.Next env depot call depot' := by
  intro depot'
  have hx := Table.mem_of_get? hget
  rcases finish_cases h connection x.orderId data write with
    ⟨hnot, hdepot⟩ | ⟨hagrees, hmoved, hsane, ⟨hnot, s, x', hok, hs⟩ | ⟨hdrops, hs⟩⟩
  · rw [show depot' = depot from hdepot]
    exact ⟨h, .of_same (hloses.not.mpr hnot) rfl⟩
  · obtain ⟨hsame, hto, hput⟩ := hwrite s x' hok
    refine ⟨hsane, .moved (fun hl => hnot (hloses.mp hl).1) x x' hget hsame (hto ▸ hturn)
      (hto ▸ hmoved) ?_⟩
    rw [hs, hput]
  · refine ⟨hsane, .lost (hloses.mpr ⟨hdrops, hagrees⟩) x.orderId data.status
      (fun y hy hyx => ?_) (fun _ => ⟨x, hx, rfl⟩) hmoved hs⟩
    rw [ht.alone x hx y hy hyx, hturn]

theorem createShipment_next (h : Orders.Sane env.shop depot.shop)
    (ht : Told env.shipments depot.shipments) (now : DateTime) (data : ShipmentCreate)
    (principal : Principal) (key : ShipmentKey) (connection : Connection) :
    let depot' := (createShipment env.shipments now depot data principal key connection).1
    Orders.Sane env.shop depot'.shop ∧
      Depot.Next env depot (now, .createShipment data principal key connection) depot' := by
  simp only [createShipment]
  cases hread : createRead env.shipments depot.shipments data principal key with
  | error e => exact ⟨h, .of_same (fun hl => by cases hread.symm.trans hl.1) rfl⟩
  | ok found =>
    cases found with
    | some shipment => exact ⟨h, .of_same (fun hl => by cases hread.symm.trans hl.1) rfl⟩
    | none =>
      have hfree := (createRead_none hread).1
      have hstorable : data.Storable now ↔
          ∃ p, createWrite env.shipments now depot.shipments data principal key = .ok p := by
        refine ⟨createWrite_succeeds ht hread, ?_⟩
        rintro ⟨_, hrun⟩
        exact (createWrite_ok hread hrun).2.2.2.2.2
      have hdrops := connection.drops_congr hstorable
      have hnone : ∀ r ∈ (none : Option String), NulFree r :=
        fun r hr => (Option.not_mem_none r hr).elim
      simp only
      rcases finish_cases h connection data.orderId ⟨.processing, none, Or.inl rfl, by decide⟩
          (createWrite env.shipments now depot.shipments data principal key) with
        ⟨hnot, hdepot⟩ |
        ⟨hagrees, hmoved, hsane, ⟨hnot, s, x, hrun, hshipments⟩ | ⟨hlost, hshipments⟩⟩
      · rw [hdepot]
        exact ⟨h, .of_same (fun hl => hnot ⟨hdrops.mp hl.2.1, hl.2.2, hnone⟩) rfl⟩
      · obtain ⟨-, hmem, horder, hp, hconsistent, -⟩ := createWrite_ok hread hrun
        obtain ⟨hs, hd, -⟩ := hconsistent.of_pending hp
        refine ⟨hsane, .booked (fun hl => hnot (hdrops.mp hl.2.1)) x ?_ (horder ▸ hmoved) ?_⟩
        · simp [Shipment.stage, hs, hd]
        · rw [hshipments]
          exact hmem
      · exact ⟨hsane, .lost ⟨hread, hdrops.mpr hlost, hagrees.1⟩ data.orderId .processing
          (fun y hy hyd => absurd hyd (hfree y hy)) (fun hne => absurd rfl hne) hmoved hshipments⟩

theorem ship_next (h : Orders.Sane env.shop depot.shop) (ht : Told env.shipments depot.shipments)
    (now : DateTime) (shipmentId : UUID) (data : ShipmentShip) (principal : Principal)
    (connection : Connection) :
    let depot' := (ship now depot shipmentId data principal connection).1
    Orders.Sane env.shop depot'.shop ∧
      Depot.Next env depot (now, .ship shipmentId data principal connection) depot' := by
  simp only [ship]
  cases hread : shipRead depot.shipments shipmentId principal with
  | error e =>
    refine ⟨h, .of_same ?_ rfl⟩
    rintro ⟨x, hx, -⟩
    cases hread.symm.trans hx
  | ok x =>
    obtain ⟨hget, hp⟩ := shipRead_ok hread
    obtain rfl : x.id = shipmentId := Table.key_of_get? hget
    have hconsistent := ht.consistent x (Table.mem_of_get? hget)
    obtain ⟨hs, hd, -⟩ := hconsistent.of_pending hp
    have hfrom : x.stage = .processing := by simp [Shipment.stage, hs, hd]
    -- The tracking number is stored by the Order Service, or the order does not move.
    have hdrops : NulFree data.trackingNumber → (connection.Drops (data.Storable now) ↔
        connection.Drops (∃ p, shipWrite now depot.shipments x data = .ok p)) := by
      refine fun hfree => connection.drops_congr ⟨shipWrite_succeeds ht hget hfree, ?_⟩
      rintro ⟨_, hrun⟩
      exact (shipWrite_ok env.shipments hget hp hrun).2.2.2
    refine turn_next h ht hget (by rw [hfrom]; rfl) (fun s x' hrun => ?_) ?_
    · obtain ⟨-, hput, hturn, -⟩ := shipWrite_ok env.shipments hget hp hrun
      exact ⟨⟨hturn.same.1, hturn.same.2.1⟩, ((hconsistent.stage hturn).1 rfl).2, hput⟩
    · constructor
      · rintro ⟨y, hy, hl, hadvances, hfree⟩
        cases hread.symm.trans hy
        exact ⟨(hdrops hfree).mp hl, hadvances, fun r hr => Option.some.inj hr ▸ hfree⟩
      · rintro ⟨hl, hadvances, hreference⟩
        have hfree := hreference data.trackingNumber rfl
        exact ⟨x, hread, (hdrops hfree).mpr hl, hadvances, hfree⟩

theorem deliver_next (h : Orders.Sane env.shop depot.shop)
    (ht : Told env.shipments depot.shipments) (now : DateTime) (shipmentId : UUID)
    (data : ShipmentDeliver) (principal : Principal) (connection : Connection) :
    let depot' := (deliver now depot shipmentId data principal connection).1
    Orders.Sane env.shop depot'.shop ∧
      Depot.Next env depot (now, .deliver shipmentId data principal connection) depot' := by
  simp only [deliver]
  cases hread : deliverRead depot.shipments shipmentId principal with
  | error e =>
    refine ⟨h, .of_same ?_ rfl⟩
    rintro ⟨x, hx, -⟩
    cases hread.symm.trans hx
  | ok x =>
    obtain ⟨hget, hp⟩ := deliverRead_ok hread
    obtain rfl : x.id = shipmentId := Table.key_of_get? hget
    have hconsistent := ht.consistent x (Table.mem_of_get? hget)
    obtain ⟨hs, hd, -⟩ := hconsistent.of_shipped hp
    have hfrom : x.stage = .shipped := by simp [Shipment.stage, hs, hd]
    have hdrops : connection.Drops (data.Storable now) ↔
        connection.Drops (∃ p, deliverWrite now depot.shipments x data = .ok p) := by
      refine connection.drops_congr ⟨deliverWrite_succeeds, ?_⟩
      rintro ⟨_, hrun⟩
      exact (deliverWrite_ok env.shipments hget hp hrun).2.2.2
    refine turn_next h ht hget (by rw [hfrom]; rfl) (fun s x' hrun => ?_) ?_
    · obtain ⟨-, hput, hturn, -⟩ := deliverWrite_ok env.shipments hget hp hrun
      exact ⟨⟨hturn.same.1, hturn.same.2.1⟩, ((hconsistent.stage hturn).2.1 rfl).2, hput⟩
    · constructor
      · rintro ⟨y, hy, hl, hadvances⟩
        cases hread.symm.trans hy
        exact ⟨hdrops.mp hl, hadvances, fun r hr => (Option.not_mem_none r hr).elim⟩
      · rintro ⟨hl, hadvances, -⟩
        exact ⟨x, hread, hdrops.mpr hl, hadvances⟩

/-- Everything a request does is one of the cases of `Depot.Next`. -/
theorem step_next (h : Orders.Sane env.shop depot.shop) (ht : Told env.shipments depot.shipments)
    (call : DateTime × Request) :
    Orders.Sane env.shop (step env depot call).shop ∧
      Depot.Next env depot call (step env depot call) := by
  obtain ⟨now, req⟩ := call
  cases req with
  | shop request routed =>
    refine ⟨h.step (now, request), .quiet (fun hl => hl.elim) (fun status hd k => ?_) rfl⟩
    exact routed_status h.inventory.inv now routed hd k
  | createShipment data principal key connection =>
    exact createShipment_next h ht now data principal key connection
  | ship shipmentId data principal connection =>
    exact ship_next h ht now shipmentId data principal connection
  | deliver shipmentId data principal connection =>
    exact deliver_next h ht now shipmentId data principal connection
  | recordException shipmentId data principal =>
    simp only [step]
    cases hrun : recordException now depot.shipments shipmentId data principal with
    | error e => exact ⟨h, .of_same (fun hl => hl.elim) rfl⟩
    | ok p =>
      obtain ⟨s, x'⟩ := p
      obtain ⟨-, x, hget, hput, hturn⟩ := recordException_posts env.shipments hrun
      obtain rfl : x.id = shipmentId := Table.key_of_get? hget
      have hstage := ((ht.consistent x (Table.mem_of_get? hget)).stage hturn).2.2 rfl
      exact ⟨h, .ended (fun hl => hl.elim) x x' hget ⟨hturn.same.1, hturn.same.2.1⟩ hstage rfl hput⟩

end Next

/-- What every run keeps of the two services. -/
structure Trusted (env : DepotEnv) (depot : Depot) : Prop where
  shop : Orders.Sane env.shop depot.shop
  shipments : Told env.shipments depot.shipments

theorem Trusted.next {env : DepotEnv} {depot : Depot} (h : Trusted env depot)
    (call : DateTime × Request) : Depot.Next env depot call (step env depot call) :=
  (step_next h.shop h.shipments call).2

theorem Trusted.step {env : DepotEnv} {depot : Depot} (h : Trusted env depot)
    (call : DateTime × Request) : Trusted env (step env depot call) :=
  ⟨(step_next h.shop h.shipments call).1, h.shipments.step call⟩

theorem Trusted.empty (env : DepotEnv) : Trusted env Depot.empty :=
  ⟨.empty env.shop, .empty env.shipments⟩

/-- Every shipment has its order at the stage the shipment has recorded, and every
dispatched order has its shipment. -/
structure InStep (depot : Depot) : Prop where
  ahead : ∀ x ∈ depot.shipments.shipments, statusOf depot.shop.orders x.orderId = some x.stage
  shipped : ∀ k status, statusOf depot.shop.orders k = some status → Dispatched status →
    ∃ x ∈ depot.shipments.shipments, x.orderId = k

theorem Shipment.stage_dispatched (x : Shipment) : Dispatched x.stage := by
  rw [Shipment.stage]
  split_ifs
  · exact Or.inr (Or.inr rfl)
  · exact Or.inr (Or.inl rfl)
  · exact Or.inl rfl

/-- No order moves to be in processing that was dispatched before. -/
theorem Advances.not_dispatched {orders : Orders.Store} {k : UUID} {status : OrderStatus}
    (h : Advances orders k .processing) (hst : statusOf orders k = some status) :
    ¬Dispatched status := by
  obtain ⟨current, hcurrent, hnext⟩ := h
  cases hst.symm.trans hcurrent
  rintro (rfl | rfl | rfl) <;> cases hnext

theorem Advances.ne {orders : Orders.Store} {k : UUID} {status : OrderStatus}
    (h : Advances orders k status) : statusOf orders k ≠ some status := by
  obtain ⟨current, hcurrent, hnext⟩ := h
  intro hst
  cases hst.symm.trans hcurrent
  exact (next_dispatched hnext).2 rfl

section InStep

variable {env : DepotEnv} {depot depot' : Depot} {call : DateTime × Request}

theorem InStep.of_put (ht : Told env.shipments depot.shipments) (h : InStep depot)
    {x x' : Shipment} (hget : depot.shipments.shipments.get? x.id = some x)
    (hsame : x'.id = x.id ∧ x'.orderId = x.orderId)
    (hto : statusOf depot'.shop.orders x.orderId = some x'.stage)
    (hother : ∀ k, k ≠ x.orderId → statusOf depot'.shop.orders k = statusOf depot.shop.orders k)
    (hput : depot'.shipments.shipments = depot.shipments.shipments.put x') : InStep depot' := by
  have hx := Table.mem_of_get? hget
  have hmem : ∀ y, y ∈ depot'.shipments.shipments ↔
      y = x' ∨ (y ∈ depot.shipments.shipments ∧ y.id ≠ x'.id) := fun y => by
    rw [hput, hsame.1]
    exact Table.mem_put_of_mem hx hsame.1
  refine ⟨fun y hy => ?_, fun k status hst hd => ?_⟩
  · rcases (hmem y).mp hy with rfl | ⟨hold, hne⟩
    · exact hsame.2 ▸ hto
    · -- No other shipment is for the order that moved.
      have horder : y.orderId ≠ x.orderId := fun e =>
        hne (congrArg Shipment.id (ht.alone x hx y hold e) |>.trans hsame.1.symm)
      rw [hother _ horder]
      exact h.ahead y hold
  · by_cases hk : k = x.orderId
    · exact ⟨x', (hmem x').mpr (Or.inl rfl), hsame.2.trans hk.symm⟩
    · obtain ⟨y, hy, hyk⟩ := h.shipped k status (hother k hk ▸ hst) hd
      have hne : y.id ≠ x'.id := fun e =>
        hk (by rw [← hyk, Table.eq_of_key_eq hy hx (e.trans hsame.1)])
      exact ⟨y, (hmem y).mpr (Or.inr ⟨hy, hne⟩), hyk⟩

theorem InStep.next (ht : Told env.shipments depot.shipments) (h : InStep depot)
    (hn : Depot.Next env depot call depot') : InStep depot' ↔ ¬LosesMove env depot call := by
  cases hn with
  | quiet recorded orders shipments =>
    refine iff_of_true ⟨fun x hx => ?_, fun k status hst hd => ?_⟩ recorded
    · exact (orders _ x.stage_dispatched _).mpr (h.ahead x (shipments ▸ hx))
    · rw [shipments]
      exact h.shipped k status ((orders status hd k).mp hst) hd
  | booked recorded x new moved shipments =>
    refine iff_of_true ⟨fun y hy => ?_, fun k status hst hd => ?_⟩ recorded
    · rcases (shipments y).mp hy with hold | rfl
      · have hne : y.orderId ≠ x.orderId := fun e =>
          (e ▸ moved.advances).not_dispatched (h.ahead y hold) y.stage_dispatched
        rw [moved.other _ hne]
        exact h.ahead y hold
      · exact new ▸ moved.moved
    · by_cases hk : k = x.orderId
      · exact ⟨x, (shipments x).mpr (Or.inr rfl), hk.symm⟩
      · obtain ⟨y, hy, hyk⟩ := h.shipped k status (moved.other k hk ▸ hst) hd
        exact ⟨y, (shipments y).mpr (Or.inl hy), hyk⟩
  | moved recorded x x' read same turn moved shipments =>
    exact iff_of_true (h.of_put ht read same moved.moved moved.other shipments) recorded
  | ended recorded x x' read same stage orders shipments =>
    refine iff_of_true (h.of_put ht read same ?_ (fun k _ => by rw [orders]) shipments) recorded
    rw [orders, stage]
    exact h.ahead x (Table.mem_of_get? read)
  | lost unrecorded orderId status behind booked moved shipments =>
    refine iff_of_false (fun h' => ?_) (fun hl => hl unrecorded)
    -- The order has its shipment, which is where the order was.
    obtain ⟨current, -, hnext⟩ := moved.advances
    obtain ⟨x, hx, hxk⟩ := h'.shipped orderId status moved.moved (next_dispatched hnext).1
    have hnow : some x.stage = some status :=
      (h'.ahead x hx).symm.trans (hxk ▸ moved.moved)
    have hbefore := h.ahead x (shipments ▸ hx)
    exact moved.advances.ne (hxk ▸ hbefore.trans hnow)

end InStep

theorem InStep.empty : InStep Depot.empty where
  ahead x hx := absurd hx (Table.not_mem_empty x)
  shipped k status hst := by cases hst

/-- A run keeps the shipments and their orders in step if and only if no move is lost
in it. -/
theorem in_step (env : DepotEnv) (calls : List (DateTime × Request)) :
    Along (step env) InStep Depot.empty calls ↔
      Admitted (step env) (fun depot call => ¬LosesMove env depot call) Depot.empty calls := by
  have hkeep : ∀ depot call, Trusted env depot → Trusted env (step env depot call) :=
    fun _ call h => h.step call
  have hstep : ∀ depot call, Trusted env depot → InStep depot →
      (InStep (step env depot call) ↔ ¬LosesMove env depot call) :=
    fun _ call h hi => hi.next h.shipments (h.next call)
  exact along_iff_admitted hkeep hstep (Trusted.empty env) InStep.empty

/-- The request is one whose move can be lost. -/
def Request.Drops (now : DateTime) : Request → Prop
  | .createShipment data _ _ connection => connection.Drops (data.Storable now)
  | .ship _ data _ connection => connection.Drops (data.Storable now)
  | .deliver _ data _ connection => connection.Drops (data.Storable now)
  | _ => False

instance (connection : Connection) (written : Prop) [Decidable written] :
    Decidable (connection.Drops written) :=
  inferInstanceAs (Decidable (_ ∧ (_ ∨ (_ ∧ ¬written))))

instance (now : DateTime) : DecidablePred (Request.Drops now)
  | .createShipment data _ _ connection =>
    inferInstanceAs (Decidable (connection.Drops (data.Storable now)))
  | .ship _ data _ connection =>
    inferInstanceAs (Decidable (connection.Drops (data.Storable now)))
  | .deliver _ data _ connection =>
    inferInstanceAs (Decidable (connection.Drops (data.Storable now)))
  | .shop _ _ | .recordException _ _ _ => isFalse id

/-! ### The way of a shipment that is in step -/

section Delivery

variable {env : DepotEnv} {depot : Depot} {x : Shipment} {principal : Principal}

end Delivery

instance : DecidablePred Routed
  | .fulfillment _ _ _ => isFalse id
  | .inventory _ | .checkout _ _ _ _ | .cancel _ _ _ _ | .paymentAuthorized _ _ _
  | .paymentFailed _ _ _ | .paymentRefunded _ _ _ => isTrue trivial

/-- The order is dispatched and its shipment, if any, has not recorded it. -/
structure Ahead (depot : Depot) (k : UUID) (status : OrderStatus) : Prop where
  dispatched : Dispatched status
  order : statusOf depot.shop.orders k = some status
  shipment : ∀ x ∈ depot.shipments.shipments, x.orderId = k → x.stage ≠ status

section Ahead

variable {env : DepotEnv} {depot depot' : Depot} {call : DateTime × Request} {k : UUID}
  {status : OrderStatus}

theorem next_injective {a b next : OrderStatus} (ha : a.next = some next)
    (hb : b.next = some next) : a = b := by
  cases a <;> cases ha <;> cases b <;> cases hb <;> rfl

theorem Ahead.of_put {x x' : Shipment} (h : Ahead depot k status)
    (hget : depot.shipments.shipments.get? x.id = some x)
    (hsame : x'.id = x.id ∧ x'.orderId = x.orderId)
    (hstage : x.orderId = k → x'.stage = x.stage)
    (horder : statusOf depot'.shop.orders k = statusOf depot.shop.orders k)
    (hput : depot'.shipments.shipments = depot.shipments.shipments.put x') :
    Ahead depot' k status := by
  have hx := Table.mem_of_get? hget
  refine ⟨h.dispatched, horder.trans h.order, fun y hy hyk => ?_⟩
  rw [hput] at hy
  rcases (Table.mem_put_of_mem hx hsame.1).mp hy with rfl | ⟨hold, -⟩
  · have hxk : x.orderId = k := hsame.2.symm.trans hyk
    exact hstage hxk ▸ h.shipment x hx hxk
  · exact h.shipment y hold hyk

theorem Ahead.next (h : Ahead depot k status) (hn : Depot.Next env depot call depot') :
    Ahead depot' k status := by
  -- An order moves only from where its shipment is.
  have hbehind : ∀ {x : Shipment} {next : OrderStatus}, x ∈ depot.shipments.shipments →
      x.stage.next = some next → Advances depot.shop.orders x.orderId next → k ≠ x.orderId := by
    rintro x next hx hturn ⟨current, hcurrent, hnext⟩ rfl
    cases h.order.symm.trans hcurrent
    exact h.shipment x hx rfl (next_injective hturn hnext)
  cases hn with
  | quiet recorded orders shipments =>
    exact ⟨h.dispatched, (orders status h.dispatched k).mpr h.order, shipments ▸ h.shipment⟩
  | booked recorded x new moved shipments =>
    have hk : k ≠ x.orderId := fun e =>
      (e ▸ moved.advances).not_dispatched h.order h.dispatched
    refine ⟨h.dispatched, (moved.other k hk).trans h.order, fun y hy hyk => ?_⟩
    rcases (shipments y).mp hy with hold | rfl
    · exact h.shipment y hold hyk
    · exact absurd hyk.symm hk
  | moved recorded x x' read same turn moved shipments =>
    have hk := hbehind (Table.mem_of_get? read) turn moved.advances
    exact h.of_put read same (fun e => absurd e.symm hk) (moved.other k hk) shipments
  | ended recorded x x' read same stage orders shipments =>
    exact h.of_put read same (fun _ => stage) (by rw [orders]) shipments
  | lost unrecorded orderId next behind booked moved shipments =>
    have hk : k ≠ orderId := by
      rintro rfl
      by_cases hnext : next = .processing
      · exact (hnext ▸ moved.advances).not_dispatched h.order h.dispatched
      · obtain ⟨x, hx, rfl⟩ := booked hnext
        exact hbehind hx (behind x hx rfl) moved.advances rfl
    exact ⟨h.dispatched, (moved.other k hk).trans h.order, shipments ▸ h.shipment⟩

theorem LosesMove.ahead (h : LosesMove env depot call)
    (hn : Depot.Next env depot call depot') : ∃ k status, Ahead depot' k status := by
  cases hn with
  | lost unrecorded orderId status behind booked moved shipments =>
    obtain ⟨current, -, hnext⟩ := moved.advances
    refine ⟨orderId, status, (next_dispatched hnext).1, moved.moved, fun x hx hxk => ?_⟩
    exact (next_dispatched (behind x (shipments ▸ hx) hxk)).2.symm
  | quiet recorded => exact absurd h recorded
  | booked recorded => exact absurd h recorded
  | moved recorded => exact absurd h recorded
  | ended recorded => exact absurd h recorded

end Ahead

end Shipping
end Marketplace
