import Marketplace.Shipping.Service

/-!
# Shipping: the events tell the story

`Store.Posts` says all that an operation can do to the shipments: book one, or
turn one that exists.  From it follows that in every run the events of a shipment
are the story its columns tell, that its version counts them, and that there is
one shipment for an order.  Whoever reads the events gets them by the times given
for them, which need not be the order of the story.

What an operation has to write after the Order Service agreed passes the
constraints, so it is written just when the columns take the text and the time of
the request.
-/

namespace Marketplace
namespace Shipping

open Base

/-! ## The columns of a shipment -/

/-- The events the columns stand for. -/
def Shipment.story (x : Shipment) : List String :=
  ["created"] ++ (if x.shippedAt.isSome then ["shipped"] else []) ++
    (if x.deliveredAt.isSome then ["delivered"] else []) ++
    (if x.failureReason.isSome then ["exception"] else [])

/-- The columns agree with each other. -/
structure Shipment.Consistent (x : Shipment) : Prop where
  status : x.status = if x.failureReason.isSome then .failed else
    if x.deliveredAt.isSome then .delivered else if x.shippedAt.isSome then .shipped else .pending
  delivered : x.deliveredAt.isSome → x.shippedAt.isSome ∧ x.failureReason = none
  tracked : x.trackingNumber.isSome = x.shippedAt.isSome
  carrier : NulFree x.carrier ∧ x.carrier.length ≤ 80
  version : x.version = x.story.length

/-- What an event makes of a shipment. -/
inductive Shipment.Turns (x : Shipment) : String → Shipment → Prop
  | shipped (trackingNumber carrier : String) (occurredAt : DateTime) (pending : x.status = .pending)
      (fits : NulFree carrier ∧ carrier.length ≤ 80) :
      x.Turns "shipped" { x with
        trackingNumber := some trackingNumber, carrier := carrier, status := .shipped
        shippedAt := some occurredAt, version := x.version + 1 }
  | delivered (occurredAt : DateTime) (shipped : x.status = .shipped) :
      x.Turns "delivered" { x with
        status := .delivered, deliveredAt := some occurredAt, version := x.version + 1 }
  | failed (reason : String) (active : x.status = .pending ∨ x.status = .shipped) :
      x.Turns "exception" { x with
        status := .failed, failureReason := some reason, version := x.version + 1 }

section Columns

variable {x x' : Shipment} {type : String}

theorem Shipment.Turns.same (h : x.Turns type x') :
    x'.id = x.id ∧ x'.orderId = x.orderId ∧ x'.sellerId = x.sellerId := by
  cases h <;> exact ⟨rfl, rfl, rfl⟩

theorem Shipment.Consistent.of_pending (h : x.Consistent) (hp : x.status = .pending) :
    x.shippedAt = none ∧ x.deliveredAt = none ∧ x.failureReason = none := by
  have hstatus := hp.symm.trans h.status
  split_ifs at hstatus with hf hd hs
  exact ⟨by simpa using hs, by simpa using hd, by simpa using hf⟩

theorem Shipment.Consistent.of_shipped (h : x.Consistent) (hp : x.status = .shipped) :
    x.shippedAt.isSome ∧ x.deliveredAt = none ∧ x.failureReason = none := by
  have hstatus := hp.symm.trans h.status
  split_ifs at hstatus with hf hd hs
  exact ⟨hs, by simpa using hd, by simpa using hf⟩

theorem Shipment.Consistent.turns (h : x.Consistent) (ht : x.Turns type x') :
    x'.Consistent ∧ x'.story = x.story ++ [type] := by
  have hversion := h.version
  cases ht with
  | shipped trackingNumber carrier occurredAt pending fits =>
    obtain ⟨hs, hd, hf⟩ := h.of_pending pending
    simp only [Shipment.story, hs, hd, hf] at hversion
    refine ⟨⟨?_, ?_, ?_, fits, ?_⟩, ?_⟩ <;> simp [Shipment.story, hs, hd, hf, hversion]
  | delivered occurredAt shipped =>
    obtain ⟨hs, hd, hf⟩ := h.of_shipped shipped
    simp only [Shipment.story, hs, hd, hf] at hversion
    refine ⟨⟨?_, ?_, h.tracked, h.carrier, ?_⟩, ?_⟩ <;> simp [Shipment.story, hs, hd, hf, hversion]
  | failed reason active =>
    rcases active with hp | hp
    · obtain ⟨hs, hd, hf⟩ := h.of_pending hp
      simp only [Shipment.story, hs, hd, hf] at hversion
      refine ⟨⟨?_, ?_, h.tracked, h.carrier, ?_⟩, ?_⟩ <;>
        simp [Shipment.story, hs, hd, hf, hversion]
    · obtain ⟨hs, hd, hf⟩ := h.of_shipped hp
      simp only [Shipment.story, hs, hd, hf] at hversion
      refine ⟨⟨?_, ?_, h.tracked, h.carrier, ?_⟩, ?_⟩ <;>
        simp [Shipment.story, hs, hd, hf, hversion]

/-- Nothing happens twice to a shipment. -/
theorem Shipment.story_nodup (x : Shipment) : x.story.Nodup := by
  rw [Shipment.story]
  split_ifs <;> decide

theorem Shipment.Consistent.story_of_pending (h : x.Consistent) (hp : x.status = .pending) :
    x.story = ["created"] := by
  obtain ⟨hs, hd, hf⟩ := h.of_pending hp
  simp [Shipment.story, hs, hd, hf]

end Columns

/-! ## What an operation posts -/

inductive Store.Posts (env : Env) (s s' : Store) : Prop
  | nothing (same : s' = s)
  | booked (x : Shipment) (event : ShipmentEvent) (record : IdempotencyRecord)
      (id : x.id = env.uuid4.value s.drawn) (new : x.status = .pending) (consistent : x.Consistent)
      (free : ∀ y ∈ s.shipments, y.orderId ≠ x.orderId)
      (shipments : s.shipments.insert? x = some s'.shipments)
      (tells : event.shipmentId = x.id ∧ event.eventType = "created")
      (events : s'.events = s.events ++ [event]) (names : record.resourceId = some x.id)
      (idempotency : s.idempotency.insert? record = some s'.idempotency)
      (drawn : s'.drawn = s.drawn + 1)
  | turned (x x' : Shipment) (event : ShipmentEvent) (read : s.shipments.get? x'.id = some x)
      (turn : x.Turns event.eventType x') (about : event.shipmentId = x'.id)
      (shipments : s'.shipments = s.shipments.put x') (events : s'.events = s.events ++ [event])
      (idempotency : s'.idempotency = s.idempotency) (drawn : s'.drawn = s.drawn)

/-- The types of the events of a shipment, in the order in which they were written. -/
def Store.storyOf (s : Store) (shipmentId : UUID) : List String :=
  (s.eventsOf shipmentId).map ShipmentEvent.eventType

structure Told (env : Env) (s : Store) : Prop where
  issued : ∀ x ∈ s.shipments, env.uuid4.Issued s.drawn x.id
  records : ∀ rec ∈ s.idempotency, ∃ x ∈ s.shipments, rec.resourceId = some x.id
  alone : ∀ x ∈ s.shipments, ∀ y ∈ s.shipments, y.orderId = x.orderId → y = x
  consistent : ∀ x ∈ s.shipments, x.Consistent
  stories : ∀ x ∈ s.shipments, s.storyOf x.id = x.story
  strays : ∀ e ∈ s.events, ∃ x ∈ s.shipments, x.id = e.shipmentId

section Told

variable {env : Env} {s s' : Store}

theorem Told.empty (env : Env) : Told env Store.empty where
  issued _ h := absurd h (Table.not_mem_empty _)
  records _ h := absurd h (Table.not_mem_empty _)
  alone _ h := absurd h (Table.not_mem_empty _)
  consistent _ h := absurd h (Table.not_mem_empty _)
  stories _ h := absurd h (Table.not_mem_empty _)
  strays _ h := absurd h List.not_mem_nil

theorem storyOf_append {event : ShipmentEvent} (h : s'.events = s.events ++ [event]) (id : UUID) :
    s'.storyOf id = s.storyOf id ++ if event.shipmentId = id then [event.eventType] else [] := by
  rw [Store.storyOf, Store.eventsOf, h, List.filter_append, List.map_append, Store.storyOf,
    Store.eventsOf]
  by_cases hid : event.shipmentId = id <;> simp [hid]

theorem Told.posts (h : Told env s) (hp : s.Posts env s') : Told env s' := by
  cases hp with
  | nothing same =>
    rw [same]
    exact h
  | booked x event record id new consistent free shipments tells events names idempotency drawn =>
    have hmem : ∀ y, y ∈ s'.shipments ↔ y ∈ s.shipments ∨ y = x :=
      fun y => Table.mem_insert? shipments
    have hnone : ∀ e ∈ s.events, e.shipmentId ≠ x.id := by
      intro e he hid
      obtain ⟨y, hy, hye⟩ := h.strays e he
      exact Supply.not_issued le_rfl (id ▸ hid ▸ hye ▸ h.issued y hy)
    refine ⟨fun y hy => ?_, fun rec hrec => ?_, fun y hy z hz hsame => ?_, fun y hy => ?_,
      fun y hy => ?_, fun e he => ?_⟩
    · rw [drawn]
      rcases (hmem y).mp hy with hy | rfl
      · exact (h.issued y hy).mono (Nat.le_succ _)
      · exact id ▸ Supply.issued_succ
    · rcases (Table.mem_insert? idempotency).mp hrec with hrec | rfl
      · obtain ⟨y, hy, hres⟩ := h.records rec hrec
        exact ⟨y, (hmem y).mpr (Or.inl hy), hres⟩
      · exact ⟨x, (hmem x).mpr (Or.inr rfl), names⟩
    · rcases (hmem y).mp hy with hy | rfl <;> rcases (hmem z).mp hz with hz | rfl
      · exact h.alone y hy z hz hsame
      · exact absurd hsame.symm (free y hy)
      · exact absurd hsame (free z hz)
      · rfl
    · rcases (hmem y).mp hy with hy | rfl
      · exact h.consistent y hy
      · exact consistent
    · rw [storyOf_append events, tells.1, tells.2]
      rcases (hmem y).mp hy with hy | rfl
      · have hne : x.id ≠ y.id := fun e =>
          (Table.insert?_eq_some shipments).1 y hy e.symm
        rw [if_neg hne, List.append_nil, h.stories y hy]
      · have hold : s.storyOf y.id = [] := by
          rw [Store.storyOf, Store.eventsOf,
            List.filter_eq_nil_iff.mpr fun e he => by simpa using hnone e he]
          rfl
        rw [if_pos rfl, hold, consistent.story_of_pending new]
        rfl
    · rw [events, List.mem_append, List.mem_singleton] at he
      rcases he with he | rfl
      · obtain ⟨y, hy, hye⟩ := h.strays e he
        exact ⟨y, (hmem y).mpr (Or.inl hy), hye⟩
      · exact ⟨x, (hmem x).mpr (Or.inr rfl), tells.1.symm⟩
  | turned x x' event read turn about shipments events idempotency drawn =>
    have hx : x ∈ s.shipments := Table.mem_of_get? read
    obtain ⟨hid, horder, -⟩ := turn.same
    obtain ⟨hconsistent, hstory⟩ := (h.consistent x hx).turns turn
    have hmem : ∀ y, y ∈ s'.shipments ↔ y = x' ∨ (y ∈ s.shipments ∧ y.id ≠ x'.id) := fun y => by
      rw [shipments, hid]
      exact Table.mem_put_of_mem hx hid
    have hback : ∀ y ∈ s'.shipments, ∃ z ∈ s.shipments, z.id = y.id ∧ z.orderId = y.orderId := by
      intro y hy
      rcases (hmem y).mp hy with rfl | ⟨hy, -⟩
      · exact ⟨x, hx, hid.symm, horder.symm⟩
      · exact ⟨y, hy, rfl, rfl⟩
    have hon : ∀ y ∈ s.shipments, ∃ z ∈ s'.shipments, z.id = y.id := by
      intro y hy
      by_cases he : y.id = x'.id
      · exact ⟨x', (hmem x').mpr (Or.inl rfl), he.symm⟩
      · exact ⟨y, (hmem y).mpr (Or.inr ⟨hy, he⟩), rfl⟩
    refine ⟨fun y hy => ?_, fun rec hrec => ?_, fun y hy z hz hsame => ?_, fun y hy => ?_,
      fun y hy => ?_, fun e he => ?_⟩
    · obtain ⟨z, hz, hzy, -⟩ := hback y hy
      rw [drawn, ← hzy]
      exact h.issued z hz
    · obtain ⟨y, hy, hres⟩ := h.records rec (idempotency ▸ hrec)
      obtain ⟨z, hz, hzy⟩ := hon y hy
      exact ⟨z, hz, hzy ▸ hres⟩
    · obtain ⟨a, ha, hay, hao⟩ := hback y hy
      obtain ⟨b, hb, hbz, hbo⟩ := hback z hz
      have hab := h.alone a ha b hb (hbo.trans (hsame.trans hao.symm))
      exact Table.eq_of_key_eq hz hy (by rw [← hay, ← hbz, hab])
    · rcases (hmem y).mp hy with rfl | ⟨hy, -⟩
      · exact hconsistent
      · exact h.consistent y hy
    · rw [storyOf_append events, about]
      rcases (hmem y).mp hy with rfl | ⟨hy, hne⟩
      · rw [if_pos rfl, hstory, hid, h.stories x hx]
      · rw [if_neg fun e => hne e.symm, List.append_nil, h.stories y hy]
    · rw [events, List.mem_append, List.mem_singleton] at he
      rcases he with he | rfl
      · obtain ⟨y, hy, hye⟩ := h.strays e he
        obtain ⟨z, hz, hzy⟩ := hon y hy
        exact ⟨z, hz, hzy.trans hye⟩
      · exact ⟨x', (hmem x').mpr (Or.inl rfl), about.symm⟩

end Told

/-! ## What can be stored -/

/-- The columns of an event take it. -/
structure ShipmentEvent.Storable (event : ShipmentEvent) : Prop where
  type : event.eventType.length ≤ 40
  text : ∀ d ∈ event.description, NulFree d ∧ d.length ≤ 280
  time : InCalendar event.occurredAt

/-- The columns take what is written of a booking. -/
def ShipmentCreate.Storable (data : ShipmentCreate) (now : DateTime) : Prop :=
  NulFree data.carrier ∧ (∀ l ∈ data.serviceLevel, NulFree l) ∧ InCalendar now

/-- The columns take what is written when a shipment is picked up, apart from the
tracking number: the Order Service has to store that one first. -/
def ShipmentShip.Storable (data : ShipmentShip) (now : DateTime) : Prop :=
  (∀ c ∈ data.carrier, NulFree c) ∧ InCalendar (data.occurredAt.getD now)

def ShipmentDeliver.Storable (data : ShipmentDeliver) (now : DateTime) : Prop :=
  InCalendar (data.occurredAt.getD now)

instance (data : ShipmentCreate) (now : DateTime) : Decidable (data.Storable now) :=
  inferInstanceAs (Decidable (_ ∧ (∀ l ∈ data.serviceLevel, _) ∧ _))

instance (data : ShipmentShip) (now : DateTime) : Decidable (data.Storable now) :=
  inferInstanceAs (Decidable ((∀ c ∈ data.carrier, _) ∧ _))

instance (data : ShipmentDeliver) (now : DateTime) : Decidable (data.Storable now) :=
  inferInstanceAs (Decidable (InCalendar _))

section Writes

variable {env : Env} {now : DateTime} {s s' : Store} {x x' : Shipment} {principal : Principal}

theorem optionalColumn_eq_ok {column : String} {width : Nat} {text stored : Option String} :
    text.mapM (requestColumn column width) = .ok stored ↔
      text = stored ∧ ∀ t ∈ text, NulFree t ∧ t.length ≤ width :=
  option_mapM_eq_ok fun _ _ => requestColumn_eq_ok

theorem addEvent_eq_ok {event : ShipmentEvent} :
    s.addEvent event = .ok s' ↔
      event.Storable ∧ { s with events := s.events ++ [event] } = s' := by
  simp only [Store.addEvent, bind_eq_ok, textColumn_eq_ok, optionalColumn_eq_ok,
    timestampColumn_eq_ok, pure_eq_ok]
  constructor
  · rintro ⟨_, ⟨rfl, htype⟩, _, ⟨rfl, htext⟩, _, ⟨rfl, htime⟩, rfl⟩
    exact ⟨⟨htype, htext, htime⟩, rfl⟩
  · rintro ⟨⟨htype, htext, htime⟩, rfl⟩
    exact ⟨_, ⟨rfl, htype⟩, _, ⟨rfl, htext⟩, _, ⟨rfl, htime⟩, rfl⟩

theorem ownedShipment_ok {shipmentId : UUID} (h : ownedShipment s shipmentId principal = .ok x) :
    s.shipments.get? shipmentId = some x := by
  simp only [ownedShipment, bind_eq_ok, orRaise_eq_ok, pure_eq_ok] at h
  obtain ⟨_, hget, _, -, rfl⟩ := h
  exact hget

theorem shipRead_ok {shipmentId : UUID} (h : shipRead s shipmentId principal = .ok x) :
    s.shipments.get? shipmentId = some x ∧ x.status = .pending := by
  simp only [shipRead, bind_eq_ok, require_eq_ok, pure_eq_ok] at h
  obtain ⟨_, howned, _, hstatus, rfl⟩ := h
  exact ⟨ownedShipment_ok howned, hstatus⟩

theorem deliverRead_ok {shipmentId : UUID} (h : deliverRead s shipmentId principal = .ok x) :
    s.shipments.get? shipmentId = some x ∧ x.status = .shipped := by
  simp only [deliverRead, bind_eq_ok, require_eq_ok, pure_eq_ok] at h
  obtain ⟨_, howned, _, hstatus, rfl⟩ := h
  exact ⟨ownedShipment_ok howned, hstatus⟩

theorem createRead_none {data : ShipmentCreate} {key : ShipmentKey}
    (h : createRead env s data principal key = .ok none) :
    (∀ y ∈ s.shipments, y.orderId ≠ data.orderId) ∧
      ((s.idempotency.get? (principal.subject, key.text)).bind fun r => r.resourceId).bind
        s.shipments.get? = none := by
  simp only [createRead, bind_eq_ok, require_eq_ok] at h
  obtain ⟨_, -, h⟩ := h
  split at h
  · cases h
  next hnone =>
    simp only [bind_eq_ok, require_eq_ok] at h
    obtain ⟨_, hfree, -⟩ := h
    exact ⟨fun y hy => by simpa using List.find?_eq_none.mp hfree y hy, hnone⟩

/-- What a booking writes. -/
theorem createWrite_ok {data : ShipmentCreate} {key : ShipmentKey}
    (hread : createRead env s data principal key = .ok none)
    (hrun : createWrite env now s data principal key = .ok (s', x)) :
    s.Posts env s' ∧ (∀ y, y ∈ s'.shipments ↔ y ∈ s.shipments ∨ y = x) ∧
      x.orderId = data.orderId ∧ x.status = .pending ∧ x.Consistent ∧ data.Storable now := by
  have horder := (createRead_none hread).1
  simp only [createWrite, bind_eq_ok, requestColumn_eq_ok, optionalColumn_eq_ok, addEvent_eq_ok,
    Store.addShipment, Store.addIdempotencyRecord, require_eq_ok, orRaise_eq_ok, pure_eq_ok,
    Prod.mk.injEq] at hrun
  obtain ⟨_, ⟨rfl, hfree, hshort⟩, _, ⟨rfl, hlevel⟩, t, ⟨_, -, shipments, hins, rfl⟩, u,
    ⟨hevent, rfl⟩, v, ⟨idempotency, hrec, rfl⟩, rfl, rfl⟩ := hrun
  have hconsistent : Shipment.Consistent
      { id := env.uuid4.value s.drawn, orderId := data.orderId, sellerId := principal.subject
        carrier := data.carrier, serviceLevel := data.serviceLevel } :=
    ⟨rfl, fun h => (Bool.false_ne_true h).elim, rfl, ⟨hfree, hshort⟩, rfl⟩
  exact ⟨.booked _ _ _ rfl rfl hconsistent horder hins ⟨rfl, rfl⟩ rfl rfl hrec rfl,
    fun y => Table.mem_insert? hins, rfl, rfl, hconsistent, hfree, fun l hl => (hlevel l hl).1,
    hevent.time⟩

/-- A booking that found nothing in its way is written when its columns take it. -/
theorem createWrite_succeeds (h : Told env s) {data : ShipmentCreate} {key : ShipmentKey}
    (hread : createRead env s data principal key = .ok none) (hstorable : data.Storable now) :
    ∃ p, createWrite env now s data principal key = .ok p := by
  obtain ⟨hfree, hlevel, htime⟩ := hstorable
  obtain ⟨horder, hnone⟩ := createRead_none hread
  -- A record under the key would name a shipment that is there.
  have hkey : ∀ rec ∈ s.idempotency, rec.key ≠ (principal.subject, key.text) := by
    intro rec hrec hk
    obtain ⟨y, hy, hres⟩ := h.records rec hrec
    rw [← hk, Table.get?_key hrec, Option.bind_some, hres, Option.bind_some,
      Table.get?_key hy] at hnone
    cases hnone
  let x : Shipment :=
    { id := env.uuid4.value s.drawn, orderId := data.orderId, sellerId := principal.subject
      carrier := data.carrier, serviceLevel := data.serviceLevel }
  have hid : ∀ y ∈ s.shipments, y.id ≠ x.id := fun y hy he =>
    Supply.not_issued le_rfl (he ▸ h.issued y hy)
  obtain ⟨shipments, hins⟩ := Table.insert?_isSome hid
  let record : IdempotencyRecord :=
    ⟨principal.subject, key.text, env.requestHash data, "shipment", some x.id⟩
  obtain ⟨idempotency, hrec⟩ := Table.insert?_isSome (r := record) hkey
  have hshort : data.carrier.length ≤ 80 := data.carrier_valid.2
  have htext : NulFree ("Shipment booked with " ++ data.carrier) ∧
      ("Shipment booked with " ++ data.carrier).length ≤ 280 := by
    refine ⟨nulFree_append.mpr ⟨by decide, hfree⟩, ?_⟩
    rw [String.length_append]
    show 21 + data.carrier.length ≤ 280
    omega
  have hevent : ShipmentEvent.Storable
      ⟨x.id, "created", some ("Shipment booked with " ++ data.carrier), now⟩ :=
    ⟨show "created".length ≤ 40 by decide, fun d hd => Option.some.inj hd ▸ htext, htime⟩
  simp only [createWrite, bind_eq_ok, requestColumn_eq_ok, optionalColumn_eq_ok, addEvent_eq_ok,
    Store.addShipment, Store.addIdempotencyRecord, require_eq_ok, orRaise_eq_ok, pure_eq_ok]
  exact ⟨_, _, ⟨rfl, hfree, hshort⟩, _, ⟨rfl, fun l hl => ⟨hlevel l hl, data.level_valid l hl⟩⟩, _,
    ⟨(), horder, shipments, hins, rfl⟩, _, ⟨hevent, rfl⟩, _, ⟨idempotency, hrec, rfl⟩, rfl⟩

theorem put_addEvent (env : Env) {event : ShipmentEvent} (hget : s.shipments.get? x.id = some x)
    (hturn : x.Turns event.eventType x') (habout : event.shipmentId = x'.id)
    (hrun : (s.putShipment x').addEvent event = .ok s') :
    s.Posts env s' ∧ s'.shipments = s.shipments.put x' := by
  obtain ⟨-, rfl⟩ := addEvent_eq_ok.mp hrun
  exact ⟨.turned x x' event (hturn.same.1 ▸ hget) hturn habout rfl rfl rfl rfl, rfl⟩

theorem shipWrite_ok (env : Env) {data : ShipmentShip}
    (hget : s.shipments.get? x.id = some x) (hp : x.status = .pending)
    (hrun : shipWrite now s x data = .ok (s', x')) :
    s.Posts env s' ∧ s'.shipments = s.shipments.put x' ∧ x.Turns "shipped" x' ∧
      data.Storable now := by
  simp only [shipWrite, bind_eq_ok, requestColumn_eq_ok, timestampColumn_eq_ok, pure_eq_ok,
    Prod.mk.injEq] at hrun
  obtain ⟨_, ⟨rfl, htime⟩, _, ⟨rfl, -⟩, _, ⟨rfl, hcarrier⟩, t, hevent, rfl, rfl⟩ := hrun
  have hturn : x.Turns "shipped" _ := .shipped data.trackingNumber (data.carrier.getD x.carrier)
    (data.occurredAt.getD now) hp hcarrier
  obtain ⟨hposts, hput⟩ := put_addEvent env hget hturn rfl hevent
  refine ⟨hposts, hput, hturn, fun c hc => ?_, htime⟩
  rw [hc] at hcarrier
  exact hcarrier.1

/-- A shipment that can be shipped is. -/
theorem shipWrite_succeeds {data : ShipmentShip} (h : Told env s)
    (hget : s.shipments.get? x.id = some x) (htracking : NulFree data.trackingNumber)
    (hstorable : data.Storable now) : ∃ p, shipWrite now s x data = .ok p := by
  obtain ⟨hgiven, htime⟩ := hstorable
  have hshort : data.trackingNumber.length ≤ 160 := data.tracking_valid.2
  have hcarrier : NulFree (data.carrier.getD x.carrier) ∧
      (data.carrier.getD x.carrier).length ≤ 80 := by
    cases hc : data.carrier with
    | none => exact (h.consistent x (Table.mem_of_get? hget)).carrier
    | some c => exact ⟨hgiven c hc, (data.carrier_valid c hc).2⟩
  have htext : NulFree ("Picked up by " ++ data.carrier.getD x.carrier ++ ", tracking " ++
        data.trackingNumber) ∧
      ("Picked up by " ++ data.carrier.getD x.carrier ++ ", tracking " ++
        data.trackingNumber).length ≤ 280 := by
    constructor
    · simp only [nulFree_append]
      exact ⟨⟨⟨by decide, hcarrier.1⟩, by decide⟩, htracking⟩
    · rw [String.length_append, String.length_append, String.length_append]
      show 13 + (data.carrier.getD x.carrier).length + 11 + data.trackingNumber.length ≤ 280
      omega
  have hevent : ShipmentEvent.Storable ⟨x.id, "shipped", some ("Picked up by " ++
      data.carrier.getD x.carrier ++ ", tracking " ++ data.trackingNumber),
      data.occurredAt.getD now⟩ :=
    ⟨show "shipped".length ≤ 40 by decide, fun d hd => Option.some.inj hd ▸ htext, htime⟩
  simp only [shipWrite, bind_eq_ok, requestColumn_eq_ok, timestampColumn_eq_ok, addEvent_eq_ok,
    pure_eq_ok]
  exact ⟨_, _, ⟨rfl, htime⟩, _, ⟨rfl, htracking, hshort⟩, _, ⟨rfl, hcarrier⟩, _, ⟨hevent, rfl⟩, rfl⟩

theorem deliverWrite_ok (env : Env) {data : ShipmentDeliver}
    (hget : s.shipments.get? x.id = some x) (hp : x.status = .shipped)
    (hrun : deliverWrite now s x data = .ok (s', x')) :
    s.Posts env s' ∧ s'.shipments = s.shipments.put x' ∧ x.Turns "delivered" x' ∧
      data.Storable now := by
  simp only [deliverWrite, bind_eq_ok, timestampColumn_eq_ok, pure_eq_ok, Prod.mk.injEq] at hrun
  obtain ⟨_, ⟨rfl, htime⟩, t, hevent, rfl, rfl⟩ := hrun
  have hturn : x.Turns "delivered" _ := .delivered (data.occurredAt.getD now) hp
  obtain ⟨hposts, hput⟩ := put_addEvent env hget hturn rfl hevent
  exact ⟨hposts, hput, hturn, htime⟩

theorem deliverWrite_succeeds {data : ShipmentDeliver} (hstorable : data.Storable now) :
    ∃ p, deliverWrite now s x data = .ok p := by
  have hevent : ShipmentEvent.Storable
      ⟨x.id, "delivered", some "Delivered", data.occurredAt.getD now⟩ := by
    refine ⟨show "delivered".length ≤ 40 by decide, fun d hd => ?_, hstorable⟩
    rw [← Option.some.inj hd]
    decide
  simp only [deliverWrite, bind_eq_ok, timestampColumn_eq_ok, addEvent_eq_ok, pure_eq_ok]
  exact ⟨_, _, ⟨rfl, hstorable⟩, _, ⟨hevent, rfl⟩, rfl⟩

theorem recordException_posts (env : Env) {shipmentId : UUID} {data : ShipmentException}
    (hrun : recordException now s shipmentId data principal = .ok (s', x')) :
    s.Posts env s' ∧ ∃ old, s.shipments.get? shipmentId = some old ∧
      s'.shipments = s.shipments.put x' ∧ old.Turns "exception" x' := by
  simp only [recordException, bind_eq_ok, require_eq_ok, requestText_eq_ok, pure_eq_ok,
    Prod.mk.injEq] at hrun
  obtain ⟨old, howned, _, hactive, _, ⟨rfl, -⟩, t, hevent, rfl, rfl⟩ := hrun
  have hget := ownedShipment_ok howned
  obtain rfl : old.id = shipmentId := Table.key_of_get? hget
  have hturn : old.Turns "exception" _ := .failed data.reason hactive
  obtain ⟨hposts, hput⟩ := put_addEvent env hget hturn rfl hevent
  exact ⟨hposts, old, hget, hput, hturn⟩

end Writes

/-! ## Runs -/

section Run

variable {env : DepotEnv} {depot : Depot}

theorem finish_posts {call : Orders.Shop × Except ServiceError Unit}
    {write : Except Failure (Store × Shipment)}
    (h : ∀ s x, write = .ok (s, x) → depot.shipments.Posts env.shipments s) :
    depot.shipments.Posts env.shipments (finish depot call write).1.shipments := by
  obtain ⟨shop, _ | _⟩ := call
  · exact .nothing rfl
  · cases write with
    | error e => exact .nothing rfl
    | ok p => exact h p.1 p.2 rfl

/-- All that a request does to the shipments. -/
theorem step_posts (env : DepotEnv) (depot : Depot) (call : DateTime × Request) :
    depot.shipments.Posts env.shipments (step env depot call).shipments := by
  obtain ⟨now, req⟩ := call
  cases req with
  | shop request routed => exact .nothing rfl
  | createShipment data principal key connection =>
    simp only [step, createShipment]
    split
    · exact .nothing rfl
    · exact .nothing rfl
    next hread =>
      exact finish_posts fun s x hrun => (createWrite_ok hread hrun).1
  | ship shipmentId data principal connection =>
    simp only [step, ship]
    split
    · exact .nothing rfl
    next x hread =>
      refine finish_posts fun s y hrun => ?_
      obtain ⟨hget, hp⟩ := shipRead_ok hread
      obtain rfl : x.id = shipmentId := Table.key_of_get? hget
      exact (shipWrite_ok env.shipments hget hp hrun).1
  | deliver shipmentId data principal connection =>
    simp only [step, deliver]
    split
    · exact .nothing rfl
    next x hread =>
      refine finish_posts fun s y hrun => ?_
      obtain ⟨hget, hp⟩ := deliverRead_ok hread
      obtain rfl : x.id = shipmentId := Table.key_of_get? hget
      exact (deliverWrite_ok env.shipments hget hp hrun).1
  | recordException shipmentId data principal =>
    simp only [step]
    split
    next s x hrun => exact (recordException_posts env.shipments hrun).1
    · exact .nothing rfl

theorem Told.step (h : Told env.shipments depot.shipments) (call : DateTime × Request) :
    Told env.shipments (step env depot call).shipments := h.posts (step_posts env depot call)

end Run

theorem run_told (env : DepotEnv) (calls : List (DateTime × Request)) :
    Told env.shipments (run (step env) Depot.empty calls).shipments := by
  have hkeep : ∀ depot call, Told env.shipments depot.shipments →
      Told env.shipments (step env depot call).shipments := fun _ call h => h.step call
  exact run_keeps_all hkeep calls (.empty env.shipments)

/-- Each shipment's columns agree, no other shipment is for its order, and its
events are its story: whoever reads them gets just these, and gets them in the order
of the story, whatever the query returns, if and only if each event was given a
later time than the events before it in the story. -/
def Recorded (s : Store) : Prop :=
  ∀ x ∈ s.shipments, x.Consistent ∧ (∀ y ∈ s.shipments, y.orderId = x.orderId → y = x) ∧
    (∀ events, s.Reads x.id events → (events.map ShipmentEvent.eventType).Perm x.story) ∧
    ((∀ events, s.Reads x.id events → events.map ShipmentEvent.eventType = x.story) ↔
      ∀ e ∈ s.eventsOf x.id, ∀ f ∈ s.eventsOf x.id,
        [e.eventType, f.eventType].Sublist x.story → e.occurredAt < f.occurredAt)

/-- In every run, whatever becomes of the calls to the other services, the
shipments are recorded truthfully. -/
theorem shipments_recorded (env : DepotEnv) (calls : List (DateTime × Request)) :
    Recorded (run (step env) Depot.empty calls).shipments := by
  intro x hx
  have h := run_told env calls
  have hstory : ((run (step env) Depot.empty calls).shipments.eventsOf x.id).map
      ShipmentEvent.eventType = x.story := h.stories x hx
  refine ⟨h.consistent x hx, h.alone x hx, fun events hreads => ?_, ?_⟩
  · exact hstory ▸ hreads.complete.map ShipmentEvent.eventType
  · have hnodup := x.story_nodup
    rw [← hstory] at hnodup ⊢
    exact listing_in_order_iff hnodup

end Shipping
end Marketplace
