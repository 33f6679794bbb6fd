import Marketplace.Inventory.Explained

/-!
# Inventory: the life of a row

A reservation is made active, with its expiry ahead, and is closed at most once:
committed in time by someone entitled to it, released by someone entitled to it,
or expired when its time is up.  A group operation checks the caller against one
member only, and expires all members when one has expired; both are right because
the members of a group were made together.

No row is lost, and no version of a row ever names two contents.
-/

namespace Marketplace
namespace Inventory

open Base

/-! ## Versions -/

theorem Trail.items_evolve {s s' : Store} (h : Trail s s') :
    s.items.Evolves InventoryItem.version InventoryItem.origin s'.items := by
  induction h with
  | refl => exact .refl _
  | tail _ hstep ih =>
    obtain ⟨ms, hp⟩ := hstep
    exact ih.trans hp.items

theorem Trail.reservations_evolve {s s' : Store} (h : Trail s s') :
    s.reservations.Evolves InventoryReservation.version InventoryReservation.terms s'.reservations := by
  induction h with
  | refl => exact .refl _
  | tail _ hstep ih =>
    obtain ⟨ms, hp⟩ := hstep
    exact ih.trans hp.reservations

theorem step_inv (env : Env) (s : Store) (call : DateTime × Request) (h : Inv s) :
    Inv (step env s call) := (step_effect h call).refines.2

theorem run_inv (env : Env) {s : Store} (h : Inv s) (calls : List (DateTime × Request)) :
    Inv (run (step env) s calls) := run_keeps_all (step_inv env) calls h

theorem run_empty_inv (env : Env) (calls : List (DateTime × Request)) :
    Inv (run (step env) Store.empty calls) := run_inv env Balanced.empty calls

theorem run_items_evolve (env : Env) {s : Store} (h : Inv s) (calls : List (DateTime × Request)) :
    s.items.Evolves InventoryItem.version InventoryItem.origin (run (step env) s calls).items :=
  run_evolves (step_inv env) (fun _ call hs => (step_trail hs call).items_evolve) h calls

theorem run_reservations_evolve (env : Env) {s : Store} (h : Inv s)
    (calls : List (DateTime × Request)) :
    s.reservations.Evolves InventoryReservation.version InventoryReservation.terms
      (run (step env) s calls).reservations :=
  run_evolves (step_inv env) (fun _ call hs => (step_trail hs call).reservations_evolve) h calls

/-- Whatever happens between two states of a run, no item and no reservation is
lost, each is still about the same thing, and one that has changed has a higher
version. -/
theorem versions_identify (env : Env) (calls more : List (DateTime × Request)) :
    (run (step env) Store.empty calls).items.Evolves InventoryItem.version InventoryItem.origin
        (run (step env) Store.empty (calls ++ more)).items ∧
      (run (step env) Store.empty calls).reservations.Evolves InventoryReservation.version
        InventoryReservation.terms (run (step env) Store.empty (calls ++ more)).reservations := by
  have h := run_empty_inv env calls
  rw [run_append]
  exact ⟨run_items_evolve env h more, run_reservations_evolve env h more⟩

/-- An adjustment repeats an earlier one of its key, or changes the item that has the
version it states. -/
theorem adjustStock_cases {env : Env} {s s' : Store} {id : UUID} {data : StockAdjustment}
    {version : Nat} {principal : Principal} {key : Option String} {item : InventoryItem}
    (hrun : adjustStock env s id data version principal key = .ok (s', item)) :
    (s' = s ∧ item ∈ s.items ∧ ∃ record, s.idempotencyLookup principal.subject key
      (env.requestHash (.adjustStock id data version)) = .ok (some record)) ∨
    ∃ old, s.items.get? id = some old ∧ old.version = version ∧
      item = old.restock (old.onHandQuantity + data.quantityDelta) ∧
      s'.items = s.items.put item := by
  simp only [adjustStock, bind_eq_ok] at hrun
  obtain ⟨existing, hlookup, hrun⟩ := hrun
  split at hrun
  next found hfound =>
    simp only [pure_eq_ok, Prod.mk.injEq] at hrun
    obtain ⟨rfl, rfl⟩ := hrun
    obtain ⟨record, rfl, hget⟩ := Option.bind_eq_some_iff.mp hfound
    exact Or.inl ⟨rfl, Table.mem_of_get? hget, record, hlookup⟩
  · simp only [bind_eq_ok, checkVersion, require_eq_ok, Store.putItem_eq_ok, pure_eq_ok,
      Prod.mk.injEq] at hrun
    obtain ⟨old, hold, _, hversion, _, -, _, ⟨-, rfl⟩, t, ht, u, hu, rfl, rfl⟩ := hrun
    have hrec := (Store.recordIdempotency_recorded hu).of_same ((Store.movement_same ht).trans
      ((Store.event_same _ _ _).trans (Store.addLowStockEventIfNeeded_same _)))
    exact Or.inr ⟨old, managedItem_ok hold, hversion, rfl, hrec.items⟩

/-- An adjustment that states the version its sender read changes the item as the
sender read it, however long ago that was, unless it repeats one that has been made
already: then it changes nothing. -/
theorem adjustment_lands (env : Env) (calls more : List (DateTime × Request))
    {read item : InventoryItem} {s' : Store} {data : StockAdjustment} {principal : Principal}
    {key : Option String} (hread : read ∈ (run (step env) Store.empty calls).items)
    (hrun : adjustStock env (run (step env) Store.empty (calls ++ more)) read.id data read.version
      principal key = .ok (s', item)) :
    (s' = run (step env) Store.empty (calls ++ more) ∧ item ∈ s'.items ∧
      ∃ record, s'.idempotencyLookup principal.subject key
        (env.requestHash (.adjustStock read.id data read.version)) = .ok (some record)) ∨
    (item = read.restock (read.onHandQuantity + data.quantityDelta) ∧ item ∈ s'.items) := by
  have hevolves := run_items_evolve env (run_empty_inv env calls) more
  rw [← run_append] at hevolves
  rcases adjustStock_cases hrun with ⟨rfl, hitem, hrecord⟩ | ⟨old, hget, hversion, hnew, hitems⟩
  · exact Or.inl ⟨rfl, hitem, hrecord⟩
  · have hold : old ∈ (run (step env) Store.empty (calls ++ more)).items := Table.mem_of_get? hget
    have hread' : old = read :=
      hevolves.eq_of_version_le hread hold (Table.key_of_get? hget) hversion.le
    subst hread'
    refine Or.inr ⟨hnew, ?_⟩
    rw [hitems]
    exact Table.mem_put_self hold (by rw [hnew]; rfl)

def sampleMug : InventoryItem := ⟨1, 0, 900, 901, 700, "MUG", 5, 0, 0, true, 1⟩

/-- Three lamps are reserved in between. -/
def lampCall : DateTime × Request :=
  (1, .createReservation ⟨2, 3, none, none, by decide⟩ sampleBuyer none)

/-- The seller counts three more mugs than there were. -/
def recount : Except Failure (Store × InventoryItem) :=
  adjustStock sampleEnv (run (step sampleEnv) Store.empty (stockCalls ++ [lampCall])) sampleMug.id
    ⟨3, .cycleCount, none, none, none, by decide, by decide⟩ sampleMug.version sampleSeller
    (some "recount-1")

theorem recount_lands : ∃ s', recount = .ok (s', sampleMug.restock 8) := by
  have hread : sampleMug ∈ (run (step sampleEnv) Store.empty stockCalls).items.rows := by
    decide +kernel
  have hnew : ((run (step sampleEnv) Store.empty (stockCalls ++ [lampCall])).idempotencyLookup
      sampleSeller.subject (some "recount-1") "digest").toOption = some none := by decide +kernel
  obtain ⟨⟨s', item⟩, hrun⟩ := ok_of_toBool (show recount.toBool = true by decide +kernel)
  rcases adjustment_lands sampleEnv stockCalls [lampCall] hread hrun with
    ⟨rfl, -, record, hrecord⟩ | ⟨rfl, -⟩
  · cases (congrArg Except.toOption hrecord).symm.trans hnew
  · exact ⟨s', hrun⟩

/-! ## What can happen to a reservation -/

/-- The principal asks to commit a reservation or a group. -/
def Request.CommitsAs (p : Principal) : Request → Prop
  | .commitReservation _ _ principal | .commitReservationGroup _ principal => principal = p
  | _ => False

/-- The principal asks to release a reservation or a group. -/
def Request.ReleasesAs (p : Principal) : Request → Prop
  | .releaseReservation _ _ principal | .releaseReservationGroup _ _ principal => principal = p
  | _ => False

/-- What a request can make of a reservation. -/
inductive Lawful (call : DateTime × Request) (r : InventoryReservation) :
    InventoryReservation → Prop
  | kept : Lawful call r r
  | committed (orderReference : Option String) (p : Principal) (active : r.status = .active)
      (asked : call.2.CommitsAs p) (entitled : canResolve r.customerId p = true)
      (inTime : call.1 < r.expiresAt) : Lawful call r (commitAs orderReference r)
  | released (p : Principal) (active : r.status = .active) (asked : call.2.ReleasesAs p)
      (entitled : canResolve r.customerId p = true) : Lawful call r (closeAs .released r)
  | expired (active : r.status = .active) (late : r.expiresAt ≤ call.1) :
      Lawful call r (closeAs .expired r)

/-- A reservation that a request has made. -/
def Made (env : Env) (now : DateTime) (r : InventoryReservation) : Prop :=
  r.status = .active ∧ now < r.expiresAt ∧
    r.expiresAt ≤ now + minutes env.settings.maxReservationMinutes

/-- Every reservation there was is as the request may leave it, and every other
one was made by the request. -/
def LawfulStep (env : Env) (call : DateTime × Request) (s s' : Store) : Prop :=
  (∀ r ∈ s.reservations, ∃ r' ∈ s'.reservations, r'.id = r.id ∧ Lawful call r r') ∧
    ∀ r' ∈ s'.reservations, (∃ r ∈ s.reservations, r.id = r'.id) ∨ Made env call.1 r'

section Lawful

variable {env : Env} {s s' : Store} {call : DateTime × Request} {r : InventoryReservation}

theorem LawfulStep.of_same (h : s'.reservations = s.reservations) : LawfulStep env call s s' := by
  refine ⟨fun r hr => ⟨r, h ▸ hr, rfl, .kept⟩, fun r hr => Or.inl ⟨r, h ▸ hr, rfl⟩⟩

/-- Closing reservations is lawful when each of them may be closed so. -/
theorem LawfulStep.of_closed {close : InventoryReservation → InventoryReservation}
    {l : List InventoryReservation} (hc : ClosedAll close l s s')
    (hlawful : ∀ r ∈ l, Lawful call r (close r)) : LawfulStep env call s s' := by
  constructor
  · intro r hr
    by_cases hmem : ∃ x ∈ l, x.id = r.id
    · obtain ⟨x, hx, hid⟩ := hmem
      have hxr : x = r := Table.eq_of_key_eq (Table.mem_of_get? (hc.opened x hx).1) hr hid
      refine ⟨close r, ?_, ?_, hlawful r (hxr ▸ hx)⟩
      · exact Table.mem_of_get? (hc.closed r (hxr ▸ hx))
      · exact (hc.closes r (hxr ▸ hx)).id
    · have hne : ∀ x ∈ l, x.id ≠ r.id := fun x hx e => hmem ⟨x, hx, e⟩
      have hget := (hc.other r.id hne).trans (Table.get?_key hr)
      exact ⟨r, Table.mem_of_get? hget, rfl, .kept⟩
  · intro r' hr'
    rcases hc.mem hr' with ⟨r, hr, rfl⟩ | ⟨hr, -⟩
    · exact Or.inl ⟨r, Table.mem_of_get? (hc.opened r hr).1, (hc.closes r hr).id.symm⟩
    · exact Or.inl ⟨r', hr, rfl⟩

theorem LawfulStep.of_added {new : List InventoryReservation}
    (hmem : ∀ x, x ∈ s'.reservations ↔ x ∈ s.reservations ∨ x ∈ new)
    (hmade : ∀ r ∈ new, Made env call.1 r) : LawfulStep env call s s' := by
  refine ⟨fun r hr => ⟨r, (hmem r).mpr (Or.inl hr), rfl, .kept⟩, fun r' hr' => ?_⟩
  rcases (hmem r').mp hr' with hr | hr
  · exact Or.inl ⟨r', hr, rfl⟩
  · exact Or.inr (hmade r' hr)

end Lawful

/-! ## The members of a group -/

/-- The members of a group belong to one customer and expire together. -/
def Together (s : Store) : Prop :=
  ∀ r ∈ s.reservations, ∀ x ∈ s.reservations, r.reservationGroupId ≠ none →
    x.reservationGroupId = r.reservationGroupId →
      x.customerId = r.customerId ∧ x.expiresAt = r.expiresAt

section Together

variable {env : Env} {s s' : Store}

theorem Together.empty : Together Store.empty := fun _ hr => absurd hr (Table.not_mem_empty _)

theorem Together.of_same (h : Together s) (hrs : s'.reservations = s.reservations) :
    Together s' := by
  intro r hr x hx
  rw [hrs] at hr hx
  exact h r hr x hx

theorem Together.closed (h : Together s) {close : InventoryReservation → InventoryReservation}
    {l : List InventoryReservation} (hc : ClosedAll close l s s') : Together s' := by
  have hback : ∀ r' ∈ s'.reservations, ∃ r ∈ s.reservations,
      r'.reservationGroupId = r.reservationGroupId ∧ r'.customerId = r.customerId ∧
        r'.expiresAt = r.expiresAt := by
    intro r' hr'
    rcases hc.mem hr' with ⟨r, hr, rfl⟩ | ⟨hr, -⟩
    · have hclose := hc.closes r hr
      exact ⟨r, Table.mem_of_get? (hc.opened r hr).1, hclose.group, hclose.customer, hclose.expiry⟩
    · exact ⟨r', hr, rfl, rfl, rfl⟩
  intro r' hr' x' hx' hsome hgroup
  obtain ⟨r, hr, hg, hcust, hexp⟩ := hback r' hr'
  obtain ⟨x, hx, hxg, hxcust, hxexp⟩ := hback x' hx'
  obtain ⟨hsame, hsame'⟩ := h r hr x hx (hg ▸ hsome) (hxg ▸ hg ▸ hgroup)
  exact ⟨(hxcust.trans hsame).trans hcust.symm, (hxexp.trans hsame').trans hexp.symm⟩

/-- Reservations of a group that did not exist, made together. -/
theorem Together.added (h : Together s) {new : List InventoryReservation}
    (hmem : ∀ x, x ∈ s'.reservations ↔ x ∈ s.reservations ∨ x ∈ new)
    (hfresh : ∀ r ∈ new, r.reservationGroupId ≠ none →
      ∀ x ∈ s.reservations, x.reservationGroupId ≠ r.reservationGroupId)
    (hnew : ∀ r ∈ new, ∀ x ∈ new, r.reservationGroupId ≠ none →
      x.customerId = r.customerId ∧ x.expiresAt = r.expiresAt) : Together s' := by
  intro r hr x hx hsome hgroup
  rcases (hmem r).mp hr with hr | hr
  · rcases (hmem x).mp hx with hx | hx
    · exact h r hr x hx hsome hgroup
    · exact absurd hgroup.symm (hfresh x hx (hgroup ▸ hsome) r hr)
  · rcases (hmem x).mp hx with hx | hx
    · exact absurd hgroup (hfresh r hr hsome x hx)
    · exact hnew r hr x hx hsome

end Together

/-! ## Every step is lawful -/

section Step

variable {env : Env} {now : DateTime} {s s' : Store} {principal : Principal}

theorem reservationExpiry_ok {asked : Option DateTime} {e : DateTime}
    (h : reservationExpiry env now asked = .ok e) :
    now < e ∧ e ≤ now + minutes env.settings.maxReservationMinutes := by
  simp only [reservationExpiry, bind_eq_ok, require_eq_ok, pure_eq_ok] at h
  obtain ⟨_, hfuture, _, hmax, rfl⟩ := h
  exact ⟨hfuture, hmax⟩

theorem createReservation_made {data : ReservationCreate} {key : Option String}
    {r : InventoryReservation}
    (hrun : createReservation env now s data principal key = .ok (s', r)) :
    s' = s ∨ Made env now r := by
  simp only [createReservation, bind_eq_ok] at hrun
  obtain ⟨_, -, hrun⟩ := hrun
  split at hrun
  · simp only [pure_eq_ok, Prod.mk.injEq] at hrun
    exact Or.inl hrun.1.symm
  · simp only [bind_eq_ok, pure_eq_ok, Prod.mk.injEq] at hrun
    obtain ⟨_, -, _, -, _, -, e, he, _, -, _, -, _, -, _, -, -, rfl⟩ := hrun
    exact Or.inr ⟨rfl, reservationExpiry_ok he⟩

theorem createBatchReservation_expiry {data : BatchReservationCreate} {key : Option String}
    {g : UUID} {rs : List InventoryReservation} (h : Inv s)
    (hrun : createBatchReservation env now s data principal key = .ok (s', g, rs)) :
    s' = s ∨ ∃ e, now < e ∧ e ≤ now + minutes env.settings.maxReservationMinutes ∧
      ∀ r ∈ rs, r.expiresAt = e := by
  simp only [createBatchReservation, bind_eq_ok] at hrun
  obtain ⟨_, -, hrun⟩ := hrun
  split at hrun
  · simp only [pure_eq_ok, Prod.mk.injEq] at hrun
    exact Or.inl hrun.1.symm
  · simp only [Store.draw, bind_eq_ok, pure_eq_ok, Prod.mk.injEq] at hrun
    obtain ⟨e, he, ⟨t, made⟩, hlines, _, -, _, -, -, -, rfl⟩ := hrun
    have hdrew : Inv { s with drawn := s.drawn + 1 } := h
    obtain ⟨_, rfl, -, hmeets⟩ := reserveLines_added hdrew hlines
    obtain ⟨hfuture, hmax⟩ := reservationExpiry_ok he
    exact Or.inr ⟨e, hfuture, hmax, fun r hr => (hmeets r hr).2.2⟩

/-- A batch adds a group of its own: lawful, and made together. -/
theorem createBatchReservation_lawful (h : Sane env s) (ht : Together s)
    {data : BatchReservationCreate} {key : Option String} {g : UUID}
    {rs : List InventoryReservation} {req : Request}
    (hrun : createBatchReservation env now s data principal key = .ok (s', g, rs)) :
    LawfulStep env (now, req) s s' ∧ Together s' := by
  have hsame : s' = s → LawfulStep env (now, req) s s' ∧ Together s' := by
    rintro rfl
    exact ⟨.of_same rfl, ht⟩
  rcases createBatchReservation_expiry h.inv hrun with heq | ⟨e, hfuture, hmax, hexp⟩
  · exact hsame heq
  obtain ⟨-, ⟨heq, -⟩ | ⟨rfl, -, ⟨_, hnew⟩, hmem, -⟩⟩ := createBatchReservation_effect h.inv hrun
  · exact hsame heq
  constructor
  · refine .of_added hmem fun r hr => ⟨(hnew r hr).2.2.2, ?_, ?_⟩
    · rw [hexp r hr]
      exact hfuture
    · rw [hexp r hr]
      exact hmax
  · refine ht.added hmem ?_ ?_
    · intro r hr _ x hx hgroup
      exact Supply.not_issued le_rfl (h.ids.groups x hx _ (hgroup.trans (hnew r hr).2.1))
    · intro r hr x hx _
      exact ⟨(hnew x hx).1.trans (hnew r hr).1.symm, (hexp x hx).trans (hexp r hr).symm⟩

/-- Whoever may resolve one member of a group may resolve them all. -/
theorem Together.entitled (h : Together s) {g : UUID} {rs : List InventoryReservation}
    (hlock : lockedGroup s g principal = .ok rs) :
    ∀ r ∈ s.listReservationsByGroup g, canResolve r.customerId principal = true := by
  obtain ⟨rfl, x, hx, hcan⟩ := lockedGroup_ok hlock
  obtain ⟨hx, hxg⟩ := Store.mem_listReservationsByGroup.mp hx
  intro r hr
  obtain ⟨hr, hrg⟩ := Store.mem_listReservationsByGroup.mp hr
  rw [(h x hx r hr (by rw [hxg]; exact Option.some_ne_none g) (hrg.trans hxg.symm)).1]
  exact hcan

/-- When one member of a group is late, they all are. -/
theorem Together.late (h : Together s) {g : UUID} (hexp : GroupExpired s g now) :
    ∀ r ∈ s.listReservationsByGroup g, r.expiresAt ≤ now := by
  obtain ⟨x, hx, hxg, hlate⟩ := hexp
  intro r hr
  obtain ⟨hr, hrg⟩ := Store.mem_listReservationsByGroup.mp hr
  rw [(h x hx r hr (by rw [hxg]; exact Option.some_ne_none g) (hrg.trans hxg.symm)).2]
  exact hlate

theorem commitReservationGroup_lawful (h : Inv s) (ht : Together s) {g : UUID}
    {a : Except ServiceError (List InventoryReservation)}
    (hrun : commitReservationGroup now s g principal = .ok (s', a)) :
    LawfulStep env (now, .commitReservationGroup g principal) s s' ∧ Together s' := by
  have hcan : ∀ r ∈ s.listReservationsByGroup g, canResolve r.customerId principal = true := by
    have hlocked := hrun
    rw [commitReservationGroup, bind_eq_ok] at hlocked
    obtain ⟨_, hlock, -⟩ := hlocked
    exact ht.entitled hlock
  rcases commitReservationGroup_ok h hrun with
    ⟨-, rfl, -⟩ | ⟨-, hexp, -, hc⟩ | ⟨-, hexp, -, hc⟩
  · exact ⟨.of_same rfl, ht⟩
  · exact ⟨.of_closed hc fun r hr => .expired (hc.opened r hr).2 (ht.late hexp r hr), ht.closed hc⟩
  · refine ⟨.of_closed hc fun r hr => ?_, ht.closed hc⟩
    obtain ⟨hmem, hg⟩ := Store.mem_listReservationsByGroup.mp hr
    exact .committed r.orderReference principal (hc.opened r hr).2 rfl (hcan r hr)
      (not_le.mp fun hle => hexp ⟨r, hmem, hg, hle⟩)

theorem releaseReservationGroup_lawful (h : Inv s) (ht : Together s) {g : UUID}
    {data : ReservationRelease} {a : List InventoryReservation}
    (hrun : releaseReservationGroup s g data.reason data.note principal = .ok (s', a)) :
    LawfulStep env (now, .releaseReservationGroup g data principal) s s' ∧ Together s' := by
  have hcan : ∀ r ∈ s.listReservationsByGroup g, canResolve r.customerId principal = true := by
    have hlocked := hrun
    rw [releaseReservationGroup, bind_eq_ok] at hlocked
    obtain ⟨_, hlock, -⟩ := hlocked
    exact ht.entitled hlock
  rcases releaseReservationGroup_ok h hrun with ⟨-, rfl⟩ | ⟨-, hc⟩
  · exact ⟨.of_same rfl, ht⟩
  · exact ⟨.of_closed hc fun r hr => .released principal (hc.opened r hr).2 rfl (hcan r hr),
      ht.closed hc⟩

/-- What one request does to the reservations. -/
theorem execute_lawful (h : Sane env s) (ht : Together s) (req : Request)
    (hrun : execute env now s req = .ok s') :
    LawfulStep env (now, req) s s' ∧ Together s' := by
  have hsame : req.StockKeeping → LawfulStep env (now, req) s s' ∧ Together s' := fun hkeep =>
    have heq := execute_stockKeeping h.inv hkeep hrun
    ⟨.of_same heq, ht.of_same heq⟩
  cases req with
  | createWarehouse _ => exact hsame trivial
  | updateWarehouse _ _ _ => exact hsame trivial
  | syncCatalogSku _ => exact hsame trivial
  | createItem _ _ _ => exact hsame trivial
  | updateItem _ _ _ _ => exact hsame trivial
  | adjustStock _ _ _ _ _ => exact hsame trivial
  | createReservation _ _ _ =>
    obtain ⟨r, hrun⟩ := fst_map_eq_ok.mp hrun
    rcases createReservation_made hrun with rfl | hmade
    · exact ⟨.of_same rfl, ht⟩
    obtain ⟨-, heq | ⟨hnone, hmem⟩⟩ := createReservation_effect h.inv hrun
    · exact ⟨.of_same heq, ht.of_same heq⟩
    · have hone : ∀ x, x ∈ s'.reservations ↔ x ∈ s.reservations ∨ x ∈ [r] := by
        simpa only [List.mem_singleton] using hmem
      refine ⟨.of_added hone fun x hx => List.mem_singleton.mp hx ▸ hmade, ht.added hone ?_ ?_⟩
      · intro x hx hsome
        exact absurd (List.mem_singleton.mp hx ▸ hnone) hsome
      · intro x hx _ _ hsome
        exact absurd (List.mem_singleton.mp hx ▸ hnone) hsome
  | createBatchReservation _ _ _ =>
    obtain ⟨⟨g, rs⟩, hrun⟩ := fst_map_eq_ok.mp hrun
    exact createBatchReservation_lawful h ht hrun
  | commitReservation id data principal =>
    obtain ⟨a, hrun⟩ := fst_map_eq_ok.mp hrun
    obtain ⟨r, -, hcan, ho, ⟨hlate, hc⟩ | ⟨hinTime, hc⟩⟩ := commitReservation_closes h.inv hrun
    · refine ⟨.of_closed hc fun x hx => ?_, ht.closed hc⟩
      rw [List.mem_singleton.mp hx]
      exact .expired ho.2 hlate
    · refine ⟨.of_closed hc fun x hx => ?_, ht.closed hc⟩
      rw [List.mem_singleton.mp hx]
      exact .committed (some data.orderReference) principal ho.2 rfl hcan hinTime
  | releaseReservation id data principal =>
    obtain ⟨a, hrun⟩ := fst_map_eq_ok.mp hrun
    obtain ⟨r, -, hcan, ho, hc⟩ := releaseReservation_effect h.inv hrun
    refine ⟨.of_closed hc fun x hx => ?_, ht.closed hc⟩
    rw [List.mem_singleton.mp hx]
    exact .released principal ho.2 rfl hcan
  | commitReservationGroup _ _ =>
    obtain ⟨a, hrun⟩ := fst_map_eq_ok.mp hrun
    exact commitReservationGroup_lawful h.inv ht hrun
  | releaseReservationGroup _ _ _ =>
    obtain ⟨a, hrun⟩ := fst_map_eq_ok.mp hrun
    exact releaseReservationGroup_lawful h.inv ht hrun
  | expireReservations principal limit tie =>
    obtain rfl := Except.ok.inj hrun
    have hc := expireReservations_effect h.inv now principal limit tie
    refine ⟨.of_closed hc fun r hr => ?_, ht.closed hc⟩
    obtain ⟨-, hactive, hlate⟩ := Store.mem_listExpiredActive hr
    exact .expired hactive hlate

theorem step_lawful (h : Sane env s) (ht : Together s) (call : DateTime × Request) :
    LawfulStep env call s (step env s call) ∧ Together (step env s call) := by
  unfold step
  split
  next s' hrun => exact execute_lawful h ht call.2 hrun
  · exact ⟨.of_same rfl, ht⟩

end Step

theorem run_together (env : Env) (calls : List (DateTime × Request)) :
    Sane env (run (step env) Store.empty calls) ∧ Together (run (step env) Store.empty calls) := by
  have hkeep : ∀ s call, (Sane env s ∧ Together s) →
      Sane env (step env s call) ∧ Together (step env s call) :=
    fun s call h => ⟨h.1.step call, (step_lawful h.1 h.2 call).2⟩
  exact run_keeps_all hkeep calls ⟨.empty env, .empty⟩

/-- Whatever has happened before, a request makes reservations inside the
configured window and closes active ones only: as committed before their expiry
and for someone who may, as released for someone who may, as expired when their
time is up.  This holds of every member of a group, although the operations check
one. -/
theorem reservation_lifecycle (env : Env) (calls : List (DateTime × Request))
    (call : DateTime × Request) :
    LawfulStep env call (run (step env) Store.empty calls)
      (step env (run (step env) Store.empty calls) call) :=
  (step_lawful (run_together env calls).1 (run_together env calls).2 call).1

end Inventory
end Marketplace
