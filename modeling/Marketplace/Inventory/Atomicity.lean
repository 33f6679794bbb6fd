import Marketplace.Inventory.Identifiers

/-!
# Inventory: when a group stays whole

The group operations close all members of a group or none.  The endpoints for a
single reservation look at no group, and the sweep stops at its limit, so both
can close part of one.  `GroupSafe` is the condition under which a step does
not, and `group_atomicity` says that it is exact: a run keeps every group whole
if and only if each of its steps meets it.
-/

namespace Marketplace
namespace Inventory

open Base

/-- All reservations of a group have the same status. -/
def Uniform (s : Store) : Prop :=
  ∀ r ∈ s.reservations.rows, ∀ x ∈ s.reservations.rows, r.reservationGroupId ≠ none →
    x.reservationGroupId = r.reservationGroupId → x.status = r.status

instance (s : Store) : Decidable (Uniform s) := inferInstanceAs (Decidable (∀ _ ∈ _, _))

/-- `x` is in the group of `r`. -/
def GroupMate (r x : InventoryReservation) : Prop :=
  r.reservationGroupId ≠ none ∧ x.reservationGroupId = r.reservationGroupId

/-- With a reservation, the list holds every stored reservation of its group. -/
def WholeGroups (s : Store) (l : List InventoryReservation) : Prop :=
  ∀ r ∈ l, ∀ x ∈ s.reservations.rows, GroupMate r x → x ∈ l

/-- A step on a single reservation acts only on one that makes up its group
alone, and a sweep selects only whole groups. -/
def GroupSafe (s : Store) (call : DateTime × Request) : Prop :=
  match call.2 with
  | .commitReservation id _ principal =>
    ∀ r, Open s r → r.id = id → canResolve r.customerId principal = true → WholeGroups s [r]
  | .releaseReservation id _ principal =>
    ∀ r, Open s r → r.id = id → canResolve r.customerId principal = true → WholeGroups s [r]
  | .expireReservations _ limit tie => WholeGroups s (s.listExpiredActive call.1 limit tie)
  | _ => True

section Closing

variable {close : InventoryReservation → InventoryReservation} {target : ReservationStatus}
  {l : List InventoryReservation} {s s' : Store}

/-- Closing reservations alike keeps groups whole exactly when it closes whole
groups. -/
theorem uniform_closed_iff (hu : Uniform s) (hc : ClosedAll close l s s')
    (hst : ∀ r ∈ l, (close r).status = target) : Uniform s' ↔ WholeGroups s l := by
  constructor
  · intro hu' r hr x hx ⟨hne, hg⟩
    by_contra hxl
    have hmem : r ∈ s.reservations := Table.mem_of_get? (hc.opened r hr).1
    have hx' : x ∈ s'.reservations := by
      refine Table.mem_of_get? ((hc.other x.id fun y hy e => hxl ?_).trans (Table.get?_key hx))
      rwa [← Table.eq_of_key_eq (Table.mem_of_get? (hc.opened y hy).1) hx e]
    have hr' : close r ∈ s'.reservations := Table.mem_of_get? (hc.closed r hr)
    have hclosed := hc.closes r hr
    have hsame : x.status = (close r).status := by
      refine hu' (close r) hr' x hx' ?_ ?_
      · rw [hclosed.group]
        exact hne
      · rw [hclosed.group]
        exact hg
    have hactive : x.status = .active := (hu r hmem x hx hne hg).trans (hc.opened r hr).2
    exact hclosed.status (hsame.symm.trans hactive)
  · intro hw r hr x hx hne hg
    have hback : ∀ y ∈ l, (close y).reservationGroupId = y.reservationGroupId :=
      fun y hy => (hc.closes y hy).group
    rcases hc.mem hr with ⟨y, hy, rfl⟩ | ⟨hr, hrl⟩ <;>
      rcases hc.mem hx with ⟨z, hz, rfl⟩ | ⟨hx, hxl⟩
    · rw [hst y hy, hst z hz]
    · rw [hback y hy] at hne hg
      exact absurd rfl (hxl x (hw y hy x hx ⟨hne, hg⟩))
    · rw [hback z hz] at hg
      exact absurd rfl (hrl r (hw z hz r hr ⟨hg ▸ hne, hg.symm⟩))
    · exact hu r hr x hx hne hg

theorem wholeGroups_group (g : UUID) : WholeGroups s (s.listReservationsByGroup g) := by
  rintro r hr x hx ⟨-, hg⟩
  have hrg := (Store.mem_listReservationsByGroup.mp hr).2
  exact Store.mem_listReservationsByGroup.mpr ⟨hx, hg.trans hrg⟩

end Closing

section Step

variable {env : Env} {now : DateTime} {s s' : Store} {principal : Principal}

theorem uniform_of_same (hu : Uniform s) (h : s'.reservations = s.reservations) : Uniform s' := by
  unfold Uniform
  rw [h]
  exact hu

/-- A new group does not meet an old one. -/
theorem uniform_batch (h : Sane env s) (hu : Uniform s) {data : BatchReservationCreate}
    {key : Option String} {g : UUID} {rs : List InventoryReservation}
    (hrun : createBatchReservation env now s data principal key = .ok (s', g, rs)) :
    Uniform s' := by
  obtain ⟨-, ⟨rfl, -⟩ | ⟨rfl, -, ⟨e, hnew⟩, hmem, -⟩⟩ := createBatchReservation_effect h.inv hrun
  · exact hu
  have hfresh : ∀ r ∈ s.reservations, r.reservationGroupId ≠ some (env.uuid4.value s.drawn) :=
    fun r hr hg => Supply.not_issued le_rfl (h.ids.groups r hr _ hg)
  intro r hr x hx hne hg
  rcases (hmem r).mp hr with hr | hr <;> rcases (hmem x).mp hx with hx | hx
  · exact hu r hr x hx hne hg
  · exact absurd (hg.symm.trans (hnew x hx).2.1) (hfresh r hr)
  · exact absurd (hg.trans (hnew r hr).2.1) (hfresh x hx)
  · rw [(hnew x hx).2.2.2, (hnew r hr).2.2.2]

theorem uniform_commitGroup (h : Inv s) (hu : Uniform s) {g : UUID}
    {a : Except ServiceError (List InventoryReservation)}
    (hrun : commitReservationGroup now s g principal = .ok (s', a)) : Uniform s' := by
  rcases commitReservationGroup_ok h hrun with ⟨-, rfl, -⟩ | ⟨-, -, -, hc⟩ | ⟨-, -, -, hc⟩
  · exact hu
  · exact (uniform_closed_iff hu hc fun _ _ => rfl).mpr (wholeGroups_group g)
  · exact (uniform_closed_iff hu hc fun _ _ => rfl).mpr (wholeGroups_group g)

theorem uniform_releaseGroup (h : Inv s) (hu : Uniform s) {g : UUID} {reason : MovementReason}
    {note : Option String} {a : List InventoryReservation}
    (hrun : releaseReservationGroup s g reason note principal = .ok (s', a)) : Uniform s' := by
  rcases releaseReservationGroup_ok h hrun with ⟨-, rfl⟩ | ⟨-, hc⟩
  · exact hu
  · exact (uniform_closed_iff hu hc fun _ _ => rfl).mpr (wholeGroups_group g)

theorem step_of_ok {call : DateTime × Request} (h : execute env call.1 s call.2 = .ok s') :
    step env s call = s' := by
  rw [step, h]

theorem step_of_error {call : DateTime × Request} {e : Failure}
    (h : execute env call.1 s call.2 = .error e) : step env s call = s := by
  rw [step, h]

/-- What is left to show for a step whose condition is `True`. -/
theorem uniform_step_of_ok (hu : Uniform s) {call : DateTime × Request}
    (h : ∀ s', execute env call.1 s call.2 = .ok s' → Uniform s') : Uniform (step env s call) := by
  cases hrun : execute env call.1 s call.2 with
  | error e => rw [step_of_error hrun]; exact hu
  | ok s' => rw [step_of_ok hrun]; exact h s' hrun

theorem open_unique {r r' : InventoryReservation} (h : Open s r) (h' : Open s r')
    (hid : r'.id = r.id) : r' = r :=
  Option.some.inj (h'.1.symm.trans (hid ▸ h.1))

theorem uniform_commit_iff (h : Inv s) (hu : Uniform s) (now : DateTime) (id : UUID)
    (data : ReservationCommit) (principal : Principal) :
    Uniform (step env s (now, .commitReservation id data principal)) ↔
      GroupSafe s (now, .commitReservation id data principal) := by
  cases hrun : commitReservation now s id data.orderReference principal with
  | error e =>
    rw [step_of_error (show execute env now s (.commitReservation id data principal) = .error e by
      rw [execute, hrun]; rfl)]
    refine ⟨fun _ r ho hid hcan => ?_, fun _ => hu⟩
    obtain ⟨s', a, hok⟩ := commitReservation_succeeds h ho hcan data.orderReference
    rw [hid, hrun] at hok
    cases hok
  | ok p =>
    obtain ⟨s', a⟩ := p
    rw [step_of_ok (show execute env now s (.commitReservation id data principal) = .ok s' by
      rw [execute, hrun]; rfl)]
    obtain ⟨r, hid, hcan, ho, hc⟩ := commitReservation_effect h hrun
    have hiff : Uniform s' ↔ WholeGroups s [r] :=
      hc.elim (fun hc => uniform_closed_iff hu hc fun _ _ => rfl)
        (fun hc => uniform_closed_iff hu hc fun _ _ => rfl)
    refine hiff.trans ⟨fun hw r' ho' hid' _ => ?_, fun hsafe => hsafe r ho hid hcan⟩
    rw [open_unique ho ho' (hid'.trans hid.symm)]
    exact hw

theorem uniform_release_iff (h : Inv s) (hu : Uniform s) (now : DateTime) (id : UUID)
    (data : ReservationRelease) (principal : Principal) :
    Uniform (step env s (now, .releaseReservation id data principal)) ↔
      GroupSafe s (now, .releaseReservation id data principal) := by
  cases hrun : releaseReservation s id data.reason data.note principal with
  | error e =>
    rw [step_of_error (show execute env now s (.releaseReservation id data principal) =
      .error e by rw [execute, hrun]; rfl)]
    refine ⟨fun _ r ho hid hcan => ?_, fun _ => hu⟩
    obtain ⟨s', a, hok⟩ := releaseReservation_succeeds h ho hcan data.reason data.note
    rw [hid, hrun] at hok
    cases hok
  | ok p =>
    obtain ⟨s', a⟩ := p
    rw [step_of_ok (show execute env now s (.releaseReservation id data principal) =
      .ok s' by rw [execute, hrun]; rfl)]
    obtain ⟨r, hid, hcan, ho, hc⟩ := releaseReservation_effect h hrun
    have hiff : Uniform s' ↔ WholeGroups s [r] := uniform_closed_iff hu hc fun _ _ => rfl
    refine hiff.trans ⟨fun hw r' ho' hid' _ => ?_, fun hsafe => hsafe r ho hid hcan⟩
    rw [open_unique ho ho' (hid'.trans hid.symm)]
    exact hw

/-- A step keeps the groups whole if and only if it meets the condition. -/
theorem uniform_step_iff (h : Sane env s) (hu : Uniform s) (call : DateTime × Request) :
    Uniform (step env s call) ↔ GroupSafe s call := by
  obtain ⟨now, req⟩ := call
  have hquiet : (∀ s', execute env now s req = .ok s' → Uniform s') →
      GroupSafe s (now, req) → (Uniform (step env s (now, req)) ↔ GroupSafe s (now, req)) :=
    fun hok hsafe => iff_of_true (uniform_step_of_ok hu hok) hsafe
  have hsame : req.StockKeeping →
      GroupSafe s (now, req) → (Uniform (step env s (now, req)) ↔ GroupSafe s (now, req)) :=
    fun hkeep => hquiet fun s' hrun => uniform_of_same hu (execute_stockKeeping h.inv hkeep hrun)
  cases req with
  | createWarehouse _ => exact hsame trivial trivial
  | updateWarehouse _ _ _ => exact hsame trivial trivial
  | syncCatalogSku _ => exact hsame trivial trivial
  | createItem _ _ _ => exact hsame trivial trivial
  | updateItem _ _ _ _ => exact hsame trivial trivial
  | adjustStock _ _ _ _ _ => exact hsame trivial trivial
  | createReservation _ _ _ =>
    refine hquiet (fun s' hrun => ?_) trivial
    obtain ⟨a, hrun⟩ := fst_map_eq_ok.mp hrun
    obtain ⟨-, hsame | ⟨hnone, hmem⟩⟩ := createReservation_effect h.inv hrun
    · exact uniform_of_same hu hsame
    · intro r hr x hx hne hg
      rcases (hmem r).mp hr with hr | rfl
      · rcases (hmem x).mp hx with hx | rfl
        · exact hu r hr x hx hne hg
        · exact absurd (hg.symm.trans hnone) hne
      · exact absurd hnone hne
  | createBatchReservation _ _ _ =>
    refine hquiet (fun s' hrun => ?_) trivial
    obtain ⟨⟨g, rs⟩, hrun⟩ := fst_map_eq_ok.mp hrun
    exact uniform_batch h hu hrun
  | commitReservation id data principal => exact uniform_commit_iff h.inv hu now id data principal
  | releaseReservation id data principal =>
    exact uniform_release_iff h.inv hu now id data principal
  | commitReservationGroup _ _ =>
    refine hquiet (fun s' hrun => ?_) trivial
    obtain ⟨a, hrun⟩ := fst_map_eq_ok.mp hrun
    exact uniform_commitGroup h.inv hu hrun
  | releaseReservationGroup _ _ _ =>
    refine hquiet (fun s' hrun => ?_) trivial
    obtain ⟨a, hrun⟩ := fst_map_eq_ok.mp hrun
    exact uniform_releaseGroup h.inv hu hrun
  | expireReservations principal limit tie =>
    exact uniform_closed_iff hu (expireReservations_effect h.inv now principal limit tie)
      fun _ _ => rfl

end Step

/-! ## Runs that split a group -/

def sampleEnv : Env where
  uuid4 := ⟨id, fun _ _ h => h⟩
  settings := ⟨15, 60, by decide, by decide⟩
  requestHash _ := "digest"

def sampleSeller : Principal := ⟨700, [.seller], []⟩

def sampleBuyer : Principal := ⟨500, [.buyer], []⟩

def sampleSweeper : Principal := ⟨5, [], [.inventoryExpire]⟩

def sampleSku (text : String) (h : ValidSku text := by decide) : Sku := ⟨text, h⟩

/-- A warehouse and two items with five units each; their identifiers are 0, 1
and 2. -/
def stockRequests : List { request : Request // request.StockKeeping } :=
  [⟨.createWarehouse ⟨"WH1", "Main", none, true, by decide, by decide, nofun⟩, trivial⟩,
   ⟨.syncCatalogSku ⟨900, 901, 700, sampleSku "MUG", true⟩, trivial⟩,
   ⟨.syncCatalogSku ⟨910, 911, 700, sampleSku "LAMP", true⟩, trivial⟩,
   ⟨.createItem ⟨0, 900, 901, sampleSku "MUG", 5, 0, true, by decide, by decide⟩ sampleSeller
     none, trivial⟩,
   ⟨.createItem ⟨0, 910, 911, sampleSku "LAMP", 5, 0, true, by decide, by decide⟩ sampleSeller
     none, trivial⟩]

def stockCalls : List (DateTime × Request) := stockRequests.map fun request => (0, request.val)

/-- One group over both items: group 3, reservations 4 and 5. -/
def batchCall : DateTime × Request :=
  (0, .createBatchReservation
    ⟨500, none, none, none,
      [⟨sampleSku "MUG", 700, 2, by decide⟩, ⟨sampleSku "LAMP", 700, 1, by decide⟩],
      by decide, by decide⟩ orderService none)

/-- The owner commits one of the two reservations: the group is half committed,
and no group operation can resolve it any more.  A sweep with a limit of one
leaves it half expired in the same way. -/
theorem group_split :
    ¬Uniform (run (step sampleEnv) Store.empty
      (stockCalls ++ [batchCall, (1, .commitReservation 4 ⟨"ORD-1", by decide⟩ sampleBuyer)])) ∧
    ¬Uniform (run (step sampleEnv) Store.empty
      (stockCalls ++ [batchCall, (minutes 16, .expireReservations sampleSweeper 1 id)])) := by
  decide +kernel

/-- A run from the empty store keeps every reservation group whole if and only
if each of its steps meets the condition. -/
theorem group_atomicity (env : Env) (calls : List (DateTime × Request)) :
    Along (step env) Uniform Store.empty calls ↔
      Admitted (step env) GroupSafe Store.empty calls := by
  have hkeep : ∀ s call, Sane env s → Sane env (step env s call) := fun _ call h => h.step call
  have hstep : ∀ s call, Sane env s → Uniform s → (Uniform (step env s call) ↔ GroupSafe s call) :=
    fun _ call h hu => uniform_step_iff h hu call
  exact along_iff_admitted hkeep hstep (Sane.empty env) nofun

end Inventory
end Marketplace
