import Marketplace.Orders.Rows

/-!
# Orders: what a call to Inventory does

The three client calls, from what the group is when they arrive.  A release
never fails on a group that exists and that the caller may resolve: a group that
is neither active nor released makes Inventory refuse, and the client takes the
refusal for success.
-/

namespace Marketplace
namespace Orders

open Base
open Inventory (Inv GroupIs GroupExpired MayResolveGroup ClosedAll closeAs)

section Release

variable {inventory : Inventory.Store} {g : UUID} {reason : String} {token : Principal}

/-- A release of a group that exists and that the caller may resolve is always
answered.  It closes an active group; any other group stays as it is, whether
Inventory replays the release or refuses it. -/
theorem releaseGroup_answered (h : Inv inventory) (hreason : reason.length ≤ 2000)
    (hmem : ∃ r ∈ inventory.reservations, r.reservationGroupId = some g)
    (hmay : MayResolveGroup inventory g token) :
    ∃ inventory', releaseGroup inventory g reason token = (inventory', .ok ()) ∧
      ((GroupIs inventory g .active ∧ ClosedAll (closeAs .released)
          (inventory.listReservationsByGroup g) inventory inventory') ∨
        (¬GroupIs inventory g .active ∧ inventory' = inventory)) := by
  simp only [releaseGroup, Inventory.releaseReservationBatch, if_pos hreason]
  by_cases ha : GroupIs inventory g .active
  · obtain ⟨inventory', a, hrun, hc⟩ :=
      Inventory.releaseReservationGroup_active h hmay ha .customerCancelled (some reason)
    rw [hrun, ok_bind]
    exact ⟨inventory', rfl, Or.inl ⟨ha, hc⟩⟩
  refine ⟨inventory, ?_, Or.inr ⟨ha, rfl⟩⟩
  by_cases hr : GroupIs inventory g .released
  · rw [Inventory.releaseReservationGroup_released hmay hr, ok_bind]
    rfl
  · obtain ⟨e, hrun, he⟩ := Inventory.releaseReservationGroup_conflict hmem hmay hr ha
      .customerCancelled (some reason)
    rw [hrun, error_bind]
    simp only [Inventory.respond, he, if_true]

theorem releaseGroup_missing (hmem : ¬∃ r ∈ inventory.reservations, r.reservationGroupId = some g) :
    ∃ e, releaseGroup inventory g reason token = (inventory, .error e) := by
  have hrun : Inventory.releaseReservationGroup inventory g .customerCancelled (some reason) token =
      .error (raise 404 "reservation_group_not_found" "Reservation group was not found") := by
    have hl : inventory.listReservationsByGroup g = [] := by
      refine List.eq_nil_iff_forall_not_mem.mpr fun r hr => hmem ⟨r, ?_⟩
      exact Inventory.Store.mem_listReservationsByGroup.mp hr
    rw [Inventory.releaseReservationGroup, Inventory.lockedGroup, hl]
    rfl
  refine ⟨⟨502, "inventory_release_failed", "Inventory release failed"⟩, ?_⟩
  simp only [releaseGroup, Inventory.releaseReservationBatch, hrun, error_bind, Inventory.respond]
  by_cases hreason : reason.length ≤ 2000
  · rw [if_pos hreason]
    rfl
  · rw [if_neg hreason]
    rfl

/-- A release closes an active group or changes nothing. -/
theorem releaseGroup_cases (h : Inv inventory) (g : UUID) (reason : String) (token : Principal) :
    (releaseGroup inventory g reason token).1 = inventory ∨
      (GroupIs inventory g .active ∧ ClosedAll (closeAs .released)
        (inventory.listReservationsByGroup g) inventory
          (releaseGroup inventory g reason token).1) := by
  unfold releaseGroup Inventory.releaseReservationBatch
  by_cases hreason : reason.length ≤ 2000
  · rw [if_pos hreason]
    cases hrun : Inventory.releaseReservationGroup inventory g .customerCancelled (some reason)
        token with
    | error e =>
      simp only [error_bind, Inventory.respond]
      split <;> exact Or.inl rfl
    | ok p =>
      obtain ⟨inventory', a⟩ := p
      rcases Inventory.releaseReservationGroup_ok h hrun with ⟨-, rfl⟩ | ⟨hg, hc⟩
      · exact Or.inl rfl
      · exact Or.inr ⟨hg, hc⟩
  · rw [if_neg hreason]
    exact Or.inl rfl

end Release

section Commit

variable {now : DateTime} {inventory : Inventory.Store} {g : UUID}

/-- The token of the Order Service resolves any group. -/
theorem mayResolve_orderService (inventory : Inventory.Store) (g : UUID) :
    MayResolveGroup inventory g orderService := by
  intro r _ _
  simp only [Inventory.canResolve, Bool.or_eq_true]
  exact Or.inr rfl

theorem commitGroup_committed (hg : GroupIs inventory g .committed) :
    commitGroup now inventory g orderService = (inventory, .ok ()) := by
  simp only [commitGroup, Inventory.commitReservationBatch,
    Inventory.commitReservationGroup_committed (mayResolve_orderService inventory g) hg]

theorem commitGroup_active (h : Inv inventory) (hg : GroupIs inventory g .active)
    (hexp : ¬GroupExpired inventory g now) :
    ∃ inventory', commitGroup now inventory g orderService = (inventory', .ok ()) ∧
      ClosedAll (closeAs .committed) (inventory.listReservationsByGroup g) inventory
        inventory' := by
  obtain ⟨inventory', a, hrun, hc⟩ := Inventory.commitReservationGroup_active h
    (mayResolve_orderService inventory g) hg hexp
  exact ⟨inventory', by simp only [commitGroup, Inventory.commitReservationBatch, hrun], hc⟩

theorem commitGroup_expired (h : Inv inventory) (hg : GroupIs inventory g .active)
    (hexp : GroupExpired inventory g now) :
    ∃ inventory' e, commitGroup now inventory g orderService = (inventory', .error e) ∧
      ClosedAll (closeAs .expired) (inventory.listReservationsByGroup g) inventory inventory' := by
  obtain ⟨inventory', a, hrun, hc⟩ := Inventory.commitReservationGroup_expired h
    (mayResolve_orderService inventory g) hg hexp
  exact ⟨inventory', _, by simp only [commitGroup, Inventory.commitReservationBatch, hrun]; rfl, hc⟩

theorem commitGroup_fails (hc : ¬GroupIs inventory g .committed)
    (ha : ¬GroupIs inventory g .active) :
    ∃ e, commitGroup now inventory g orderService = (inventory, .error e) := by
  obtain ⟨e, hrun⟩ : ∃ e, Inventory.commitReservationGroup now inventory g orderService =
      .error e := Inventory.commitReservationGroup_fails hc ha
  exact ⟨_, by simp only [commitGroup, Inventory.commitReservationBatch, hrun]; rfl⟩

/-- A commit closes an active group, as committed or as expired, or changes
nothing; what is answered with success is committed. -/
theorem commitGroup_cases (h : Inv inventory) (now : DateTime) (g : UUID) :
    (∃ inventory', commitGroup now inventory g orderService = (inventory', .ok ()) ∧
      GroupIs inventory' g .committed ∧ (inventory' = inventory ∨
        (GroupIs inventory g .active ∧ ClosedAll (closeAs .committed)
          (inventory.listReservationsByGroup g) inventory inventory'))) ∨
    (∃ inventory' e, commitGroup now inventory g orderService = (inventory', .error e) ∧
      (inventory' = inventory ∨ (GroupIs inventory g .active ∧ ClosedAll (closeAs .expired)
        (inventory.listReservationsByGroup g) inventory inventory'))) := by
  by_cases hc : GroupIs inventory g .committed
  · exact Or.inl ⟨inventory, commitGroup_committed hc, hc, Or.inl rfl⟩
  by_cases ha : GroupIs inventory g .active
  · by_cases hexp : GroupExpired inventory g now
    · obtain ⟨inventory', e, hrun, hclosed⟩ := commitGroup_expired h ha hexp
      exact Or.inr ⟨inventory', e, hrun, Or.inr ⟨ha, hclosed⟩⟩
    · obtain ⟨inventory', hrun, hclosed⟩ := commitGroup_active h ha hexp
      exact Or.inl ⟨inventory', hrun, hclosed.groupIs ha.1 fun _ => rfl, Or.inr ⟨ha, hclosed⟩⟩
  · obtain ⟨e, hrun⟩ := commitGroup_fails hc ha
    exact Or.inr ⟨inventory, e, hrun, Or.inl rfl⟩

end Commit

end Orders
end Marketplace
