import Marketplace.Inventory.Effects

/-!
# Inventory: reservation groups

What the two group operations do to a group, by the status its members share.
-/

namespace Marketplace
namespace Inventory

open Base

/-- The group exists and all of its reservations have the same status. -/
def GroupIs (s : Store) (g : UUID) (status : ReservationStatus) : Prop :=
  (∃ r ∈ s.reservations, r.reservationGroupId = some g) ∧
    ∀ r ∈ s.reservations, r.reservationGroupId = some g → r.status = status

instance (s : Store) (g : UUID) (status : ReservationStatus) : Decidable (GroupIs s g status) :=
  inferInstanceAs (Decidable ((∃ r ∈ s.reservations.rows, r.reservationGroupId = some g) ∧
    ∀ r ∈ s.reservations.rows, r.reservationGroupId = some g → r.status = status))

def MayResolveGroup (s : Store) (g : UUID) (principal : Principal) : Prop :=
  ∀ r ∈ s.reservations, r.reservationGroupId = some g → canResolve r.customerId principal = true

def GroupExpired (s : Store) (g : UUID) (now : DateTime) : Prop :=
  ∃ r ∈ s.reservations, r.reservationGroupId = some g ∧ r.expiresAt ≤ now

instance (s : Store) (g : UUID) (now : DateTime) : Decidable (GroupExpired s g now) :=
  inferInstanceAs (Decidable (∃ r ∈ s.reservations.rows, _ ∧ _))

section Group

variable {now : DateTime} {s s' : Store} {g : UUID} {principal : Principal}

theorem GroupIs.unique {a b : ReservationStatus} (ha : GroupIs s g a) (hb : GroupIs s g b) :
    a = b := by
  obtain ⟨r, hr, hg⟩ := ha.1
  exact (ha.2 r hr hg).symm.trans (hb.2 r hr hg)

theorem lockedGroup_ok {rs : List InventoryReservation}
    (h : lockedGroup s g principal = .ok rs) :
    rs = s.listReservationsByGroup g ∧ ∃ r ∈ rs, canResolve r.customerId principal = true := by
  unfold lockedGroup at h
  split at h
  · cases h
  next r rest hl =>
    simp only [bind_eq_ok, require_eq_ok, pure_eq_ok] at h
    obtain ⟨_, hcan, rfl⟩ := h
    exact ⟨hl.symm, r, List.mem_cons_self, hcan⟩

theorem lockedGroup_of_may (hmem : ∃ r ∈ s.reservations, r.reservationGroupId = some g)
    (hmay : MayResolveGroup s g principal) :
    lockedGroup s g principal = .ok (s.listReservationsByGroup g) := by
  unfold lockedGroup
  split
  next hl =>
    obtain ⟨r, hr, hg⟩ := hmem
    have := Store.mem_listReservationsByGroup.mpr ⟨hr, hg⟩
    rw [hl] at this
    cases this
  next r rest hl =>
    have hr : r ∈ s.listReservationsByGroup g := hl ▸ List.mem_cons_self
    obtain ⟨hr, hg⟩ := Store.mem_listReservationsByGroup.mp hr
    rw [require_pos (hmay r hr hg), ok_bind, hl]
    rfl

theorem forall_group {status : ReservationStatus} :
    (∀ r ∈ s.listReservationsByGroup g, r.status = status) ↔
      ∀ r ∈ s.reservations, r.reservationGroupId = some g → r.status = status := by
  constructor
  · exact fun h r hr hg => h r (Store.mem_listReservationsByGroup.mpr ⟨hr, hg⟩)
  · intro h r hr
    obtain ⟨hr, hg⟩ := Store.mem_listReservationsByGroup.mp hr
    exact h r hr hg

theorem open_of_group (hactive : ∀ r ∈ s.listReservationsByGroup g, r.status = .active) :
    ∀ r ∈ s.listReservationsByGroup g, Open s r := fun r hr =>
  ⟨Table.get?_key (Store.mem_listReservationsByGroup.mp hr).1, hactive r hr⟩

theorem any_isExpired :
    ((s.listReservationsByGroup g).any fun r => isExpired r.expiresAt now) = true ↔
      GroupExpired s g now := by
  simp only [List.any_eq_true, Store.mem_listReservationsByGroup, isExpired, decide_eq_true_eq,
    GroupExpired, and_assoc]

/-- A group commit that does not fail: the group is already committed, it turns
out to be expired, or it is committed now. -/
theorem commitReservationGroup_ok (h : Inv s)
    {a : Except ServiceError (List InventoryReservation)}
    (hrun : commitReservationGroup now s g principal = .ok (s', a)) :
    (GroupIs s g .committed ∧ s' = s ∧ a = .ok (s.listReservationsByGroup g)) ∨
    (GroupIs s g .active ∧ GroupExpired s g now ∧ (∃ e, a = .error e ∧ e.statusCode = 409) ∧
      ClosedAll (closeAs .expired) (s.listReservationsByGroup g) s s') ∨
    (GroupIs s g .active ∧ ¬GroupExpired s g now ∧ a = .ok (s'.listReservationsByGroup g) ∧
      ClosedAll (closeAs .committed) (s.listReservationsByGroup g) s s') := by
  simp only [commitReservationGroup, bind_eq_ok] at hrun
  obtain ⟨rs, hlock, hrun⟩ := hrun
  obtain ⟨rfl, r, hr, -⟩ := lockedGroup_ok hlock
  have hmem : ∃ r ∈ s.reservations, r.reservationGroupId = some g :=
    ⟨r, Store.mem_listReservationsByGroup.mp hr⟩
  split at hrun
  next hcommitted =>
    simp only [pure_eq_ok, Prod.mk.injEq] at hrun
    exact Or.inl ⟨⟨hmem, forall_group.mp hcommitted⟩, hrun.1.symm, hrun.2.symm⟩
  simp only [bind_eq_ok, require_eq_ok] at hrun
  obtain ⟨_, hactive, hrun⟩ := hrun
  have hgroup : GroupIs s g .active := ⟨hmem, forall_group.mp hactive⟩
  have hnodup := Store.nodup_listReservationsByGroup s g
  split at hrun
  next hexp =>
    simp only [bind_eq_ok, pure_eq_ok, Prod.mk.injEq] at hrun
    obtain ⟨t, ht, rfl, rfl⟩ := hrun
    obtain ⟨t', ht', hc⟩ := foldlM_closes (fun _ _ h ho => expireMember_closes h ho principal) h
      hnodup (open_of_group hactive)
    cases ht.symm.trans ht'
    exact Or.inr (Or.inl ⟨hgroup, any_isExpired.mp hexp, ⟨_, rfl, rfl⟩, hc⟩)
  next hexp =>
    simp only [bind_eq_ok, pure_eq_ok, Prod.mk.injEq] at hrun
    obtain ⟨t, ht, rfl, rfl⟩ := hrun
    obtain ⟨t', ht', hc⟩ := foldlM_closes (fun _ _ h ho => commitMember_closes h ho principal g) h
      hnodup (open_of_group hactive)
    cases ht.symm.trans ht'
    exact Or.inr (Or.inr ⟨hgroup, fun he => hexp (any_isExpired.mpr he), rfl, hc⟩)

/-- A group release that does not fail: the group is already released, or it is
released now. -/
theorem releaseReservationGroup_ok (h : Inv s) {reason : MovementReason} {note : Option String}
    {a : List InventoryReservation}
    (hrun : releaseReservationGroup s g reason note principal = .ok (s', a)) :
    (GroupIs s g .released ∧ s' = s) ∨
    (GroupIs s g .active ∧
      ClosedAll (closeAs .released) (s.listReservationsByGroup g) s s') := by
  simp only [releaseReservationGroup, bind_eq_ok] at hrun
  obtain ⟨rs, hlock, hrun⟩ := hrun
  obtain ⟨rfl, r, hr, -⟩ := lockedGroup_ok hlock
  have hmem : ∃ r ∈ s.reservations, r.reservationGroupId = some g :=
    ⟨r, Store.mem_listReservationsByGroup.mp hr⟩
  split at hrun
  next hreleased =>
    simp only [pure_eq_ok, Prod.mk.injEq] at hrun
    exact Or.inl ⟨⟨hmem, forall_group.mp hreleased⟩, hrun.1.symm⟩
  simp only [bind_eq_ok, require_eq_ok, pure_eq_ok, Prod.mk.injEq] at hrun
  obtain ⟨_, hactive, t, ht, rfl, -⟩ := hrun
  obtain ⟨t', ht', hc⟩ := foldlM_closes
    (fun _ _ h ho => releaseMember_closes h ho principal reason note) h
    (Store.nodup_listReservationsByGroup s g) (open_of_group hactive)
  cases ht.symm.trans ht'
  exact Or.inr ⟨⟨hmem, forall_group.mp hactive⟩, hc⟩

/-! ### Which of these happens -/

theorem groupIs_iff (hmem : ∃ r ∈ s.reservations, r.reservationGroupId = some g)
    {status : ReservationStatus} :
    (∀ r ∈ s.listReservationsByGroup g, r.status = status) ↔ GroupIs s g status :=
  ⟨fun h => ⟨hmem, forall_group.mp h⟩, fun h => forall_group.mpr h.2⟩

theorem commitReservationGroup_committed (hmay : MayResolveGroup s g principal)
    (hg : GroupIs s g .committed) :
    commitReservationGroup now s g principal = .ok (s, .ok (s.listReservationsByGroup g)) := by
  rw [commitReservationGroup, lockedGroup_of_may hg.1 hmay, ok_bind,
    if_pos ((groupIs_iff hg.1).mpr hg)]
  rfl

theorem commitReservationGroup_active (h : Inv s) (hmay : MayResolveGroup s g principal)
    (hg : GroupIs s g .active) (hexp : ¬GroupExpired s g now) :
    ∃ s' a, commitReservationGroup now s g principal = .ok (s', .ok a) ∧
      ClosedAll (closeAs .committed) (s.listReservationsByGroup g) s s' := by
  have hactive := (groupIs_iff hg.1).mpr hg
  obtain ⟨s', hs', hc⟩ := foldlM_closes
    (fun _ _ h ho => commitMember_closes h ho principal g) h
    (Store.nodup_listReservationsByGroup s g) (open_of_group hactive)
  refine ⟨s', s'.listReservationsByGroup g, ?_, hc⟩
  have hnot : ¬∀ r ∈ s.listReservationsByGroup g, r.status = .committed := fun hall =>
    nomatch hg.unique ((groupIs_iff hg.1).mp hall)
  rw [commitReservationGroup, lockedGroup_of_may hg.1 hmay, ok_bind, if_neg hnot,
    require_pos hactive, ok_bind, if_neg (fun hany => hexp (any_isExpired.mp hany)), hs']
  rfl

theorem commitReservationGroup_expired (h : Inv s) (hmay : MayResolveGroup s g principal)
    (hg : GroupIs s g .active) (hexp : GroupExpired s g now) :
    ∃ s' e, commitReservationGroup now s g principal = .ok (s', .error e) ∧
      ClosedAll (closeAs .expired) (s.listReservationsByGroup g) s s' := by
  have hactive := (groupIs_iff hg.1).mpr hg
  obtain ⟨s', hs', hc⟩ := foldlM_closes
    (fun _ _ h ho => expireMember_closes h ho principal) h
    (Store.nodup_listReservationsByGroup s g) (open_of_group hactive)
  refine ⟨s', ⟨409, "reservation_expired",
    "Reservation group expired before it could be committed"⟩, ?_, hc⟩
  have hnot : ¬∀ r ∈ s.listReservationsByGroup g, r.status = .committed := fun hall =>
    nomatch hg.unique ((groupIs_iff hg.1).mp hall)
  rw [commitReservationGroup, lockedGroup_of_may hg.1 hmay, ok_bind, if_neg hnot,
    require_pos hactive, ok_bind, if_pos (any_isExpired.mpr hexp), hs']
  rfl

/-- A group that is neither committed nor active cannot be committed. -/
theorem commitReservationGroup_fails (hc : ¬GroupIs s g .committed) (ha : ¬GroupIs s g .active) :
    ∃ e, commitReservationGroup now s g principal = .error e := by
  cases hlock : lockedGroup s g principal with
  | error e => exact ⟨e, by rw [commitReservationGroup, hlock]; rfl⟩
  | ok rs =>
    obtain ⟨rfl, r, hr, -⟩ := lockedGroup_ok hlock
    have hmem : ∃ r ∈ s.reservations, r.reservationGroupId = some g :=
      ⟨r, Store.mem_listReservationsByGroup.mp hr⟩
    refine ⟨raise 409 "reservation_group_not_active"
      "Reservation group is not fully active and cannot be committed", ?_⟩
    rw [commitReservationGroup, hlock, ok_bind, if_neg (fun hall => hc ((groupIs_iff hmem).mp hall)),
      require_neg (fun hall => ha ((groupIs_iff hmem).mp hall)), error_bind]

theorem releaseReservationGroup_released (hmay : MayResolveGroup s g principal)
    (hg : GroupIs s g .released) (reason : MovementReason) (note : Option String) :
    releaseReservationGroup s g reason note principal = .ok (s, s.listReservationsByGroup g) := by
  rw [releaseReservationGroup, lockedGroup_of_may hg.1 hmay, ok_bind,
    if_pos ((groupIs_iff hg.1).mpr hg)]
  rfl

theorem releaseReservationGroup_active (h : Inv s) (hmay : MayResolveGroup s g principal)
    (hg : GroupIs s g .active) (reason : MovementReason) (note : Option String) :
    ∃ s' a, releaseReservationGroup s g reason note principal = .ok (s', a) ∧
      ClosedAll (closeAs .released) (s.listReservationsByGroup g) s s' := by
  have hactive := (groupIs_iff hg.1).mpr hg
  obtain ⟨s', hs', hc⟩ := foldlM_closes
    (fun _ _ h ho => releaseMember_closes h ho principal reason note) h
    (Store.nodup_listReservationsByGroup s g) (open_of_group hactive)
  refine ⟨s', s'.listReservationsByGroup g, ?_, hc⟩
  have hnot : ¬∀ r ∈ s.listReservationsByGroup g, r.status = .released := fun hall =>
    nomatch hg.unique ((groupIs_iff hg.1).mp hall)
  rw [releaseReservationGroup, lockedGroup_of_may hg.1 hmay, ok_bind, if_neg hnot,
    require_pos hactive, ok_bind, hs']
  rfl

/-- A group that is neither released nor active is refused with a conflict. -/
theorem releaseReservationGroup_conflict
    (hmem : ∃ r ∈ s.reservations, r.reservationGroupId = some g)
    (hmay : MayResolveGroup s g principal) (hr : ¬GroupIs s g .released)
    (ha : ¬GroupIs s g .active) (reason : MovementReason) (note : Option String) :
    ∃ e, releaseReservationGroup s g reason note principal = .error e ∧ e.statusCode = 409 := by
  refine ⟨raise 409 "reservation_group_not_active"
    "Reservation group is not fully active and cannot be released", ?_, rfl⟩
  rw [releaseReservationGroup, lockedGroup_of_may hmem hmay, ok_bind,
    if_neg (fun hall => hr ((groupIs_iff hmem).mp hall)),
    require_neg (fun hall => ha ((groupIs_iff hmem).mp hall)), error_bind]

/-- After the members of a group have been closed alike, that is their status. -/
theorem ClosedAll.groupIs {close : InventoryReservation → InventoryReservation}
    {status : ReservationStatus} (hc : ClosedAll close (s.listReservationsByGroup g) s s')
    (hmem : ∃ r ∈ s.reservations, r.reservationGroupId = some g)
    (hst : ∀ r, (close r).status = status) : GroupIs s' g status := by
  constructor
  · obtain ⟨r, hr, hg⟩ := hmem
    have hl : r ∈ s.listReservationsByGroup g := Store.mem_listReservationsByGroup.mpr ⟨hr, hg⟩
    exact ⟨close r, Table.mem_of_get? (hc.closed r hl), (hc.closes r hl).group.trans hg⟩
  · intro x hx hg
    rcases hc.mem hx with ⟨r, -, rfl⟩ | ⟨hx, hne⟩
    · exact hst r
    · exact absurd rfl (hne x (Store.mem_listReservationsByGroup.mpr ⟨hx, hg⟩))

end Group
end Inventory
end Marketplace
