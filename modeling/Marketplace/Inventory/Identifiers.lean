import Marketplace.Inventory.Conservation

/-!
# Inventory: identifiers

Identifiers are drawn from a supply that never repeats, so a fresh one cannot
meet one that is stored.  Two facts about reservation groups follow.  A group
that an idempotency record names belongs to the actor of that record, and no
two records name the same group.
-/

namespace Marketplace
namespace Inventory

open Base

structure Ids (env : Env) (s : Store) : Prop where
  items : ∀ i ∈ s.items, env.uuid4.Issued s.drawn i.id
  groups : ∀ r ∈ s.reservations, ∀ g, r.reservationGroupId = some g → env.uuid4.Issued s.drawn g
  records : ∀ rec ∈ s.idempotency, ∀ id, rec.resourceId = some id → env.uuid4.Issued s.drawn id
  apart : ∀ r ∈ s.reservations, ∀ i ∈ s.items, r.reservationGroupId ≠ some i.id
  owned : ∀ rec ∈ s.idempotency, ∀ r ∈ s.reservations, ∀ g, rec.resourceId = some g →
    r.reservationGroupId = some g → r.customerId = rec.actorId
  alone : ∀ rec ∈ s.idempotency, ∀ rec' ∈ s.idempotency, ∀ r ∈ s.reservations, ∀ g,
    rec.resourceId = some g → rec'.resourceId = some g → r.reservationGroupId = some g → rec = rec'

section Fresh

variable {env : Env} {s s' : Store} {id : UUID}

theorem Fresh.issued (h : Fresh env s s' id) : env.uuid4.Issued s'.drawn id := by
  obtain ⟨i, -, hi, he⟩ := h
  exact ⟨i, hi, he⟩

theorem Fresh.not_issued (h : Fresh env s s' id) : ¬env.uuid4.Issued s.drawn id := by
  obtain ⟨i, hi, -, rfl⟩ := h
  exact Supply.not_issued hi

end Fresh

theorem Ids.empty (env : Env) : Ids env Store.empty where
  items _ h := absurd h (Table.not_mem_empty _)
  groups _ h := absurd h (Table.not_mem_empty _)
  records _ h := absurd h (Table.not_mem_empty _)
  apart _ h := absurd h (Table.not_mem_empty _)
  owned _ h := absurd h (Table.not_mem_empty _)
  alone _ h := absurd h (Table.not_mem_empty _)

section Effect

variable {env : Env} {s s' : Store}

/-- A group whose identifier had been drawn before the step is an old one. -/
theorem Effect.old_of_issued (he : Effect env s s') {r' : InventoryReservation}
    (hr : r' ∈ s'.reservations) {g : UUID} (hg : r'.reservationGroupId = some g)
    (hi : env.uuid4.Issued s.drawn g) :
    ∃ r ∈ s.reservations, r.reservationGroupId = some g ∧ r.customerId = r'.customerId :=
  (he.groups r' hr g hg).resolve_right fun h => h.1.not_issued hi

/-- A group that a new record names did not exist before the step. -/
theorem Ids.new_record (h : Ids env s) {g : UUID}
    (hid : (∃ j ∈ s.items, j.id = g) ∨ Fresh env s s' g) :
    ¬∃ r ∈ s.reservations, r.reservationGroupId = some g := by
  rintro ⟨r, hr, hg⟩
  rcases hid with ⟨j, hj, rfl⟩ | hfresh
  · exact h.apart r hr j hj hg
  · exact hfresh.not_issued (h.groups r hr g hg)

theorem Ids.effect (h : Ids env s) (he : Effect env s s') : Ids env s' := by
  obtain ⟨k, hk⟩ := he.records
  refine ⟨?_, ?_, ?_, ?_, ?_, ?_⟩
  · intro i hi
    rcases he.items i hi with ⟨j, hj, hji⟩ | hfresh
    · exact hji ▸ (h.items j hj).mono he.drawn
    · exact hfresh.issued
  · intro r hr g hg
    rcases he.groups r hr g hg with ⟨x, hx, hxg, -⟩ | ⟨hfresh, -⟩
    · exact (h.groups x hx g hxg).mono he.drawn
    · exact hfresh.issued
  · intro rec hrec id hid
    rcases hk rec hrec with hold | ⟨-, hnew⟩
    · exact (h.records rec hold id hid).mono he.drawn
    · rcases (hnew id hid).1 with ⟨j, hj, rfl⟩ | hfresh
      · exact (h.items j hj).mono he.drawn
      · exact hfresh.issued
  · intro r hr i hi hg
    rcases he.groups r hr i.id hg with ⟨x, hx, hxg, -⟩ | ⟨hfresh, hitems⟩
    · rcases he.items i hi with ⟨j, hj, hji⟩ | hfresh
      · exact h.apart x hx j hj (hji ▸ hxg)
      · exact hfresh.not_issued (h.groups x hx i.id hxg)
    · obtain ⟨j, hj, hji⟩ := hitems i hi
      exact hfresh.not_issued (hji ▸ h.items j hj)
  · intro rec hrec r hr g hres hg
    rcases hk rec hrec with hold | ⟨-, hnew⟩
    · obtain ⟨x, hx, hxg, hxc⟩ := he.old_of_issued hr hg (h.records rec hold g hres)
      exact hxc.symm.trans (h.owned rec hold x hx g hres hxg)
    · obtain ⟨hid, howner⟩ := hnew g hres
      exact (howner r hr hg).resolve_left (h.new_record hid)
  · intro rec hrec rec' hrec' r hr g hres hres' hg
    rcases hk rec hrec with hold | ⟨hkey, hnew⟩ <;> rcases hk rec' hrec' with hold' | ⟨hkey', hnew'⟩
    · obtain ⟨x, hx, hxg, -⟩ := he.old_of_issued hr hg (h.records rec hold g hres)
      exact h.alone rec hold rec' hold' x hx g hres hres' hxg
    · have hx := he.old_of_issued hr hg (h.records rec hold g hres)
      exact absurd ⟨hx.choose, hx.choose_spec.1, hx.choose_spec.2.1⟩
        (h.new_record (hnew' g hres').1)
    · have hx := he.old_of_issued hr hg (h.records rec' hold' g hres')
      exact absurd ⟨hx.choose, hx.choose_spec.1, hx.choose_spec.2.1⟩
        (h.new_record (hnew g hres).1)
    · exact Table.eq_of_key_eq hrec hrec' (hkey.trans hkey'.symm)

end Effect

/-- What holds of the store in every state of every run. -/
structure Sane (env : Env) (s : Store) : Prop where
  inv : Inv s
  ids : Ids env s

theorem Sane.empty (env : Env) : Sane env Store.empty := ⟨Balanced.empty, .empty env⟩

theorem Sane.effect {env : Env} {s s' : Store} (h : Sane env s) (he : Effect env s s') :
    Sane env s' := ⟨he.refines.2, h.ids.effect he⟩

theorem Sane.step {env : Env} {s : Store} (h : Sane env s) (call : DateTime × Request) :
    Sane env (step env s call) := h.effect (step_effect h.inv call)

end Inventory
end Marketplace
