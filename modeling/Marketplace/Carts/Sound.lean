import Marketplace.Carts.Effects

/-!
# Carts: what always holds of the database

`Sound` is kept by every stroke, and so along every run, however the two halves of
the expiry sweeps fall between the other requests.
-/

namespace Marketplace
namespace Carts

open Base

/-- What holds of every stored cart. -/
structure Cart.Sound (env : Env) (s : Store) (cart : Cart) : Prop where
  issued : env.uuid4.Issued s.drawn cart.id
  within : cart.Within env.settings
  owned : cart.customerId = none ∨ cart.guestTokenHash = none
  token : ∀ hash ∈ cart.guestTokenHash, ∃ n < s.tokens, env.tokenHash (env.tokenUrlsafe n) = hash
  orphan : cart.customerId = none → cart.guestTokenHash = none → cart.mergedIntoCartId.isSome
  closed : cart.mergedIntoCartId.isSome →
    cart.status ≠ .active ∧ cart.customerId = none ∧ cart.guestTokenHash = none
  target : ∀ id ∈ cart.mergedIntoCartId, ∃ t ∈ s.carts, t.id = id ∧ t.customerId ≠ none

/-- The index `uq_active_cart_customer`. -/
def Cart.activeCustomer (cart : Cart) : Option UUID :=
  if cart.status = .active then cart.customerId else none

structure Sound (env : Env) (s : Store) : Prop where
  carts : ∀ cart ∈ s.carts, cart.Sound env s
  one_active : s.carts.Unique Cart.activeCustomer
  one_token : s.carts.Unique Cart.guestTokenHash
  keys : ∀ record ∈ s.idempotency, ∃ cart ∈ s.carts, record.resourceId = some cart.id
  sweeps : ∀ carts ∈ s.sweeps, Apart carts

theorem Sound.empty (env : Env) : Sound env Store.empty where
  carts _ h := absurd h (Table.not_mem_empty _)
  one_active := .empty
  one_token := .empty
  keys _ h := absurd h (Table.not_mem_empty _)
  sweeps _ h := absurd h List.not_mem_nil

section Stroke

variable {env : Env} {origin s s' : Store} {call : DateTime × Request} {cart cart' : Cart}

/-- A cart that stays as it is stays sound while the database grows around it. -/
theorem Cart.Sound.mono (h : cart.Sound env s) (hdrawn : s.drawn ≤ s'.drawn)
    (htokens : s.tokens ≤ s'.tokens)
    (hkept : ∀ t ∈ s.carts, ∃ t' ∈ s'.carts, t'.id = t.id ∧ t'.customerId = t.customerId) :
    cart.Sound env s' where
  issued := h.issued.mono hdrawn
  within := h.within
  owned := h.owned
  token := fun hash hhash => by
    obtain ⟨n, hn, he⟩ := h.token hash hhash
    exact ⟨n, hn.trans_le htokens, he⟩
  orphan := h.orphan
  closed := h.closed
  target := fun id hid => by
    obtain ⟨t, ht, hkey, howner⟩ := h.target id hid
    obtain ⟨t', ht', hkey', howner'⟩ := hkept t ht
    exact ⟨t', ht', hkey'.trans hkey, howner' ▸ howner⟩

/-- What every change of a cart leaves alone. -/
theorem Law.customerId (h : Law env origin call cart cart') :
    cart'.customerId = cart.customerId := by
  cases h with
  | edited _ _ _ hface _ _ => exact congrArg Face.customerId hface
  | merged _ _ => rfl
  | checkedOut _ _ _ => rfl
  | expired _ _ => rfl

theorem Law.id (h : Law env origin call cart cart') : cart'.id = cart.id := by
  cases h with
  | edited _ _ _ hface _ _ => exact congrArg Face.id hface
  | merged _ _ => rfl
  | checkedOut _ _ _ => rfl
  | expired _ _ => rfl

/-- A cart is never opened again. -/
theorem Law.active (h : Law env origin call cart cart') (hactive : cart'.status = .active) :
    cart.status = .active := by
  cases h with
  | edited _ _ hopen _ _ _ => exact hopen.1
  | merged _ _ => cases hactive
  | checkedOut _ _ _ => cases hactive
  | expired _ _ => cases hactive

/-- A guest token is never put on another cart. -/
theorem Law.guestTokenHash (h : Law env origin call cart cart') :
    cart'.guestTokenHash = cart.guestTokenHash ∨ cart'.guestTokenHash = none := by
  cases h with
  | edited _ _ _ hface _ _ => exact Or.inl (congrArg Face.guestTokenHash hface)
  | merged _ _ => exact Or.inr rfl
  | checkedOut _ _ _ => exact Or.inl rfl
  | expired _ _ => exact Or.inl rfl

theorem Law.within (h : Law env origin call cart cart') (hw : cart.Within env.settings) :
    cart'.Within env.settings := by
  cases h with
  | edited _ _ _ _ _ hwithin => exact hwithin hw
  | merged _ _ => exact hw
  | checkedOut _ _ _ => exact hw
  | expired _ _ => exact hw

theorem Law.activeCustomer (h : Law env origin call cart cart') :
    cart'.activeCustomer = cart.activeCustomer ∨ cart'.activeCustomer = none := by
  unfold Cart.activeCustomer
  by_cases hactive : cart'.status = .active
  · rw [if_pos hactive, if_pos (h.active hactive)]
    exact Or.inl h.customerId
  · rw [if_neg hactive]
    exact Or.inr rfl

theorem Law.sound (h : Law env origin call cart cart') (hs : cart.Sound env s)
    (htarget : ∀ id ∈ cart'.mergedIntoCartId, id ∈ cart.mergedIntoCartId ∨
      ∃ t ∈ s.carts, t.id = id ∧ t.customerId ≠ none) : cart'.Sound env s where
  issued := h.id ▸ hs.issued
  within := h.within hs.within
  owned := by
    rw [h.customerId]
    rcases h.guestTokenHash with he | he
    · rw [he]
      exact hs.owned
    · exact Or.inr he
  token := by
    rcases h.guestTokenHash with he | he
    · rw [he]
      exact hs.token
    · rw [he]
      exact fun hash hhash => by cases hhash
  orphan := by
    intro howner htoken
    cases h with
    | edited _ _ _ hface _ _ =>
      have hid : cart'.mergedIntoCartId = cart.mergedIntoCartId :=
        congrArg Face.mergedIntoCartId hface
      have hsame : cart'.guestTokenHash = cart.guestTokenHash := congrArg Face.guestTokenHash hface
      rw [hid]
      exact hs.orphan ((congrArg Face.customerId hface).symm.trans howner) (hsame ▸ htoken)
    | merged _ _ => rfl
    | checkedOut _ _ _ => exact hs.orphan howner htoken
    | expired _ _ => exact hs.orphan howner htoken
  closed := by
    intro hmerged
    cases h with
    | edited _ _ hopen hface _ _ =>
      have hid : cart'.mergedIntoCartId = cart.mergedIntoCartId :=
        congrArg Face.mergedIntoCartId hface
      exact absurd hopen.1 (hs.closed (hid ▸ hmerged)).1
    | merged htoken _ =>
      refine ⟨CartStatus.noConfusion, ?_, rfl⟩
      rcases hs.owned with hnone | hnone
      · exact hnone
      · rw [htoken] at hnone
        cases hnone
    | checkedOut _ hopen _ => exact absurd hopen.1 (hs.closed hmerged).1
    | expired _ _ => exact ⟨CartStatus.noConfusion, (hs.closed hmerged).2⟩
  target := fun id hid => by
    rcases htarget id hid with hold | hnew
    · exact hs.target id hold
    · exact hnew

theorem Opens.sound {tokens : Nat} (h : Opens env s call cart tokens)
    (hissued : env.uuid4.Issued s'.drawn (env.uuid4.value s.drawn)) (htokens : tokens ≤ s'.tokens) :
    cart.Sound env s' := by
  cases h with
  | guest =>
    exact {
      issued := hissued
      within := fun item hitem => absurd hitem (Table.not_mem_empty item)
      owned := Or.inl rfl
      token := fun hash hhash => ⟨s.tokens, htokens, Option.some.inj hhash⟩
      orphan := fun _ htoken => by cases htoken
      closed := fun hmerged => by cases hmerged
      target := fun id hid => by cases hid }
  | customer _ _ =>
    exact {
      issued := hissued
      within := fun item hitem => absurd hitem (Table.not_mem_empty item)
      owned := Or.inr rfl
      token := fun hash hhash => by cases hhash
      orphan := fun howner => by cases howner
      closed := fun hmerged => by cases hmerged
      target := fun id hid => by cases hid }

theorem Opens.fresh {tokens : Nat} (h : Opens env s call cart tokens) :
    cart.id = env.uuid4.value s.drawn ∧ cart.status = .active ∧ s.tokens ≤ tokens := by
  cases h with
  | guest => exact ⟨rfl, rfl, Nat.le_succ _⟩
  | customer _ _ => exact ⟨rfl, rfl, le_rfl⟩

theorem Sound.opened {tokens : Nat} (hs : Sound env s) (hopens : Opens env s call cart tokens)
    (hadd : s.addCart cart = .ok s') : Sound env { s' with tokens := tokens } := by
  obtain ⟨hcustomer, htoken, carts, hinsert, rfl⟩ := addCart_eq_ok hadd
  obtain ⟨-, hactive, htokens⟩ := hopens.fresh
  have hkept : ∀ t ∈ s.carts, ∃ t' ∈ carts, t'.id = t.id ∧ t'.customerId = t.customerId :=
    fun t ht => ⟨t, (Table.mem_insert? hinsert).mpr (Or.inl ht), rfl, rfl⟩
  refine ⟨fun c hc => ?_, ?_, ?_, fun record hrecord => ?_, hs.sweeps⟩
  · rcases (Table.mem_insert? hinsert).mp hc with hc | rfl
    · exact (hs.carts c hc).mono (Nat.le_succ _) htokens hkept
    · exact hopens.sound Supply.issued_succ le_rfl
  · refine hs.one_active.insert (fun c hc he => ?_) hinsert
    unfold Cart.activeCustomer at he ⊢
    rw [if_pos hactive] at he
    by_cases hca : c.status = .active
    · rw [if_pos hca] at he ⊢
      exact (hcustomer c hc he).resolve_right (fun hne => hne hca)
    · exact if_neg hca
  · exact hs.one_token.insert htoken hinsert
  · obtain ⟨c, hc, hid⟩ := hs.keys record hrecord
    exact ⟨c, (Table.mem_insert? hinsert).mpr (Or.inl hc), hid⟩

/-- The row a cart has after another row has been written. -/
theorem kept_of_put (hget : s.carts.get? cart.id = some cart) (hid : cart'.id = cart.id)
    (howner : cart'.customerId = cart.customerId) {t : Cart} (ht : t ∈ s.carts) :
    ∃ t' ∈ s.carts.put cart', t'.id = t.id ∧ t'.customerId = t.customerId := by
  by_cases hkey : t.id = cart.id
  · have hsame : t = cart := Table.eq_of_key_eq ht (Table.mem_of_get? hget) hkey
    rw [hsame]
    exact ⟨cart', Table.mem_put_self (Table.mem_of_get? hget) hid, hid, howner⟩
  · exact ⟨t, Table.mem_put.mpr (Or.inr ⟨ht, fun he => hkey (he.trans hid)⟩), rfl, rfl⟩

theorem Sound.wrote {drawn : Nat} (hs : Sound env s) (hget : s.carts.get? cart.id = some cart)
    (hlaw : Law env origin call cart cart') (hdrawn : s.drawn ≤ drawn)
    (htarget : ∀ id ∈ cart'.mergedIntoCartId, id ∈ cart.mergedIntoCartId ∨
      ∃ target ∈ s.carts, target.id = id ∧ target.customerId ≠ none) :
    Sound env { s with carts := s.carts.put cart', drawn := drawn } := by
  have hkept := fun t => @kept_of_put s cart cart' hget hlaw.id hlaw.customerId t
  have hget' : s.carts.get? cart'.id = some cart := by
    rw [hlaw.id]
    exact hget
  have hcart : cart.Sound env s := hs.carts cart (Table.mem_of_get? hget)
  refine ⟨fun c hc => ?_, hs.one_active.put hget' hlaw.activeCustomer,
    hs.one_token.put hget' hlaw.guestTokenHash, fun record hrecord => ?_, hs.sweeps⟩
  · rcases Table.mem_put.mp hc with ⟨rfl, -⟩ | ⟨hc, -⟩
    · exact (hlaw.sound hcart htarget).mono hdrawn le_rfl hkept
    · exact (hs.carts c hc).mono hdrawn le_rfl hkept
  · obtain ⟨c, hc, hid⟩ := hs.keys record hrecord
    obtain ⟨c', hc', hid', -⟩ := hkept c hc
    exact ⟨c', hc', hid.trans (congrArg some hid'.symm)⟩

theorem Stroke.sound (h : Stroke env origin call s s') (hs : Sound env s) : Sound env s' := by
  have hsame : ∀ t ∈ s.carts, ∃ t' ∈ s.carts, t'.id = t.id ∧ t'.customerId = t.customerId :=
    fun t ht => ⟨t, ht, rfl, rfl⟩
  cases h with
  | opened hopens hadd => exact hs.opened hopens hadd
  | wrote hget _ hlaw hdrawn htarget => exact hs.wrote hget hlaw hdrawn htarget
  | remembered hinsert hcart =>
    refine ⟨fun c hc => (hs.carts c hc).mono le_rfl le_rfl hsame, hs.one_active, hs.one_token, ?_,
      hs.sweeps⟩
    exact Table.forall_insert hs.keys hcart hinsert
  | swept hapart =>
    exact ⟨fun c hc => (hs.carts c hc).mono le_rfl le_rfl hsame, hs.one_active, hs.one_token,
      hs.keys, hapart⟩

end Stroke

section Run

variable {env : Env} {s : Store}

theorem Sound.owned (hs : Sound env s) :
    ∀ c ∈ s.carts, c.customerId = none ∨ c.guestTokenHash = none :=
  fun c hc => (hs.carts c hc).owned

theorem Sound.within (hs : Sound env s) : ∀ c ∈ s.carts, c.Within env.settings :=
  fun c hc => (hs.carts c hc).within

theorem Sound.strokes (hs : Sound env s) (call : DateTime × Request) :
    Strokes env s call s (step env s call) := step_strokes hs.owned hs.within hs.sweeps call

theorem Strokes.sound {origin s' : Store} {call : DateTime × Request}
    (h : Strokes env origin call s s') (hs : Sound env s) : Sound env s' := by
  induction h with
  | refl => exact hs
  | tail _ hstroke ih => exact hstroke.sound ih

theorem sound_step (hs : Sound env s) (call : DateTime × Request) : Sound env (step env s call) :=
  Strokes.sound (hs.strokes call) hs

theorem sound_run (calls : List (DateTime × Request)) :
    Sound env (run (step env) Store.empty calls) :=
  run_keeps_all (I := Sound env) (fun _ call hs => sound_step hs call) calls (Sound.empty env)

end Run

end Carts
end Marketplace
