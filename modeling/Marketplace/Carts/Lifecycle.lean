import Marketplace.Carts.Sound

/-!
# Carts: the life of a cart

A request changes a cart only as the law allows it: for its owner, for the holder
of its guest token, for a checkout or for a sweep.  Along a run a cart that has been
closed keeps its contents and is never opened again, and as long as it is open its
version names its contents.
-/

namespace Marketplace
namespace Carts

open Base

/-! ## One request -/

/-- What a request makes of a cart: nothing, or one change that the law allows. -/
abbrev Moves (env : Env) (s : Store) (call : DateTime × Request) : Cart → Cart → Prop :=
  Relation.ReflGen (Law env s call)

/-- A request changes each stored cart at most once and as the law allows it, and
every other cart is one it has opened itself. -/
structure Lawful (env : Env) (s : Store) (call : DateTime × Request) (s' : Store) : Prop where
  moves : s.carts.Follows (Moves env s call) s'.carts
  opens : ∀ cart' ∈ s'.carts, (∃ cart ∈ s.carts, cart.id = cart'.id) ∨
    ∃ cart tokens, Opens env s call cart tokens ∧ Moves env s call cart cart'

section Step

variable {env : Env} {s s₁ s₂ : Store} {call : DateTime × Request}

/-- No cart is lost. -/
theorem Stroke.keeps (h : Stroke env s call s₁ s₂) {cart : Cart} (hcart : cart ∈ s₁.carts) :
    ∃ cart' ∈ s₂.carts, cart'.id = cart.id := by
  cases h with
  | opened _ hadd =>
    obtain ⟨-, -, carts, hinsert, rfl⟩ := addCart_eq_ok hadd
    exact ⟨cart, (Table.mem_insert? hinsert).mpr (Or.inl hcart), rfl⟩
  | wrote hget _ hlaw _ _ =>
    obtain ⟨cart', hcart', hid, -⟩ := kept_of_put hget hlaw.id hlaw.customerId hcart
    exact ⟨cart', hcart', hid⟩
  | remembered _ _ => exact ⟨cart, hcart, rfl⟩
  | swept _ => exact ⟨cart, hcart, rfl⟩

theorem Strokes.keeps (h : Strokes env s call s₁ s₂) {cart : Cart} (hcart : cart ∈ s₁.carts) :
    ∃ cart' ∈ s₂.carts, cart'.id = cart.id := by
  induction h with
  | refl => exact ⟨cart, hcart, rfl⟩
  | tail _ hstroke ih =>
    obtain ⟨mid, hmid, hid⟩ := ih
    obtain ⟨cart', hcart', hid'⟩ := hstroke.keeps hmid
    exact ⟨cart', hcart', hid'.trans hid⟩

/-- Where a stored cart comes from.  A stroke changes a cart that is as the request met
it, so the changes of two strokes never add up on one cart. -/
theorem Strokes.origin (h : Strokes env s call s s₂) {cart' : Cart} (hcart : cart' ∈ s₂.carts) :
    ∃ cart, Met env s call cart ∧ cart.id = cart'.id ∧ Moves env s call cart cart' := by
  induction h generalizing cart' with
  | refl => exact ⟨cart', Or.inl hcart, rfl, .refl⟩
  | tail _ hstroke ih =>
    cases hstroke with
    | opened hopens hadd =>
      obtain ⟨-, -, carts, hinsert, rfl⟩ := addCart_eq_ok hadd
      rcases (Table.mem_insert? hinsert).mp hcart with hold | rfl
      · exact ih hold
      · exact ⟨cart', Or.inr ⟨_, hopens⟩, rfl, .refl⟩
    | wrote hget hmet hlaw _ _ =>
      rcases Table.mem_put.mp hcart with ⟨rfl, -⟩ | ⟨hold, -⟩
      · exact ⟨_, hmet, hlaw.id.symm, .single hlaw⟩
      · exact ih hold
    | remembered _ _ => exact ih hcart
    | swept _ => exact ih hcart

theorem Strokes.lawful (hs : Sound env s) (h : Strokes env s call s s₂) :
    Lawful env s call s₂ := by
  refine ⟨fun cart hcart => ?_, fun cart' hcart' => ?_⟩
  · obtain ⟨cart', hcart', hid⟩ := h.keeps hcart
    obtain ⟨met, hmet, hid', hmoves⟩ := h.origin hcart'
    rcases hmet with hold | ⟨tokens, hopens⟩
    · have hsame : met = cart := Table.eq_of_key_eq hold hcart (hid'.trans hid)
      exact ⟨cart', hcart', hid, hsame ▸ hmoves⟩
    · -- The identifier of a new cart is none that has been drawn before.
      have hissued := (hs.carts cart hcart).issued
      rw [← hid, ← hid', hopens.fresh.1] at hissued
      exact absurd hissued (Supply.not_issued le_rfl)
  · obtain ⟨cart, hmet, hid, hmoves⟩ := h.origin hcart'
    rcases hmet with hold | ⟨tokens, hopens⟩
    · exact Or.inl ⟨cart, hold, hid⟩
    · exact Or.inr ⟨cart, tokens, hopens, hmoves⟩

end Step

/-- In every reachable state, a request changes each stored cart at most once and as
the law allows it, and opens the others itself. -/
theorem cart_lifecycle (env : Env) (calls : List (DateTime × Request))
    (call : DateTime × Request) :
    Lawful env (run (step env) Store.empty calls) call
      (step env (run (step env) Store.empty calls) call) :=
  Strokes.lawful (sound_run calls) ((sound_run calls).strokes call)

/-! ## A run -/

/-- What a closed cart keeps. -/
def Cart.contents (cart : Cart) :
    Table CartItem.variant × Table SavedItem.variant × String × Option UUID :=
  (cart.items, cart.savedItems, cart.currencyCode, cart.customerId)

/-- A cart some time later: as it was; or with a higher version, if it was open and
still is; or closed with the contents it had when it was closed already. -/
def Cart.Advances (cart cart' : Cart) : Prop :=
  cart' = cart ∨ (cart.status = .active ∧ (cart'.status = .active → cart.version < cart'.version)) ∨
    (cart.status ≠ .active ∧ cart'.status ≠ .active ∧ cart'.contents = cart.contents)

theorem Cart.Advances.refl (cart : Cart) : cart.Advances cart := Or.inl rfl

theorem Cart.Advances.trans (a b c : Cart) (h : a.Advances b) (h' : b.Advances c) :
    a.Advances c := by
  rcases h with rfl | ⟨ha, hab⟩ | ⟨ha, hb, hab⟩
  · exact h'
  · rcases h' with rfl | ⟨hb, hbc⟩ | ⟨-, hc, -⟩
    · exact Or.inr (Or.inl ⟨ha, hab⟩)
    · exact Or.inr (Or.inl ⟨ha, fun hc => (hab hb).trans (hbc hc)⟩)
    · exact Or.inr (Or.inl ⟨ha, fun hactive => absurd hactive hc⟩)
  · rcases h' with rfl | ⟨hactive, -⟩ | ⟨-, hc, hbc⟩
    · exact Or.inr (Or.inr ⟨ha, hb, hab⟩)
    · exact absurd hactive hb
    · exact Or.inr (Or.inr ⟨ha, hc, hbc.trans hab⟩)

section Run

variable {env : Env} {s : Store} {call : DateTime × Request} {cart cart' : Cart}

theorem Law.advances (h : Law env s call cart cart') : cart.Advances cart' := by
  cases h with
  | edited _ _ hopen _ hversion _ =>
    exact Or.inr (Or.inl ⟨hopen.1, fun _ => by omega⟩)
  | merged _ hactive => exact Or.inr (Or.inl ⟨hactive, fun h => by cases h⟩)
  | checkedOut _ hopen _ => exact Or.inr (Or.inl ⟨hopen.1, fun h => by cases h⟩)
  | expired _ _ =>
    by_cases hactive : cart.status = .active
    · exact Or.inr (Or.inl ⟨hactive, fun h => by cases h⟩)
    · exact Or.inr (Or.inr ⟨hactive, CartStatus.noConfusion, rfl⟩)

theorem Moves.advances (h : Moves env s call cart cart') : cart.Advances cart' := by
  cases h with
  | refl => exact .refl cart
  | single hlaw => exact hlaw.advances

theorem advances_run (hs : Sound env s) (calls : List (DateTime × Request)) :
    s.carts.Follows Cart.Advances (run (step env) s calls).carts := by
  have hstep : ∀ t call, Sound env t ∧ s.carts.Follows Cart.Advances t.carts →
      Sound env (step env t call) ∧ s.carts.Follows Cart.Advances (step env t call).carts := by
    rintro t call ⟨ht, hfollows⟩
    refine ⟨sound_step ht call, .trans Cart.Advances.trans hfollows fun cart hcart => ?_⟩
    obtain ⟨cart', hcart', hid, hmoves⟩ := (Strokes.lawful ht (ht.strokes call)).moves cart hcart
    exact ⟨cart', hcart', hid, hmoves.advances⟩
  exact (run_keeps_all hstep calls ⟨hs, .refl Cart.Advances.refl _⟩).2

/-- Between any two states of a run, every cart stays stored and goes on as
`Advances` allows. -/
theorem carts_advance (env : Env) (before after : List (DateTime × Request)) :
    (run (step env) Store.empty before).carts.Follows Cart.Advances
      (run (step env) (run (step env) Store.empty before) after).carts :=
  advances_run (sound_run before) after

end Run

end Carts
end Marketplace
