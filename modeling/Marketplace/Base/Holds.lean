import Mathlib.Data.Multiset.Filter
import Mathlib.Algebra.BigOperators.Group.Multiset.Basic
import Mathlib.Algebra.Order.BigOperators.Group.Multiset
import Mathlib.Algebra.Order.Group.Int
import Mathlib.Logic.Function.Basic
import Mathlib.Logic.Relation

/-!
# Stock with outstanding holds

A pool keeps, for each kind of unit, how many are on hand, together with the
outstanding holds on them.  A hold is placed on units nobody else holds; it ends
either by being dropped, which frees its units, or by being consumed, which
takes them out of stock.  Stock may be restocked to any level that still covers
what is held.

A pool is sound when holds are positive and the stock on hand covers them.
`Sound.steps` says that no sequence of these moves makes a sound pool unsound.
-/

namespace Base

universe u

structure Pool (ι : Type u) where
  onHand : ι → ℤ
  holds : Multiset (ι × ℤ)

namespace Pool

variable {ι : Type u} [DecidableEq ι]

/-- Units of `i` under a hold. -/
def held (p : Pool ι) (i : ι) : ℤ := ((p.holds.filter fun h => h.1 = i).map Prod.snd).sum

/-- Units of `i` on hand that nobody holds. -/
def free (p : Pool ι) (i : ι) : ℤ := p.onHand i - p.held i

structure Sound (p : Pool ι) : Prop where
  positive : ∀ h ∈ p.holds, 0 < h.2
  covered : ∀ i, p.held i ≤ p.onHand i

inductive Step : Pool ι → Pool ι → Prop
  | restock (p : Pool ι) (i : ι) (n : ℤ) : p.held i ≤ n →
      Step p ⟨Function.update p.onHand i n, p.holds⟩
  | hold (p : Pool ι) (i : ι) (q : ℤ) : 0 < q → q ≤ p.free i →
      Step p ⟨p.onHand, (i, q) ::ₘ p.holds⟩
  | drop (s : ι → ℤ) (m : Multiset (ι × ℤ)) (i : ι) (q : ℤ) : Step ⟨s, (i, q) ::ₘ m⟩ ⟨s, m⟩
  | consume (s : ι → ℤ) (m : Multiset (ι × ℤ)) (i : ι) (q : ℤ) :
      Step ⟨s, (i, q) ::ₘ m⟩ ⟨Function.update s i (s i - q), m⟩

/-- Any number of moves. -/
abbrev Steps : Pool ι → Pool ι → Prop := Relation.ReflTransGen Step

/-! ## The held count -/

theorem held_cons (s : ι → ℤ) (m : Multiset (ι × ℤ)) (h : ι × ℤ) (i : ι) :
    held ⟨s, h ::ₘ m⟩ i = (if h.1 = i then h.2 else 0) + held ⟨s, m⟩ i := by
  unfold held
  by_cases hi : h.1 = i <;> simp [hi]

theorem held_nonneg {p : Pool ι} (h : ∀ x ∈ p.holds, 0 < x.2) (i : ι) : 0 ≤ p.held i := by
  refine Multiset.sum_nonneg fun q hq => ?_
  obtain ⟨x, hx, rfl⟩ := Multiset.mem_map.mp hq
  exact (h x (Multiset.mem_of_mem_filter hx)).le

theorem Sound.held_nonneg {p : Pool ι} (h : p.Sound) (i : ι) : 0 ≤ p.held i :=
  Pool.held_nonneg h.positive i

/-- One hold is no larger than what is held in all. -/
theorem Sound.le_held {p : Pool ι} (h : p.Sound) {i : ι} {q : ℤ} (hq : (i, q) ∈ p.holds) :
    q ≤ p.held i := by
  obtain ⟨m, hm⟩ := Multiset.exists_cons_of_mem hq
  have hrest : ∀ x ∈ m, 0 < x.2 := fun x hx =>
    h.positive x (hm ▸ Multiset.mem_cons_of_mem hx)
  have hsum : p.held i = q + held ⟨p.onHand, m⟩ i := by
    show held ⟨p.onHand, p.holds⟩ i = _
    rw [hm, held_cons, if_pos rfl]
  have hnn : 0 ≤ held ⟨p.onHand, m⟩ i := Pool.held_nonneg hrest i
  omega

/-! ## Soundness along a run -/

theorem Sound.empty : Sound (⟨fun _ => 0, 0⟩ : Pool ι) where
  positive _ h := absurd h (Multiset.notMem_zero _)
  covered _ := le_rfl

theorem Sound.step {p p' : Pool ι} (hp : p.Sound) (h : Step p p') : p'.Sound := by
  cases h with
  | restock _ i n hn =>
    refine ⟨hp.positive, fun j => ?_⟩
    show p.held j ≤ Function.update p.onHand i n j
    by_cases hj : j = i
    · subst hj
      rw [Function.update_self]
      exact hn
    · rw [Function.update_of_ne hj]
      exact hp.covered j
  | hold _ i q hpos hfree =>
    refine ⟨?_, fun j => ?_⟩
    · intro x hx
      rcases Multiset.mem_cons.mp hx with rfl | hx
      · exact hpos
      · exact hp.positive x hx
    · have hj := hp.covered j
      rw [held_cons]
      split
      · next h =>
        subst h
        simp only [free] at hfree
        show q + p.held i ≤ p.onHand i
        omega
      · simpa using hj
  | drop s m i q =>
    have hq : 0 < q := hp.positive (i, q) (Multiset.mem_cons_self _ _)
    refine ⟨fun x hx => hp.positive x (Multiset.mem_cons_of_mem hx), fun j => ?_⟩
    have hj := hp.covered j
    rw [held_cons] at hj
    show held ⟨s, m⟩ j ≤ s j
    have : s j = (⟨s, (i, q) ::ₘ m⟩ : Pool ι).onHand j := rfl
    split at hj <;> simp only at hj <;> omega
  | consume s m i q =>
    refine ⟨fun x hx => hp.positive x (Multiset.mem_cons_of_mem hx), fun j => ?_⟩
    have hj : held ⟨s, (i, q) ::ₘ m⟩ j ≤ s j := hp.covered j
    rw [held_cons] at hj
    show held ⟨s, m⟩ j ≤ Function.update s i (s i - q) j
    by_cases hi : i = j
    · subst hi
      rw [if_pos rfl] at hj
      rw [Function.update_self]
      omega
    · rw [if_neg hi] at hj
      rw [Function.update_of_ne (Ne.symm hi)]
      omega

/-- No sequence of moves makes a sound pool unsound. -/
theorem Sound.steps {p p' : Pool ι} (hp : p.Sound) (h : Steps p p') : p'.Sound := by
  induction h with
  | refl => exact hp
  | tail _ hstep ih => exact ih.step hstep

end Pool
end Base
