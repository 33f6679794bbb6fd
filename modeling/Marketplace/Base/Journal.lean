import Mathlib.Algebra.BigOperators.Group.List.Basic
import Mathlib.Algebra.Order.BigOperators.Group.List
import Mathlib.Data.List.Nodup
import Mathlib.Logic.Function.Basic

/-!
# Journals

A journal lists changes to accounts, the oldest first.  An entry says which
account it changes and by how much, and what it leaves there.  A journal explains
the balances when every account stands at the total of its changes, and every
entry left what its account's changes had come to by then.

`Explains.extend` adds a group of entries, one for each account that changed.
-/

namespace Base

universe u v w

/-- How the entries of a journal are read. -/
structure Journal (ε : Type u) (κ : Type v) (M : Type w) where
  account : ε → κ
  change : ε → M
  result : ε → M

section Total

variable {ε : Type u} {κ : Type v} {M : Type w} [DecidableEq κ] [AddCommMonoid M]

/-- What the entries come to on one account. -/
def total (account : ε → κ) (change : ε → M) (es : List ε) (k : κ) : M :=
  ((es.filter fun e => account e = k).map change).sum

variable {account : ε → κ} {change : ε → M}

@[simp] theorem total_nil (k : κ) : total account change [] k = 0 := rfl

theorem total_append (es es' : List ε) (k : κ) :
    total account change (es ++ es') k = total account change es k + total account change es' k := by
  simp only [total, List.filter_append, List.map_append, List.sum_append]

theorem total_singleton (e : ε) (k : κ) :
    total account change [e] k = if account e = k then change e else 0 := by
  unfold total
  by_cases h : account e = k <;> simp [h]

theorem total_eq_zero {es : List ε} {k : κ} (h : ∀ e ∈ es, account e ≠ k) :
    total account change es k = 0 := by
  rw [total, List.filter_eq_nil_iff.mpr fun e he => by simpa using h e he]
  rfl

theorem total_pairs (es : List ε) (k : κ) : total account change es k =
    total Prod.fst Prod.snd (es.map fun e => (account e, change e)) k := by
  rw [total, total, List.filter_map, List.map_map]
  rfl

/-- Two lists of entries that change the same accounts by the same amounts. -/
theorem total_congr {ε' : Type*} {account' : ε' → κ} {change' : ε' → M} {es : List ε}
    {es' : List ε'}
    (h : es.map (fun e => (account e, change e)) = es'.map fun e => (account' e, change' e))
    (k : κ) : total account change es k = total account' change' es' k := by
  rw [total_pairs, h, ← total_pairs]

/-- The totals of several accounts add up to what their entries come to. -/
theorem sum_total {ks : List κ} (hks : ks.Nodup) (es : List ε) :
    (ks.map (total account change es)).sum =
      ((es.filter fun e => account e ∈ ks).map change).sum := by
  induction ks with
  | nil => simp
  | cons k ks ih =>
    rw [List.nodup_cons] at hks
    rw [List.map_cons, List.sum_cons, ih hks.2, total]
    clear ih
    induction es with
    | nil => simp
    | cons e es ih =>
      simp only [List.mem_cons, Bool.decide_or] at ih
      by_cases hk : account e = k
      · simp [hk, hks.1, ← ih, add_assoc]
      · by_cases hmem : account e ∈ ks
        · simp [hk, hmem, ← ih, add_left_comm]
        · simpa [hk, hmem] using ih

/-- A sum over some of the entries, as one in which the others weigh nothing. -/
theorem sum_filter (p : ε → Bool) (f : ε → M) (es : List ε) :
    ((es.filter p).map f).sum = (es.map fun e => if p e then f e else 0).sum := by
  rw [List.sum_map_ite, List.sum_map_zero, add_zero]
  simp only [Bool.decide_eq_true]

/-- Totals go through additive maps. -/
theorem map_total {N : Type*} [AddCommMonoid N] (f : M →+ N) (es : List ε) (k : κ) :
    f (total account change es k) = total account (fun e => f (change e)) es k := by
  rw [total, map_list_sum, List.map_map]
  rfl

/-- Gains add up to a gain. -/
theorem total_pos {M : Type*} [AddCommMonoid M] [PartialOrder M] [IsOrderedAddMonoid M]
    {change : ε → M} {es : List ε} (h : ∀ e ∈ es, 0 < change e) {e : ε} (he : e ∈ es) :
    0 < total account change es (account e) := by
  have hmem : e ∈ es.filter fun x => account x = account e :=
    List.mem_filter.mpr ⟨he, decide_eq_true rfl⟩
  refine (h e he).trans_le (List.single_le_sum (fun n hn => ?_) _ (List.mem_map_of_mem hmem))
  obtain ⟨x, hx, rfl⟩ := List.mem_map.mp hn
  exact (h x (List.mem_of_mem_filter hx)).le

end Total

namespace Journal

variable {ε : Type u} {κ : Type v} {M : Type w} [DecidableEq κ] [AddCommMonoid M]

/-- The journal accounts for the balances. -/
structure Explains (j : Journal ε κ M) (es : List ε) (balance : κ → M) : Prop where
  balances : ∀ k, balance k = total j.account j.change es k
  running : ∀ past e later, es = past ++ e :: later →
    j.result e = total j.account j.change (past ++ [e]) (j.account e)

variable {j : Journal ε κ M} {es : List ε} {balance balance' : κ → M}

theorem Explains.nil (j : Journal ε κ M) : j.Explains [] fun _ => 0 where
  balances _ := rfl
  running past e later h := by
    have := congrArg List.length h
    simp at this

/-- One entry, about the one account that changed. -/
theorem Explains.post (h : j.Explains es balance) {e : ε} (hresult : j.result e = balance' (j.account e))
    (hchange : balance' (j.account e) = balance (j.account e) + j.change e)
    (hother : ∀ k, k ≠ j.account e → balance' k = balance k) : j.Explains (es ++ [e]) balance' where
  balances k := by
    rw [total_append, total_singleton, ← h.balances]
    by_cases hk : j.account e = k
    · subst hk
      rw [if_pos rfl, hchange]
    · rw [if_neg hk, add_zero, hother k (Ne.symm hk)]
  running past x later hsplit := by
    rcases List.eq_nil_or_concat later with rfl | ⟨later, y, rfl⟩
    · obtain ⟨rfl, hx⟩ := List.append_inj' hsplit rfl
      cases hx
      rw [hresult, hchange, total_append, total_singleton, if_pos rfl, h.balances]
    · rw [List.concat_eq_append, ← List.cons_append, ← List.append_assoc] at hsplit
      exact h.running past x later (List.append_inj' hsplit rfl).1

/-- A group of entries, one for each account that changed. -/
theorem Explains.extend (h : j.Explains es balance) {new : List ε}
    (hnodup : (new.map j.account).Nodup)
    (hposted : ∀ e ∈ new, j.result e = balance' (j.account e) ∧
      balance' (j.account e) = balance (j.account e) + j.change e)
    (hquiet : ∀ k, k ∉ new.map j.account → balance' k = balance k) :
    j.Explains (es ++ new) balance' := by
  induction new generalizing es balance with
  | nil =>
    have hsame : balance' = balance := funext fun k => hquiet k List.not_mem_nil
    rw [List.append_nil, hsame]
    exact h
  | cons e rest ih =>
    rw [List.map_cons, List.nodup_cons] at hnodup
    obtain ⟨hresult, hchange⟩ := hposted e List.mem_cons_self
    -- The balances once the first entry is in and the others are not.
    let mid := Function.update balance (j.account e) (balance' (j.account e))
    have hat : mid (j.account e) = balance' (j.account e) := Function.update_self _ _ _
    have hoff : ∀ k, k ≠ j.account e → mid k = balance k := fun k hk =>
      Function.update_of_ne hk _ _
    have hmid : j.Explains (es ++ [e]) mid :=
      h.post (hat.symm ▸ hresult) (hat.trans hchange) hoff
    rw [← List.singleton_append, ← List.append_assoc]
    refine ih hmid hnodup.2 (fun x hx => ?_) fun k hk => ?_
    · have hne : j.account x ≠ j.account e := fun he =>
        hnodup.1 (he ▸ List.mem_map_of_mem hx)
      rw [hoff _ hne]
      exact hposted x (List.mem_cons_of_mem e hx)
    · by_cases he : k = j.account e
      · rw [he, hat]
      · rw [hoff k he]
        refine hquiet k fun hmem => ?_
        rcases List.mem_cons.mp hmem with hmem | hmem
        · exact he hmem
        · exact hk hmem

end Journal
end Base
