import Mathlib.Data.List.Nodup
import Mathlib.Data.List.Sort

/-!
# Listings by a key

A query that orders rows by a key returns all of them, and leaves the order of rows
with one key open: `Listing` says all it may return.  When each row has a tag of its
own, `listing_in_order_iff` decides whether the tags come in the order of the rows
whatever is returned.
-/

namespace Base

universe u v w

section Listing

variable {α : Type u} {β : Type v} {κ : Type w} [LinearOrder κ] {key : α → κ} {tag : α → β}
  {rows out : List α}

/-- What a query that orders the rows by the key may return. -/
structure Listing (key : α → κ) (rows out : List α) : Prop where
  complete : out.Perm rows
  sorted : out.Pairwise fun a b => key a ≤ key b

/-- A list that repeats nothing has two of its elements in one order only. -/
theorem not_swapped {l : List β} (hnodup : l.Nodup) {a b : β} (hab : [a, b].Sublist l) :
    ¬[b, a].Sublist l := by
  induction l with
  | nil => exact fun _ => nomatch hab
  | cons c l ih =>
    obtain ⟨hc, hnodup⟩ := List.nodup_cons.mp hnodup
    have hrest : ∀ {x y : β}, [x, y].Sublist (c :: l) → [x, y].Sublist l ∨ (x = c ∧ y ∈ l) := by
      intro x y h
      rcases List.sublist_cons_iff.mp h with h | ⟨r, hr, hl⟩
      · exact Or.inl h
      · obtain ⟨rfl, rfl⟩ := List.cons.inj hr
        exact Or.inr ⟨rfl, List.singleton_sublist.mp hl⟩
    intro hba
    rcases hrest hab with hab' | ⟨rfl, hb⟩
    · rcases hrest hba with hba' | ⟨rfl, -⟩
      · exact ih hnodup hab' hba'
      · exact hc (hab'.subset (List.mem_cons_of_mem a List.mem_cons_self))
    · rcases hrest hba with hba' | ⟨rfl, -⟩
      · exact hc (hba'.subset (List.mem_cons_of_mem b List.mem_cons_self))
      · exact hc hb

/-- Any two rows, one before the other, can be returned the other way round unless
the key of the first is below. -/
theorem exists_listing_swapped {a b : α} (hab : [a, b].Sublist rows) (hkey : key b ≤ key a) :
    ∃ out, Listing key rows out ∧ [b, a].Sublist out := by
  have htrans : ∀ x y z, decide (key x ≤ key y) → decide (key y ≤ key z) →
      decide (key x ≤ key z) := by
    intro x y z hxy hyz
    simp only [decide_eq_true_eq] at hxy hyz ⊢
    exact hxy.trans hyz
  have htotal : ∀ x y, (decide (key x ≤ key y) || decide (key y ≤ key x)) = true := by
    intro x y
    simpa using le_total (key x) (key y)
  refine ⟨rows.reverse.mergeSort fun x y => decide (key x ≤ key y), ⟨?_, ?_⟩, ?_⟩
  · exact (List.mergeSort_perm _ _).trans rows.reverse_perm
  · exact (List.pairwise_mergeSort htrans htotal _).imp fun h => decide_eq_true_eq.mp h
  · exact List.pair_sublist_mergeSort htrans htotal (decide_eq_true hkey) hab.reverse

/-- A tag before another is that of a row before another. -/
theorem rows_of_tags (hnodup : (rows.map tag).Nodup) {a b : α} (ha : a ∈ rows) (hb : b ∈ rows)
    (h : [tag a, tag b].Sublist (rows.map tag)) : [a, b].Sublist rows := by
  obtain ⟨l, hl, htags⟩ := List.sublist_map_iff.mp h
  obtain ⟨a', b', rfl, ha', hb'⟩ : ∃ a' b', l = [a', b'] ∧ tag a' = tag a ∧ tag b' = tag b := by
    simpa [List.map_eq_cons_iff] using htags.symm
  have hinj := List.inj_on_of_nodup_map hnodup
  obtain rfl : a' = a := hinj (hl.subset List.mem_cons_self) ha ha'
  obtain rfl : b' = b := hinj (hl.subset (List.mem_cons_of_mem a' List.mem_cons_self)) hb hb'
  exact hl

/-- Whatever is returned is in the order of the rows if and only if their keys
strictly increase in that order. -/
theorem listing_in_order_iff (hnodup : (rows.map tag).Nodup) :
    (∀ out, Listing key rows out → out.map tag = rows.map tag) ↔
      ∀ a ∈ rows, ∀ b ∈ rows, [tag a, tag b].Sublist (rows.map tag) → key a < key b := by
  constructor
  · intro horder a ha b hb hab
    by_contra hkey
    obtain ⟨out, hout, hba⟩ :=
      exists_listing_swapped (rows_of_tags hnodup ha hb hab) (not_lt.mp hkey)
    have hswapped : [tag b, tag a].Sublist (rows.map tag) := horder out hout ▸ hba.map tag
    exact not_swapped hnodup hab hswapped
  · intro hkeys out hout
    have hstrict : rows.Pairwise fun a b => key a < key b := by
      rw [List.pairwise_iff_forall_sublist]
      intro a b hab
      exact hkeys a (hab.subset List.mem_cons_self) b
        (hab.subset (List.mem_cons_of_mem a List.mem_cons_self)) (hab.map tag)
    have hinj := List.inj_on_of_nodup_map (hstrict.map key (S := (· ≠ ·)) fun _ _ h => h.ne)
    -- No two rows have one key, so there is one way to return them.
    rw [hout.complete.eq_of_pairwise (fun a b ha hb hab hba => ?_) hout.sorted
      (hstrict.imp fun h => h.le)]
    exact hinj (hout.complete.subset ha) hb (le_antisymm hab hba)

end Listing

end Base
