import Mathlib.Algebra.BigOperators.Group.Finset.Basic
import Mathlib.Algebra.BigOperators.Group.List.Basic
import Mathlib.Data.List.Nodup
import Mathlib.Data.Multiset.MapFold
import Mathlib.Data.Multiset.ZeroCons

/-!
# Keyed tables

A table holds rows under a key that no two rows share.  The key constraint is a
field, so a table with a repeated key cannot be built, and every lookup lemma
below rests on it.

`get?` reads one row, `put` overwrites the row with the same key and leaves the
table alone when there is none, and `insert?` refuses a key that is taken.  The
multiset of rows is what sums over a table are taken of, and
`exists_rows_eq_cons` says that `put` exchanges exactly one of its elements.
-/

namespace Base

universe u v w

/-- Rows in insertion order, no two with the same key. -/
structure Table {ρ : Type u} {κ : Type v} (key : ρ → κ) where
  rows : List ρ
  nodup : (rows.map key).Nodup

namespace Table

variable {ρ : Type u} {κ : Type v} {key : ρ → κ}

instance : Membership ρ (Table key) := ⟨fun t r => r ∈ t.rows⟩

def empty : Table key := ⟨[], List.nodup_nil⟩

theorem mem_def {t : Table key} {r : ρ} : r ∈ t ↔ r ∈ t.rows := Iff.rfl

@[simp] theorem not_mem_empty (r : ρ) : r ∉ (empty : Table key) := List.not_mem_nil

/-- Two rows of one table with the same key are the same row. -/
theorem eq_of_key_eq {t : Table key} {a b : ρ} (ha : a ∈ t) (hb : b ∈ t)
    (h : key a = key b) : a = b :=
  List.inj_on_of_nodup_map t.nodup ha hb h

/-- The multiset of rows, which sums over a table are taken of. -/
def toMultiset (t : Table key) : Multiset ρ := t.rows

variable [DecidableEq κ]

def get? (t : Table key) (k : κ) : Option ρ := t.rows.find? fun r => key r = k

theorem get?_eq_some {t : Table key} {k : κ} {r : ρ} :
    t.get? k = some r ↔ r ∈ t ∧ key r = k := by
  constructor
  · intro h
    exact ⟨List.mem_of_find?_eq_some h, by simpa using List.find?_some h⟩
  · rintro ⟨hr, rfl⟩
    cases h : t.get? (key r) with
    | none => exact absurd (decide_eq_true rfl) (List.find?_eq_none.mp h r hr)
    | some r' =>
      have hr' : r' ∈ t := List.mem_of_find?_eq_some h
      have hk : key r' = key r := by simpa using List.find?_some h
      rw [eq_of_key_eq hr' hr hk]

theorem get?_eq_none {t : Table key} {k : κ} : t.get? k = none ↔ ∀ r ∈ t, key r ≠ k := by
  simp [get?, mem_def]

theorem get?_key {t : Table key} {r : ρ} (hr : r ∈ t) : t.get? (key r) = some r :=
  get?_eq_some.mpr ⟨hr, rfl⟩

theorem mem_of_get? {t : Table key} {k : κ} {r : ρ} (h : t.get? k = some r) : r ∈ t :=
  (get?_eq_some.mp h).1

theorem key_of_get? {t : Table key} {k : κ} {r : ρ} (h : t.get? k = some r) : key r = k :=
  (get?_eq_some.mp h).2

/-! ## Overwriting a row -/

/-- Overwrite the row with `r`'s key. -/
def put (t : Table key) (r : ρ) : Table key where
  rows := t.rows.map fun x => if key x = key r then r else x
  nodup := by
    have h : (t.rows.map fun x => if key x = key r then r else x).map key = t.rows.map key := by
      rw [List.map_map]
      refine List.map_congr_left fun x _ => ?_
      by_cases hx : key x = key r <;> simp [hx]
    rw [h]
    exact t.nodup

theorem mem_put {t : Table key} {r x : ρ} :
    x ∈ t.put r ↔ (x = r ∧ ∃ y ∈ t, key y = key r) ∨ (x ∈ t ∧ key x ≠ key r) := by
  simp only [mem_def, put, List.mem_map]
  constructor
  · rintro ⟨y, hy, hxy⟩
    by_cases hk : key y = key r
    · rw [if_pos hk] at hxy
      exact Or.inl ⟨hxy.symm, y, hy, hk⟩
    · rw [if_neg hk] at hxy
      subst hxy
      exact Or.inr ⟨hy, hk⟩
  · rintro (⟨rfl, y, hy, hk⟩ | ⟨hx, hk⟩)
    · exact ⟨y, hy, if_pos hk⟩
    · exact ⟨x, hx, if_neg hk⟩

theorem mem_put_self {t : Table key} {r y : ρ} (hy : y ∈ t) (hk : key r = key y) : r ∈ t.put r :=
  mem_put.mpr (Or.inl ⟨rfl, y, hy, hk.symm⟩)

/-- The rows after a stored row has been overwritten. -/
theorem mem_put_of_mem {t : Table key} {r y x : ρ} (hy : y ∈ t) (hk : key r = key y) :
    x ∈ t.put r ↔ x = r ∨ (x ∈ t ∧ key x ≠ key y) := by
  rw [mem_put, hk]
  constructor
  · rintro (⟨rfl, -⟩ | hx)
    · exact Or.inl rfl
    · exact Or.inr hx
  · rintro (rfl | hx)
    · exact Or.inl ⟨rfl, y, hy, rfl⟩
    · exact Or.inr hx

theorem get?_put (t : Table key) (r : ρ) (k : κ) :
    (t.put r).get? k = if k = key r then (t.get? k).map fun _ => r else t.get? k := by
  by_cases hk : k = key r
  · subst hk
    rw [if_pos rfl]
    cases h : t.get? (key r) with
    | none =>
      refine get?_eq_none.mpr fun x hx => ?_
      rcases mem_put.mp hx with ⟨-, y, hy, hyr⟩ | ⟨-, hne⟩
      · exact absurd hyr (get?_eq_none.mp h y hy)
      · exact hne
    | some y =>
      obtain ⟨hy, hyk⟩ := get?_eq_some.mp h
      exact get?_eq_some.mpr ⟨mem_put.mpr (Or.inl ⟨rfl, y, hy, hyk⟩), rfl⟩
  · rw [if_neg hk]
    cases h : t.get? k with
    | none =>
      refine get?_eq_none.mpr fun x hx => ?_
      rcases mem_put.mp hx with ⟨rfl, -⟩ | ⟨hx, -⟩
      · exact fun e => hk e.symm
      · exact get?_eq_none.mp h x hx
    | some y =>
      obtain ⟨hy, hyk⟩ := get?_eq_some.mp h
      exact get?_eq_some.mpr ⟨mem_put.mpr (Or.inr ⟨hy, fun e => hk (hyk ▸ e)⟩), hyk⟩

theorem get?_put_ne {t : Table key} {r : ρ} {k : κ} (h : k ≠ key r) :
    (t.put r).get? k = t.get? k := by
  rw [get?_put, if_neg h]

theorem get?_put_self {t : Table key} {r x : ρ} {k : κ} (h : t.get? k = some x)
    (hk : key r = k) : (t.put r).get? k = some r := by
  rw [get?_put, if_pos hk.symm, h]
  rfl

/-! ## Adding a row -/

/-- Add a row at the end, unless its key is taken. -/
def insert? (t : Table key) (r : ρ) : Option (Table key) :=
  if h : key r ∈ t.rows.map key then none
  else some ⟨t.rows ++ [r], by
    rw [List.map_append, List.map_singleton]
    exact List.Nodup.append t.nodup (List.nodup_singleton _)
      (List.disjoint_singleton.mpr h)⟩

theorem insert?_eq_some {t t' : Table key} {r : ρ} (h : t.insert? r = some t') :
    (∀ x ∈ t, key x ≠ key r) ∧ t'.rows = t.rows ++ [r] := by
  unfold insert? at h
  split at h
  · cases h
  · rename_i hne
    refine ⟨fun x hx e => hne (e ▸ List.mem_map_of_mem hx), ?_⟩
    cases h
    rfl

theorem insert?_isSome {t : Table key} {r : ρ} (h : ∀ x ∈ t, key x ≠ key r) :
    ∃ t', t.insert? r = some t' := by
  have hne : key r ∉ t.rows.map key := by
    intro hm
    obtain ⟨x, hx, he⟩ := List.mem_map.mp hm
    exact h x hx he
  exact ⟨_, dif_neg hne⟩

theorem mem_insert? {t t' : Table key} {r x : ρ} (h : t.insert? r = some t') :
    x ∈ t' ↔ x ∈ t ∨ x = r := by
  rw [mem_def, (insert?_eq_some h).2, List.mem_append, List.mem_singleton]
  rfl

theorem get?_insert? {t t' : Table key} {r : ρ} (h : t.insert? r = some t') (k : κ) :
    t'.get? k = if k = key r then some r else t.get? k := by
  by_cases hk : k = key r
  · rw [if_pos hk, hk]
    exact get?_key ((mem_insert? h).mpr (Or.inr rfl))
  · rw [if_neg hk]
    cases hg : t.get? k with
    | none =>
      refine get?_eq_none.mpr fun x hx => ?_
      rcases (mem_insert? h).mp hx with hx | rfl
      · exact get?_eq_none.mp hg x hx
      · exact fun e => hk e.symm
    | some y =>
      obtain ⟨hy, hyk⟩ := get?_eq_some.mp hg
      exact get?_eq_some.mpr ⟨(mem_insert? h).mpr (Or.inl hy), hyk⟩

/-! ## Removing a row -/

/-- Remove the row with a key. -/
def erase (t : Table key) (k : κ) : Table key where
  rows := t.rows.filter fun r => key r ≠ k
  nodup := t.nodup.sublist (List.filter_sublist.map key)

theorem mem_erase {t : Table key} {k : κ} {r : ρ} : r ∈ t.erase k ↔ r ∈ t ∧ key r ≠ k := by
  simp [mem_def, erase]

/-! ## What all rows have in common -/

section Forall

variable {t t' : Table key} {r : ρ} {P : ρ → Prop}

theorem forall_put (h : ∀ x ∈ t, P x) (hr : P r) : ∀ x ∈ t.put r, P x := by
  intro x hx
  rcases mem_put.mp hx with ⟨rfl, -⟩ | ⟨hx, -⟩
  · exact hr
  · exact h x hx

theorem forall_insert (h : ∀ x ∈ t, P x) (hr : P r) (hinsert : t.insert? r = some t') :
    ∀ x ∈ t', P x := by
  intro x hx
  rcases (mem_insert? hinsert).mp hx with hx | rfl
  · exact h x hx
  · exact hr

theorem forall_put_iff (h : ∀ x ∈ t, P x) {y : ρ} (hy : y ∈ t) (hk : key r = key y) :
    (∀ x ∈ t.put r, P x) ↔ P r :=
  ⟨fun hall => hall r (mem_put_self hy hk), forall_put h⟩

theorem forall_insert_iff (h : ∀ x ∈ t, P x) (hinsert : t.insert? r = some t') :
    (∀ x ∈ t', P x) ↔ P r :=
  ⟨fun hall => hall r ((mem_insert? hinsert).mpr (Or.inr rfl)),
    fun hr => forall_insert h hr hinsert⟩

theorem forall_erase (h : ∀ x ∈ t, P x) (k : κ) : ∀ x ∈ t.erase k, P x :=
  fun x hx => h x (mem_erase.mp hx).1

end Forall

/-! ## Unique indexes -/

/-- No two rows have one value under the index; a row may have none. -/
def Unique {α : Type w} (index : ρ → Option α) (t : Table key) : Prop :=
  ∀ a ∈ t, ∀ b ∈ t, index a = index b → index a ≠ none → a = b

section Unique

variable {α : Type w} {index : ρ → Option α} {t t' : Table key} {r x : ρ}

omit [DecidableEq κ] in
theorem Unique.empty : Unique index (empty : Table key) := fun a ha => absurd ha (not_mem_empty a)

theorem Unique.put (h : t.Unique index) (hget : t.get? (key r) = some x)
    (hindex : index r = index x ∨ index r = none) : (t.put r).Unique index := by
  obtain ⟨hx, hkx⟩ := get?_eq_some.mp hget
  have hnew : ∀ b ∈ t, key b ≠ key r → index r = index b → index r ≠ none → False := by
    intro b hb hkb he hne
    rcases hindex with hsame | hnone
    · have hbx : x = b := h x hx b hb (hsame ▸ he) (hsame ▸ hne)
      exact hkb (hbx ▸ hkx)
    · exact hne hnone
  intro a ha b hb he hne
  rcases mem_put.mp ha with ⟨har, -⟩ | ⟨hat, hka⟩
  · rcases mem_put.mp hb with ⟨hbr, -⟩ | ⟨hbt, hkb⟩
    · exact har.trans hbr.symm
    · exact (hnew b hbt hkb (har ▸ he) (har ▸ hne)).elim
  · rcases mem_put.mp hb with ⟨hbr, -⟩ | ⟨hbt, hkb⟩
    · exact (hnew a hat hka (hbr ▸ he.symm) (hbr ▸ he ▸ hne)).elim
    · exact h a hat b hbt he hne

theorem Unique.insert (h : t.Unique index) (hfree : ∀ a ∈ t, index a = index r → index a = none)
    (hinsert : t.insert? r = some t') : t'.Unique index := by
  intro a ha b hb he hne
  rcases (mem_insert? hinsert).mp ha with ha | rfl
  · rcases (mem_insert? hinsert).mp hb with hb | rfl
    · exact h a ha b hb he hne
    · exact absurd (hfree a ha he) hne
  · rcases (mem_insert? hinsert).mp hb with hb | rfl
    · exact absurd (he.trans (hfree b hb he.symm)) hne
    · rfl

end Unique

/-! ## Rows that change -/

/-- Every row is kept, or changed as `R` allows. -/
def Follows (R : ρ → ρ → Prop) (t t' : Table key) : Prop :=
  ∀ r ∈ t, ∃ r' ∈ t', key r' = key r ∧ R r r'

section Follows

variable {R : ρ → ρ → Prop}

omit [DecidableEq κ] in
theorem Follows.refl (hR : ∀ r, R r r) (t : Table key) : Follows R t t :=
  fun r hr => ⟨r, hr, rfl, hR r⟩

omit [DecidableEq κ] in
theorem Follows.trans (hR : ∀ a b c, R a b → R b c → R a c) {t₁ t₂ t₃ : Table key}
    (h : Follows R t₁ t₂) (h' : Follows R t₂ t₃) : Follows R t₁ t₃ := by
  intro r hr
  obtain ⟨r', hr', hkey, hnew⟩ := h r hr
  obtain ⟨r'', hr'', hkey', hnew'⟩ := h' r' hr'
  exact ⟨r'', hr'', hkey'.trans hkey, hR r r' r'' hnew hnew'⟩

theorem Follows.put (hR : ∀ r, R r r) {t : Table key} {r r' : ρ} (hget : t.get? (key r') = some r)
    (h : R r r') : Follows R t (t.put r') := by
  intro x hx
  by_cases hk : key x = key r'
  · have hxr : x = r := Option.some.inj ((get?_key hx).symm.trans (hk ▸ hget))
    rw [hxr]
    exact ⟨r', mem_put_self hx hk.symm, (hxr ▸ hk).symm, h⟩
  · exact ⟨x, mem_put.mpr (Or.inr ⟨hx, hk⟩), rfl, hR x⟩

theorem Follows.insert (hR : ∀ r, R r r) {t t' : Table key} {r : ρ} (h : t.insert? r = some t') :
    Follows R t t' :=
  fun x hx => ⟨x, (mem_insert? h).mpr (Or.inl hx), rfl, hR x⟩

end Follows

/-! ## The multiset of rows -/

theorem toMultiset_insert? {t t' : Table key} {r : ρ} (h : t.insert? r = some t') :
    t'.toMultiset = r ::ₘ t.toMultiset := by
  rw [toMultiset, (insert?_eq_some h).2, toMultiset, Multiset.cons_coe]
  exact Multiset.coe_eq_coe.mpr (List.perm_append_singleton r t.rows)

/-- A stored row splits off the multiset of rows, and overwriting it exchanges
that one element. -/
theorem exists_rows_eq_cons {t : Table key} {x : ρ} (hx : x ∈ t) :
    ∃ m : Multiset ρ, t.toMultiset = x ::ₘ m ∧
      ∀ r : ρ, key r = key x → (t.put r).toMultiset = r ::ₘ m := by
  obtain ⟨l₁, l₂, hl⟩ := List.append_of_mem (mem_def.mp hx)
  have hne : ∀ y ∈ l₁ ++ l₂, key y ≠ key x := by
    have hn := t.nodup
    rw [hl, List.map_append, List.map_cons] at hn
    have hx' := (List.nodup_middle.mp hn).notMem
    intro y hy e
    exact hx' (by rw [← List.map_append, ← e]; exact List.mem_map_of_mem hy)
  refine ⟨(l₁ ++ l₂ : List ρ), ?_, ?_⟩
  · rw [toMultiset, hl, Multiset.cons_coe]
    exact Multiset.coe_eq_coe.mpr List.perm_middle
  · intro r hr
    have hkeep : ∀ l : List ρ, (∀ y ∈ l, key y ≠ key x) →
        (l.map fun y => if key y = key r then r else y) = l := by
      intro l hlne
      refine (List.map_congr_left fun y hy => ?_).trans (List.map_id l)
      rw [if_neg (by rw [hr]; exact hlne y hy), id]
    show ((t.rows.map fun y => if key y = key r then r else y : List ρ) : Multiset ρ) = _
    rw [hl, List.map_append, List.map_cons, if_pos hr.symm,
      hkeep l₁ fun y hy => hne y (List.mem_append_left _ hy),
      hkeep l₂ fun y hy => hne y (List.mem_append_right _ hy), Multiset.cons_coe]
    exact Multiset.coe_eq_coe.mpr List.perm_middle

/-! ## Sums over rows -/

variable {M : Type w} [AddCommMonoid M]

/-- What the row with a key weighs. -/
def weightAt (t : Table key) (weight : ρ → M) (k : κ) : M := ((t.get? k).map weight).getD 0

theorem sum_rows (t : Table key) (weight : ρ → M) :
    (t.rows.map weight).sum = ∑ k ∈ (t.rows.map key).toFinset, t.weightAt weight k := by
  rw [List.sum_toFinset _ t.nodup, List.map_map]
  refine congrArg List.sum (List.map_congr_left fun r hr => ?_)
  show weight r = ((t.get? (key r)).map weight).getD 0
  rw [get?_key hr]
  rfl

/-- A sum over a table does not change when every row keeps its weight and new
rows weigh nothing. -/
theorem sum_kept {t t' : Table key} {weight weight' : ρ → M}
    (hkept : ∀ r ∈ t, ∃ r' ∈ t', key r' = key r ∧ weight' r' = weight r)
    (hnew : ∀ r' ∈ t', (∃ r ∈ t, key r = key r') ∨ weight' r' = 0) :
    (t'.rows.map weight').sum = (t.rows.map weight).sum := by
  rw [sum_rows, sum_rows]
  symm
  have hsub : (t.rows.map key).toFinset ⊆ (t'.rows.map key).toFinset := by
    intro k hk
    obtain ⟨r, hr, rfl⟩ := List.mem_map.mp (List.mem_toFinset.mp hk)
    obtain ⟨r', hr', hkey, -⟩ := hkept r hr
    exact List.mem_toFinset.mpr (List.mem_map.mpr ⟨r', hr', hkey⟩)
  refine (Finset.sum_congr rfl fun k hk => ?_).trans (Finset.sum_subset hsub fun k hk hnot => ?_)
  · obtain ⟨r, hr, rfl⟩ := List.mem_map.mp (List.mem_toFinset.mp hk)
    obtain ⟨r', hr', hkey, hweight⟩ := hkept r hr
    rw [weightAt, weightAt, get?_key hr, ← hkey, get?_key hr', Option.map_some, Option.map_some,
      hweight]
  · obtain ⟨r', hr', rfl⟩ := List.mem_map.mp (List.mem_toFinset.mp hk)
    rw [weightAt, get?_key hr']
    refine (hnew r' hr').resolve_left ?_
    rintro ⟨r, hr, hkey⟩
    exact hnot (List.mem_toFinset.mpr (List.mem_map.mpr ⟨r, hr, hkey⟩))

end Table
end Base
