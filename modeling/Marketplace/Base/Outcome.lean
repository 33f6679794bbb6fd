/-!
# Computations that may fail

`Except` carries the two ways a request can end.  The rules here take a
successful run apart: `bind_eq_ok` splits a sequence at its first step,
`require_eq_ok` and `orRaise_eq_ok` read a guard back as the fact it checked.
With them an equation `f s = .ok s'` becomes the list of facts the run
established, in order, without unfolding the monad.

The loop rule `foldlM_keeps` carries an invariant indexed by the elements still
to be processed.
-/

namespace Base

universe u v w x

variable {ε : Type u} {α : Type v} {β : Type v}

/-- Raise `e` unless `c` holds. -/
def require (c : Prop) [Decidable c] (e : ε) : Except ε Unit :=
  if c then .ok () else .error e

/-- The value, or raise `e` when there is none. -/
def orRaise (o : Option α) (e : ε) : Except ε α :=
  match o with
  | some a => .ok a
  | none => .error e

@[simp] theorem bind_eq_ok {x : Except ε α} {f : α → Except ε β} {b : β} :
    (x >>= f) = .ok b ↔ ∃ a, x = .ok a ∧ f a = .ok b := by
  cases x with
  | error e =>
    constructor
    · intro h
      cases h
    · rintro ⟨a, ha, -⟩
      cases ha
  | ok a =>
    constructor
    · intro h
      exact ⟨a, rfl, h⟩
    · rintro ⟨a', ha, h⟩
      cases ha
      exact h

@[simp] theorem pure_eq_ok {a b : α} : (pure a : Except ε α) = .ok b ↔ a = b := by
  constructor
  · intro h
    cases h
    rfl
  · rintro rfl
    rfl

@[simp] theorem map_eq_ok {x : Except ε α} {f : α → β} {b : β} :
    (f <$> x) = .ok b ↔ ∃ a, x = .ok a ∧ f a = b := by
  cases x with
  | error e =>
    constructor
    · intro h
      cases h
    · rintro ⟨a, ha, -⟩
      cases ha
  | ok a =>
    constructor
    · intro h
      cases h
      exact ⟨a, rfl, rfl⟩
    · rintro ⟨a', ha, rfl⟩
      cases ha
      rfl

@[simp] theorem require_eq_ok {c : Prop} [Decidable c] {e : ε} {u : Unit} :
    require c e = .ok u ↔ c := by
  unfold require
  split <;> simp_all

@[simp] theorem orRaise_eq_ok {o : Option α} {e : ε} {a : α} :
    orRaise o e = .ok a ↔ o = some a := by
  cases o <;> simp [orRaise]

theorem ok_of_toBool {x : Except ε α} (h : x.toBool = true) : ∃ a, x = .ok a := by
  cases x with
  | error e => cases h
  | ok a => exact ⟨a, rfl⟩

theorem require_pos {c : Prop} [Decidable c] {e : ε} (h : c) : require c e = .ok () :=
  if_pos h

theorem require_neg {c : Prop} [Decidable c] {e : ε} (h : ¬c) : require c e = .error e :=
  if_neg h

theorem ok_bind (a : α) (f : α → Except ε β) : (Except.ok a >>= f) = f a := rfl

theorem error_bind (e : ε) (f : α → Except ε β) : (Except.error e >>= f) = .error e := rfl

/-! ## Errors -/

/-- Every error a computation ends in is one of `P`. -/
def Raises (P : ε → Prop) (x : Except ε α) : Prop := ∀ e, x = .error e → P e

section Errors

variable {P : ε → Prop} {x : Except ε α}

theorem raises_ok (a : α) : Raises P (.ok a : Except ε α) := by
  intro e he
  cases he

theorem raises_error {e : ε} (h : P e) : Raises P (.error e : Except ε α) := by
  intro e' he
  cases he
  exact h

theorem raises_require {c : Prop} [Decidable c] {e : ε} (h : ¬c → P e) :
    Raises P (require c e) := by
  by_cases hc : c
  · rw [require_pos hc]
    exact raises_ok ()
  · rw [require_neg hc]
    exact raises_error (h hc)

theorem raises_orRaise {o : Option α} {e : ε} (h : o = none → P e) : Raises P (orRaise o e) := by
  cases o with
  | none => exact raises_error (h rfl)
  | some a => exact raises_ok a

theorem Raises.bind {f : α → Except ε β} (hx : Raises P x)
    (hf : ∀ a, x = .ok a → Raises P (f a)) : Raises P (x >>= f) := by
  cases x with
  | error e => exact raises_error (hx e rfl)
  | ok a => exact hf a rfl

theorem Raises.map {f : α → β} (hx : Raises P x) : Raises P (f <$> x) := by
  cases x with
  | error e => exact raises_error (hx e rfl)
  | ok a => exact raises_ok (f a)

end Errors

/-! ## Loops -/

section Loops

variable {σ : Type v} {γ : Type w} {f : σ → γ → Except ε σ}

/-- A loop that succeeded keeps an invariant of its remaining elements. -/
theorem foldlM_keeps (I : List γ → σ → Prop)
    (hstep : ∀ a rest s s', I (a :: rest) s → f s a = .ok s' → I rest s') :
    ∀ {l : List γ} {s s' : σ}, I l s → l.foldlM f s = .ok s' → I [] s' := by
  intro l
  induction l with
  | nil =>
    intro s s' hI h
    cases h
    exact hI
  | cons a rest ih =>
    intro s s' hI h
    rw [List.foldlM_cons, bind_eq_ok] at h
    obtain ⟨t, ht, hrest⟩ := h
    exact ih (hstep a rest s t hI ht) hrest

/-- A loop raises what its turns raise. -/
theorem raises_foldlM {P : ε → Prop} (h : ∀ s a, Raises P (f s a)) (l : List γ) (s : σ) :
    Raises P (l.foldlM f s) := by
  induction l generalizing s with
  | nil => exact raises_ok s
  | cons a rest ih =>
    rw [List.foldlM_cons]
    exact (h s a).bind fun s' _ => ih s'

theorem raises_mapM {P : ε → Prop} {f : γ → Except ε σ} (h : ∀ a, Raises P (f a)) (l : List γ) :
    Raises P (l.mapM f) := by
  induction l with
  | nil => exact raises_ok []
  | cons a rest ih =>
    rw [List.mapM_cons]
    exact (h a).bind fun b _ => ih.bind fun bs _ => raises_ok (b :: bs)

/-- What a loop reads off its elements is what it was to read off its results. -/
theorem mapM_reads {f : γ → Except ε σ} {δ : Type x} {p : γ → δ} {q : σ → δ}
    (hread : ∀ a b, f a = .ok b → q b = p a) :
    ∀ {l : List γ} {l' : List σ}, l.mapM f = .ok l' → l'.map q = l.map p := by
  intro l
  induction l with
  | nil =>
    intro l' h
    cases h
    rfl
  | cons a rest ih =>
    intro l' h
    simp only [List.mapM_cons, bind_eq_ok, pure_eq_ok] at h
    obtain ⟨b, hb, bs, hbs, rfl⟩ := h
    rw [List.map_cons, List.map_cons, hread a b hb, ih hbs]

/-- Every result of a loop is the result of an element, and every element has one. -/
theorem mem_mapM {f : γ → Except ε σ} :
    ∀ {l : List γ} {l' : List σ}, l.mapM f = .ok l' →
      (∀ b ∈ l', ∃ a ∈ l, f a = .ok b) ∧ ∀ a ∈ l, ∃ b ∈ l', f a = .ok b := by
  intro l
  induction l with
  | nil =>
    intro l' h
    cases h
    exact ⟨by simp, by simp⟩
  | cons x rest ih =>
    intro l' h
    simp only [List.mapM_cons, bind_eq_ok, pure_eq_ok] at h
    obtain ⟨y, hy, ys, hys, rfl⟩ := h
    obtain ⟨hresults, helements⟩ := ih hys
    constructor
    · intro b hb
      rcases List.mem_cons.mp hb with rfl | hb
      · exact ⟨x, List.mem_cons_self, hy⟩
      · obtain ⟨a, ha, hrun⟩ := hresults b hb
        exact ⟨a, List.mem_cons_of_mem x ha, hrun⟩
    · intro a ha
      rcases List.mem_cons.mp ha with rfl | ha
      · exact ⟨y, List.mem_cons_self, hy⟩
      · obtain ⟨b, hb, hrun⟩ := helements a ha
        exact ⟨b, List.mem_cons_of_mem y hb, hrun⟩

/-- A check of an optional value, which passes the value on, is one of the value if
there is one. -/
theorem option_mapM_eq_ok {f : γ → Except ε γ} {P : γ → Prop}
    (hf : ∀ a b, f a = .ok b ↔ a = b ∧ P a) {o o' : Option γ} :
    o.mapM f = .ok o' ↔ o = o' ∧ ∀ a ∈ o, P a := by
  cases o with
  | none =>
    rw [Option.mapM_none, pure_eq_ok]
    exact ⟨fun h => ⟨h, nofun⟩, And.left⟩
  | some a =>
    rw [Option.mapM_some]
    show (f a >>= fun b => pure (some b)) = _ ↔ _
    simp only [bind_eq_ok, hf, pure_eq_ok]
    constructor
    · rintro ⟨_, ⟨rfl, ha⟩, rfl⟩
      exact ⟨rfl, fun b hb => Option.some.inj hb ▸ ha⟩
    · rintro ⟨rfl, ha⟩
      exact ⟨a, ⟨rfl, ha a rfl⟩, rfl⟩

theorem mapM_reads_option {f : γ → Option σ} {δ : Type x} {p : γ → δ} {q : σ → δ}
    (hread : ∀ a b, f a = some b → q b = p a) :
    ∀ {l : List γ} {l' : List σ}, l.mapM f = some l' → l'.map q = l.map p := by
  intro l
  induction l with
  | nil =>
    intro l' h
    cases h
    rfl
  | cons a rest ih =>
    intro l' h
    simp only [List.mapM_cons, Option.bind_eq_bind, Option.bind_eq_some_iff,
      Option.pure_def, Option.some.injEq] at h
    obtain ⟨b, hb, bs, hbs, rfl⟩ := h
    rw [List.map_cons, List.map_cons, hread a b hb, ih hbs]

end Loops

section Keyed

variable {σ : Type v} {γ : Type w} {κ : Type x} {ρ : Type v}
  {f : σ → γ → Except ε σ} {key : γ → κ} {r : σ → κ → ρ}

/-- A loop over elements with different keys, each turn of which touches the place
of its key only, leaves every place as the one turn about it did. -/
theorem foldlM_keyed [DecidableEq κ] {T : ρ → γ → ρ → Prop}
    (hstep : ∀ s x s', f s x = .ok s' → T (r s (key x)) x (r s' (key x)) ∧
      ∀ k, k ≠ key x → r s' k = r s k) {l : List γ} (hnodup : (l.map key).Nodup) {s s' : σ}
    (h : l.foldlM f s = .ok s') (k : κ) :
    match l.find? fun x => key x = k with
    | none => r s' k = r s k
    | some x => T (r s k) x (r s' k) := by
  induction l generalizing s with
  | nil =>
    cases h
    rfl
  | cons x rest ih =>
    rw [List.map_cons, List.nodup_cons] at hnodup
    rw [List.foldlM_cons, bind_eq_ok] at h
    obtain ⟨m, hm, hrest⟩ := h
    obtain ⟨hturn, hother⟩ := hstep s x m hm
    have hlater := ih hnodup.2 hrest
    by_cases hk : key x = k
    · have hnone : (rest.find? fun y => key y = k) = none := by
        refine List.find?_eq_none.mpr fun y hy => ?_
        rw [decide_eq_true_eq, ← hk]
        exact fun he => hnodup.1 (he ▸ List.mem_map_of_mem hy)
      simp only [hnone] at hlater
      simp only [List.find?_cons, hk, decide_true]
      rw [hlater, ← hk]
      exact hturn
    · simp only [List.find?_cons, hk, decide_false]
      rw [← hother k fun he => hk he.symm]
      exact hlater

/-- Such a loop fails where one of its turns would have failed at the start. -/
theorem foldlM_keyed_error {B : ρ → γ → ε → Prop}
    (hstep : ∀ s x s', f s x = .ok s' → ∀ k, k ≠ key x → r s' k = r s k)
    (hbad : ∀ s x e, f s x = .error e → B (r s (key x)) x e) {l : List γ}
    (hnodup : (l.map key).Nodup) {s : σ} {e : ε} (h : l.foldlM f s = .error e) :
    ∃ x ∈ l, B (r s (key x)) x e := by
  induction l generalizing s with
  | nil => cases h
  | cons x rest ih =>
    rw [List.map_cons, List.nodup_cons] at hnodup
    rw [List.foldlM_cons] at h
    cases hm : f s x with
    | error e' =>
      rw [hm] at h
      cases h
      exact ⟨x, List.mem_cons_self, hbad s x e hm⟩
    | ok m =>
      rw [hm] at h
      obtain ⟨y, hy, hyb⟩ := ih hnodup.2 h
      have hne : key y ≠ key x := fun he => hnodup.1 (he ▸ List.mem_map_of_mem hy)
      rw [hstep s x m hm _ hne] at hyb
      exact ⟨y, List.mem_cons_of_mem x hy, hyb⟩

end Keyed

end Base
