import Mathlib.Data.List.Basic

/-!
# Traces of interleaved programs

A partial step function says which events are possible in a state and what each
of them does.  `perform` follows a trace of events.

A simulation carries every trace of one system over to another: an abstract
system small enough to explore then speaks for a concrete one.  `explore` visits
every trace of an abstract system up to a length, and `explore_sound` reads its
verdict as a statement about all of them.  A rank that every event lowers bounds
the length of a trace.
-/

namespace Base

universe u v w

section Perform

variable {σ : Type u} {τ : Type v} {ε : Type w}

/-- The state after the events of a trace, if each was possible in its turn. -/
def perform (step : σ → ε → Option σ) : σ → List ε → Option σ
  | s, [] => some s
  | s, e :: es => (step s e).bind fun s' => perform step s' es

theorem perform_cons_eq_some {step : σ → ε → Option σ} {s s' : σ} {e : ε} {es : List ε} :
    perform step s (e :: es) = some s' ↔
      ∃ t, step s e = some t ∧ perform step t es = some s' := Option.bind_eq_some_iff

/-- Whatever the first system can do in a state, the second can do in a related
one, and the states stay related. -/
def Simulates (step : σ → ε → Option σ) (step' : τ → ε → Option τ) (R : σ → τ → Prop) : Prop :=
  ∀ s t e s', R s t → step s e = some s' → ∃ t', step' t e = some t' ∧ R s' t'

theorem Simulates.perform {step : σ → ε → Option σ} {step' : τ → ε → Option τ}
    {R : σ → τ → Prop} (h : Simulates step step' R) {s s' : σ} {t : τ} {es : List ε} (hR : R s t)
    (hrun : Base.perform step s es = some s') :
    ∃ t', Base.perform step' t es = some t' ∧ R s' t' := by
  induction es generalizing s t with
  | nil =>
    cases hrun
    exact ⟨t, rfl, hR⟩
  | cons e es ih =>
    obtain ⟨m, hm, hrest⟩ := perform_cons_eq_some.mp hrun
    obtain ⟨n, hn, hR'⟩ := h s t e m hR hm
    obtain ⟨t', ht', hdone⟩ := ih hR' hrest
    exact ⟨t', perform_cons_eq_some.mpr ⟨n, hn, ht'⟩, hdone⟩

/-- A rank that every event lowers bounds the length of a trace. -/
theorem length_le_rank {step : σ → ε → Option σ} {rank : σ → Nat}
    (hrank : ∀ s e s', step s e = some s' → rank s' < rank s) {s s' : σ} {es : List ε}
    (hrun : perform step s es = some s') : es.length ≤ rank s := by
  induction es generalizing s with
  | nil => exact Nat.zero_le _
  | cons e es ih =>
    obtain ⟨m, hm, hrest⟩ := perform_cons_eq_some.mp hrun
    have hlow := hrank s e m hm
    have hlen := ih hrest
    rw [List.length_cons]
    omega

end Perform

section Explore

variable {σ : Type u} {ε : Type w}

/-- Check every state that traces of at most `fuel` of the events lead to, each
with the trace that led to it; `past` is the trace so far. -/
def explore (step : σ → ε → Option σ) (events : List ε) (check : List ε → σ → Bool) :
    Nat → List ε → σ → Bool
  | 0, past, s => check past s
  | fuel + 1, past, s =>
    check past s && events.all fun e =>
      match step s e with
      | some s' => explore step events check fuel (past ++ [e]) s'
      | none => true

theorem explore_sound {step : σ → ε → Option σ} {events : List ε} {check : List ε → σ → Bool}
    (hall : ∀ e, e ∈ events) {fuel : Nat} {past es : List ε} {s s' : σ}
    (h : explore step events check fuel past s = true) (hlen : es.length ≤ fuel)
    (hrun : perform step s es = some s') : check (past ++ es) s' = true := by
  induction es generalizing fuel past s with
  | nil =>
    cases hrun
    rw [List.append_nil]
    cases fuel with
    | zero => exact h
    | succ fuel => exact (Bool.and_eq_true _ _ ▸ h).1
  | cons e es ih =>
    obtain ⟨m, hm, hrest⟩ := perform_cons_eq_some.mp hrun
    cases fuel with
    | zero => cases hlen
    | succ fuel =>
      have hvisit := List.all_eq_true.mp (Bool.and_eq_true _ _ ▸ h).2 e (hall e)
      rw [hm] at hvisit
      have hcheck := ih hvisit (Nat.le_of_succ_le_succ hlen) hrest
      rwa [List.append_assoc, List.singleton_append] at hcheck

end Explore

end Base
