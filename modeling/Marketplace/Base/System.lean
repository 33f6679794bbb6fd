import Mathlib.Data.List.Basic

/-!
# Systems that answer requests

A system is a step function from a state and a request to the next state; a
request that is refused leaves the state as it was.  A run is a list of
requests.  `Admitted ok` marks the runs whose every request meets the condition
`ok` in the state it arrives in.

`run_keeps_all` is the invariant rule: what holds at the start and survives one
request holds after every run.  `along_iff_admitted` is its exact form, for a
condition that decides whether a step keeps the invariant.  `sent` lists what the
requests of a run send out, for what is asked of a run's own messages only.
-/

namespace Base

universe u v w x

section System

variable {σ : Type u} {ρ : Type v} (step : σ → ρ → σ)

/-- The state after a run. -/
def run (s : σ) (rs : List ρ) : σ := rs.foldl step s

/-- Every request of the run meets `ok` in the state it arrives in. -/
def Admitted (ok : σ → ρ → Prop) : σ → List ρ → Prop
  | _, [] => True
  | s, r :: rs => ok s r ∧ Admitted ok (step s r) rs

/-- What the requests of a run send out, each in the state it arrives in. -/
def sent {β : Type w} (out : σ → ρ → Option β) : σ → List ρ → List β
  | _, [] => []
  | s, r :: rs => (out s r).toList ++ sent out (step s r) rs

/-- `I` holds in every state the run passes through. -/
def Along (I : σ → Prop) : σ → List ρ → Prop
  | s, [] => I s
  | s, r :: rs => I s ∧ Along I (step s r) rs

variable {step}

theorem run_append (s : σ) (rs rs' : List ρ) :
    run step s (rs ++ rs') = run step (run step s rs) rs' := List.foldl_append

/-- The invariant rule for one run, whose requests are all there is to look at. -/
theorem run_keeps_mem {I : σ → Prop} {rs : List ρ} (hstep : ∀ r ∈ rs, ∀ s, I s → I (step s r))
    {s : σ} (hs : I s) : I (run step s rs) := by
  induction rs generalizing s with
  | nil => exact hs
  | cons r rs ih =>
    have hrest : ∀ r' ∈ rs, ∀ s, I s → I (step s r') := fun r' hr' =>
      hstep r' (List.mem_cons_of_mem r hr')
    exact ih hrest (hstep r List.mem_cons_self s hs)

/-- The invariant rule for all runs. -/
theorem run_keeps_all {I : σ → Prop} (hstep : ∀ s r, I s → I (step s r)) {s : σ}
    (rs : List ρ) (hs : I s) : I (run step s rs) :=
  run_keeps_mem (fun r _ s => hstep s r) hs

/-- The invariant rule for the admitted runs. -/
theorem Admitted.keeps {I : σ → Prop} {ok : σ → ρ → Prop} {s : σ} {rs : List ρ}
    (h : Admitted step ok s rs) (hstep : ∀ s r, I s → ok s r → I (step s r)) (hs : I s) :
    I (run step s rs) := by
  induction rs generalizing s with
  | nil => exact hs
  | cons r rs ih => exact ih h.2 (hstep s r hs h.1)

/-- What is asked of all that a run sends is asked of each request. -/
theorem admitted_of_sent {β : Type w} {out : σ → ρ → Option β} {P : β → Prop} {s : σ}
    {rs : List ρ} (h : ∀ b ∈ sent step out s rs, P b) :
    Admitted step (fun s r => ∀ b ∈ out s r, P b) s rs := by
  induction rs generalizing s with
  | nil => trivial
  | cons r rs ih =>
    have hfirst : ∀ b ∈ out s r, P b := fun b hb =>
      h b (List.mem_append_left _ (Option.mem_toList.mpr hb))
    exact ⟨hfirst, ih fun b hb => h b (List.mem_append_right _ hb)⟩

theorem Along.head {I : σ → Prop} {s : σ} {rs : List ρ} (h : Along step I s rs) : I s := by
  cases rs with
  | nil => exact h
  | cons r rs => exact h.1

/-- When a condition decides, step by step, whether `I` survives, it decides
whether a whole run stays inside `I`. -/
theorem along_iff_admitted {K I : σ → Prop} {ok : σ → ρ → Prop}
    (hkeep : ∀ s r, K s → K (step s r)) (hstep : ∀ s r, K s → I s → (I (step s r) ↔ ok s r))
    {s : σ} {rs : List ρ} (hK : K s) (hI : I s) :
    Along step I s rs ↔ Admitted step ok s rs := by
  induction rs generalizing s with
  | nil => exact ⟨fun _ => trivial, fun _ => hI⟩
  | cons r rs ih =>
    constructor
    · rintro ⟨-, hrest⟩
      have hI' : I (step s r) := hrest.head
      exact ⟨(hstep s r hK hI).mp hI', (ih (hkeep s r hK) hI').mp hrest⟩
    · rintro ⟨hok, hrest⟩
      have hI' : I (step s r) := (hstep s r hK hI).mpr hok
      exact ⟨hI, (ih (hkeep s r hK) hI').mpr hrest⟩

end System

section Inside

variable {σ : Type u} {ρ : Type v} {τ : Type w} {α : Type x} {step : σ → ρ → σ} {part : σ → τ}
  {stepPart : τ → α → τ}

/-- Whatever a system does, a part of it makes a run of its own, of requests that
`may` allows. -/
def Inside (step : σ → ρ → σ) (part : σ → τ) (stepPart : τ → α → τ) (may : σ → ρ → α → Prop) :
    Prop :=
  ∀ s r, ∃ as, (∀ a ∈ as, may s r a) ∧ part (step s r) = run stepPart (part s) as

variable {may : σ → ρ → α → Prop}

/-- What the part keeps by itself it keeps inside the system. -/
theorem Inside.keeps (h : Inside step part stepPart may) {I : τ → Prop} {s : σ} {r : ρ}
    (hstep : ∀ a, may s r a → ∀ t, I t → I (stepPart t a)) (hs : I (part s)) :
    I (part (step s r)) := by
  obtain ⟨as, hmay, has⟩ := h s r
  rw [has]
  exact run_keeps_mem (fun a ha => hstep a (hmay a ha)) hs

/-- A run of the system is a run of the part. -/
theorem Inside.run (h : Inside step part stepPart may) (s : σ) (rs : List ρ) :
    ∃ as, part (run step s rs) = run stepPart (part s) as := by
  induction rs generalizing s with
  | nil => exact ⟨[], rfl⟩
  | cons r rs ih =>
    obtain ⟨as, -, has⟩ := h s r
    obtain ⟨as', has'⟩ := ih (step s r)
    refine ⟨as ++ as', ?_⟩
    rw [run_append, ← has, ← has']
    rfl

end Inside

end Base
