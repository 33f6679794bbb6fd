import Marketplace.Base.System
import Marketplace.Base.Table

/-!
# Versioned tables

A table of versioned rows evolves when no row is lost, a row that changes gets a
higher version, and the columns that say what the row is about stay as they are.
Then a version names one content of a row for good: whoever has read a row and
finds its version again finds the row as it was.
-/

namespace Base

universe u v w x y

namespace Table

variable {ρ : Type u} {κ : Type v} {ω : Type y} {key : ρ → κ} {version : ρ → Nat} {origin : ρ → ω}

/-- Every row is kept with its origin, and with a higher version if it has
changed. -/
def Evolves (version : ρ → Nat) (origin : ρ → ω) (t t' : Table key) : Prop :=
  ∀ r ∈ t, ∃ r' ∈ t', key r' = key r ∧ origin r' = origin r ∧ (r' = r ∨ version r < version r')

theorem Evolves.refl (t : Table key) : Evolves version origin t t :=
  Follows.refl (fun _ => ⟨rfl, Or.inl rfl⟩) t

theorem Evolves.of_eq {t t' : Table key} (h : t' = t) : Evolves version origin t t' := by
  rw [h]
  exact .refl t

theorem Evolves.trans {t₁ t₂ t₃ : Table key} (h : Evolves version origin t₁ t₂)
    (h' : Evolves version origin t₂ t₃) : Evolves version origin t₁ t₃ := by
  refine Follows.trans (fun a b c hab hbc => ?_) h h'
  obtain ⟨horigin, hnew⟩ := hab
  obtain ⟨horigin', hnew'⟩ := hbc
  refine ⟨horigin'.trans horigin, ?_⟩
  rcases hnew with rfl | hlt
  · exact hnew'
  · rcases hnew' with rfl | hlt'
    · exact Or.inr hlt
    · exact Or.inr (hlt.trans hlt')

/-- A row whose version has not moved has not changed. -/
theorem Evolves.eq_of_version_le {t t' : Table key} (h : Evolves version origin t t') {r r' : ρ}
    (hr : r ∈ t) (hr' : r' ∈ t') (hkey : key r' = key r) (hle : version r' ≤ version r) :
    r' = r := by
  obtain ⟨x, hx, hxkey, -, hnew⟩ := h r hr
  have hsame : r' = x := eq_of_key_eq hr' hx (hkey.trans hxkey.symm)
  rcases hnew with rfl | hlt
  · exact hsame
  · rw [hsame] at hle
    omega

variable [DecidableEq κ]

theorem Evolves.put {t : Table key} {r r' : ρ} (hget : t.get? (key r') = some r)
    (hlt : version r < version r') (horigin : origin r' = origin r) :
    Evolves version origin t (t.put r') :=
  Follows.put (fun _ => ⟨rfl, Or.inl rfl⟩) hget ⟨horigin, Or.inr hlt⟩

theorem Evolves.insert {t t' : Table key} {r : ρ} (h : t.insert? r = some t') :
    Evolves version origin t t' :=
  Follows.insert (fun _ => ⟨rfl, Or.inl rfl⟩) h

end Table

section Run

variable {σ : Type w} {τ : Type x} {ρ : Type u} {κ : Type v} {ω : Type y} {key : ρ → κ}
  {version : ρ → Nat} {origin : ρ → ω} {step : σ → τ → σ}

/-- A table that evolves in every step evolves along a run. -/
theorem run_evolves {K : σ → Prop} {table : σ → Table key} (hkeep : ∀ s a, K s → K (step s a))
    (hstep : ∀ s a, K s → (table s).Evolves version origin (table (step s a))) {s : σ} (hs : K s)
    (as : List τ) : (table s).Evolves version origin (table (run step s as)) := by
  have hboth : ∀ t a, (K t ∧ (table s).Evolves version origin (table t)) →
      K (step t a) ∧ (table s).Evolves version origin (table (step t a)) :=
    fun t a h => ⟨hkeep t a h.1, h.2.trans (hstep t a h.1)⟩
  exact (run_keeps_all hboth as ⟨hs, .refl _⟩).2

end Run

end Base
