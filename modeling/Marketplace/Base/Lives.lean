import Mathlib.Data.List.Basic

/-!
# Logs of status changes

A log tells the lives of some objects: each entry says that its subject went from
one status to the next, or came into being.  It tells the truth when the entries
about an object form a life that ends in the status the object has now, and an
object that does not exist has no entries.
-/

namespace Base

universe u v w

/-- How the entries of a log are read. -/
structure Chronicle (ε : Type u) (κ : Type v) (ς : Type w) where
  subject : ε → κ
  source : ε → Option ς
  target : ε → ς

/-- A sequence of allowed changes, each from where the one before ended. -/
inductive Life {ς : Type w} (allowed : Option ς → ς → Prop) : List (Option ς × ς) → Option ς → Prop
  | unborn : Life allowed [] none
  | change {changes : List (Option ς × ς)} {status : Option ς} {next : ς} :
      Life allowed changes status → allowed status next →
        Life allowed (changes ++ [(status, next)]) (some next)

namespace Chronicle

variable {ε : Type u} {κ : Type v} {ς : Type w} [DecidableEq κ]

/-- The changes the log tells of one object. -/
def changes (c : Chronicle ε κ ς) (log : List ε) (k : κ) : List (Option ς × ς) :=
  (log.filter fun e => c.subject e = k).map fun e => (c.source e, c.target e)

/-- The log tells the life of every object, up to its status now. -/
def Tells (c : Chronicle ε κ ς) (allowed : Option ς → ς → Prop) (log : List ε)
    (status : κ → Option ς) : Prop :=
  ∀ k, Life allowed (c.changes log k) (status k)

variable {c : Chronicle ε κ ς} {allowed : Option ς → ς → Prop} {log : List ε}
  {status status' : κ → Option ς}

theorem Tells.nil : c.Tells allowed [] fun _ => none := fun _ => .unborn

theorem Tells.congr (h : c.Tells allowed log status) (he : ∀ k, status' k = status k) :
    c.Tells allowed log status' := fun k => he k ▸ h k

/-- One more entry, about an object that has changed just so. -/
theorem Tells.tell (h : c.Tells allowed log status) {e : ε}
    (hsource : status (c.subject e) = c.source e) (hallowed : allowed (c.source e) (c.target e))
    (htarget : status' (c.subject e) = some (c.target e))
    (hother : ∀ k, k ≠ c.subject e → status' k = status k) :
    c.Tells allowed (log ++ [e]) status' := by
  intro k
  by_cases hk : c.subject e = k
  · subst hk
    have hchanges : c.changes (log ++ [e]) (c.subject e) =
        c.changes log (c.subject e) ++ [(c.source e, c.target e)] := by
      simp [changes]
    rw [hchanges, htarget, ← hsource]
    exact .change (h (c.subject e)) (hsource ▸ hallowed)
  · have hchanges : c.changes (log ++ [e]) k = c.changes log k := by
      simp [changes, hk]
    rw [hchanges, hother k fun e => hk e.symm]
    exact h k

end Chronicle
end Base
