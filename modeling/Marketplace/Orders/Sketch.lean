import Marketplace.Orders.Race

/-!
# Orders: the race in outline

What the race between a cancellation and a payment comes down to: where the
order stands, what has become of its group, and how far each request is.  It has
few enough states to visit every interleaving, and `sketch_settles` says which
of them end with exactly one of the requests done.
-/

namespace Marketplace
namespace Orders

open Base

/-- Where the order stands. -/
inductive Mark
  | pending
  | confirmed
  | cancelled
  deriving DecidableEq

/-- What has become of the reservation group: the status its members share, if
they share one and if there are any. -/
inductive Fate
  | active
  | committed
  | released
  | expired
  | mixed
  | missing
  deriving DecidableEq

inductive Stage
  | waiting
  | read
  | called
  | finished
  deriving DecidableEq

structure Sketch where
  mark : Mark
  paid : Bool
  group : Fate
  cancel : Stage
  pay : Stage
  deriving DecidableEq

/-- What decides the steps that can go two ways. -/
structure Terms where
  /-- The cancellation may see the order and names the version it has unpaid. -/
  current : Bool
  /-- The cancellation may see the order and names the version it has once paid. -/
  next : Bool
  /-- The payment is for what the order costs. -/
  pays : Bool
  /-- The group has expired when its commit arrives. -/
  late : Bool
  deriving DecidableEq

namespace Sketch

def start (group : Fate) : Sketch := ⟨.pending, false, group, .waiting, .waiting⟩

def Complete (s : Sketch) : Prop := s.cancel = .finished ∧ s.pay = .finished

instance (s : Sketch) : Decidable s.Complete := inferInstanceAs (Decidable (_ ∧ _))

/-- The end of a release. -/
def release (s : Sketch) : Sketch :=
  match s.group with
  | .active => { s with group := .released, cancel := .called }
  | .missing => { s with cancel := .finished }
  | _ => { s with cancel := .called }

/-- The end of a commit. -/
def commit (t : Terms) (s : Sketch) : Sketch :=
  match s.group with
  | .committed => { s with pay := .called }
  | .active =>
    if t.late then { s with group := .expired, pay := .finished }
    else { s with group := .committed, pay := .called }
  | _ => { s with pay := .finished }

def passes (t : Terms) : Mark → Bool
  | .pending => t.current
  | .confirmed => t.next
  | .cancelled => false

def step (t : Terms) (s : Sketch) : Event → Option Sketch
  | .cancelRead =>
    if s.cancel = .waiting then
      some { s with cancel := if passes t s.mark then .read else .finished }
    else none
  | .releaseCall => if s.cancel = .read then some s.release else none
  | .cancelWrite =>
    if s.cancel = .called ∧ s.pay ≠ .read ∧ s.pay ≠ .called then
      some { s with mark := .cancelled, cancel := .finished }
    else none
  | .payRead =>
    if s.pay = .waiting then
      some { s with pay := if s.mark = .pending ∧ t.pays then .read else .finished }
    else none
  | .commitCall => if s.pay = .read then some (s.commit t) else none
  | .payWrite =>
    if s.pay = .called then some { s with mark := .confirmed, paid := true, pay := .finished }
    else none

/-- Exactly one of the two requests took effect. -/
def Settled (s : Sketch) : Prop :=
  (s.mark = .confirmed ∧ s.group = .committed) ∨
    (s.mark = .cancelled ∧ s.group = .released ∧ s.paid = false)

instance (s : Sketch) : Decidable s.Settled := inferInstanceAs (Decidable (_ ∨ _))

end Sketch

/-- `a` happens in the trace before `b` does. -/
def Precedes (a b : Event) (trace : List Event) : Prop := a ∈ trace.takeWhile fun e => e ≠ b

instance (a b : Event) (trace : List Event) : Decidable (Precedes a b trace) :=
  inferInstanceAs (Decidable (_ ∈ _))

/-- The cancellation finds the version it names. -/
def Terms.CancelPasses (t : Terms) (trace : List Event) : Prop :=
  if Precedes .payWrite .cancelRead trace then t.next = true else t.current = true

/-- The release is not refused. -/
def Fate.ReleaseLands (group : Fate) (trace : List Event) : Prop :=
  group = .released ∨ (group = .active ∧ ¬Precedes .commitCall .releaseCall trace)

/-- The payment goes through when nothing gets in its way. -/
def Terms.PayLands (t : Terms) (group : Fate) : Prop :=
  t.pays = true ∧ (group = .committed ∨ (group = .active ∧ t.late = false))

def Terms.Condition (t : Terms) (group : Fate) (trace : List Event) : Prop :=
  (t.CancelPasses trace → group.ReleaseLands trace) ∧ (¬t.CancelPasses trace → t.PayLands group)

instance (t : Terms) (trace : List Event) : Decidable (t.CancelPasses trace) :=
  inferInstanceAs (Decidable (ite _ _ _))

instance (group : Fate) (trace : List Event) : Decidable (group.ReleaseLands trace) :=
  inferInstanceAs (Decidable (_ ∨ _))

instance (t : Terms) (group : Fate) : Decidable (t.PayLands group) :=
  inferInstanceAs (Decidable (_ ∧ _))

instance (t : Terms) (group : Fate) (trace : List Event) : Decidable (t.Condition group trace) :=
  inferInstanceAs (Decidable (_ ∧ _))

def Event.all : List Event :=
  [.cancelRead, .releaseCall, .cancelWrite, .payRead, .commitCall, .payWrite]

theorem Event.mem_all (e : Event) : e ∈ Event.all := by
  cases e <;> decide

def Fate.all : List Fate := [.active, .committed, .released, .expired, .mixed, .missing]

theorem Fate.mem_all (group : Fate) : group ∈ Fate.all := by
  cases group <;> decide

/-- The verdict on the end of one interleaving. -/
def verdict (t : Terms) (group : Fate) (trace : List Event) (s : Sketch) : Bool :=
  !decide s.Complete || (decide s.Settled == decide (t.Condition group trace))

def Stage.rank : Stage → Nat
  | .waiting => 3
  | .read => 2
  | .called => 1
  | .finished => 0

def Sketch.rank (s : Sketch) : Nat := s.cancel.rank + s.pay.rank

theorem Sketch.rank_release {s : Sketch} (h : s.cancel = .read) : s.release.rank < s.rank := by
  unfold release
  split <;> simp only [rank, h, Stage.rank] <;> omega

theorem Sketch.rank_commit {t : Terms} {s : Sketch} (h : s.pay = .read) :
    (s.commit t).rank < s.rank := by
  unfold commit
  split
  · simp only [rank, h, Stage.rank]
    omega
  · split <;> simp only [rank, h, Stage.rank] <;> omega
  · simp only [rank, h, Stage.rank]
    omega

/-- Every event takes one of the requests a stage further. -/
theorem Sketch.rank_step (t : Terms) (s : Sketch) (e : Event) (s' : Sketch)
    (h : s.step t e = some s') : s'.rank < s.rank := by
  cases e <;> simp only [step, Option.ite_none_right_eq_some, Option.some.injEq] at h <;>
    obtain ⟨hs, rfl⟩ := h
  case releaseCall => exact rank_release hs
  case commitCall => exact rank_commit hs
  case cancelRead =>
    simp only [rank, hs]
    split <;> simp only [Stage.rank] <;> omega
  case payRead =>
    simp only [rank, hs]
    split <;> simp only [Stage.rank] <;> omega
  case cancelWrite =>
    simp only [rank, hs.1, Stage.rank]
    omega
  case payWrite =>
    simp only [rank, hs, Stage.rank]
    omega

/-- Every interleaving has been visited. -/
theorem explored : ∀ current next pays late : Bool, ∀ group ∈ Fate.all,
    explore (Sketch.step ⟨current, next, pays, late⟩) Event.all
      (verdict ⟨current, next, pays, late⟩ group) 6 [] (Sketch.start group) = true := by
  decide +kernel

theorem sketch_settles (t : Terms) (group : Fate) {trace : List Event} {s : Sketch}
    (hrun : perform (Sketch.step t) (Sketch.start group) trace = some s) (hdone : s.Complete) :
    s.Settled ↔ t.Condition group trace := by
  have hlen : trace.length ≤ 6 := length_le_rank (Sketch.rank_step t) hrun
  have hcheck := explore_sound Event.mem_all
    (explored t.current t.next t.pays t.late group group.mem_all) hlen hrun
  simpa [verdict, hdone] using hcheck

end Orders
end Marketplace
