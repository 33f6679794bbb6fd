import Marketplace.Orders.Cancelled

/-!
# Orders: a cancellation and a payment at the same time

The steps of one `cancel` and one `payment_authorized` on the same order, in any
order that the row lock allows.  A request takes one step for its read of the
order, one for its call of Inventory and one for its commit.  `cancel` reads
without a lock; the payment callback locks the row from its read to its commit,
and until then the `UPDATE` of `cancel` waits.
-/

namespace Marketplace
namespace Orders

open Base

inductive Event
  | cancelRead
  | releaseCall
  | cancelWrite
  | payRead
  | commitCall
  | payWrite
  deriving DecidableEq

/-- How far a request has come, with the order it goes on with. -/
inductive Progress
  | waiting
  | read (order : Order)
  | called (order : Order)
  | finished
  deriving DecidableEq

/-- The request holds the lock of the row it read. -/
def Progress.Locks : Progress → Prop
  | .read _ | .called _ => True
  | _ => False

instance : DecidablePred Progress.Locks
  | .read _ | .called _ => .isTrue trivial
  | .waiting | .finished => .isFalse id

structure Race where
  shop : Shop
  cancel : Progress
  pay : Progress

/-- The two requests; `now` is when the commit of the group reaches Inventory. -/
structure Rivals where
  orderId : UUID
  cancel : CancelOrder
  buyer : Principal
  version : Nat
  payment : PaymentAuthorized
  caller : Principal
  now : DateTime

def Race.start (shop : Shop) : Race := ⟨shop, .waiting, .waiting⟩

namespace Rivals

def cancelRead (c : Rivals) (race : Race) : Option Race :=
  match race.cancel with
  | .waiting =>
    match Orders.cancelRead race.shop.orders c.orderId c.buyer c.version with
    | .ok order => some { race with cancel := .read order }
    | .error _ => some { race with cancel := .finished }
  | _ => none

def releaseCall (c : Rivals) (race : Race) : Option Race :=
  match race.cancel with
  | .read order =>
    match releaseOrder race.shop.inventory order c.cancel.reason c.buyer with
    | (inventory, .ok ()) =>
      some { race with shop := { race.shop with inventory := inventory }, cancel := .called order }
    | (inventory, .error _) =>
      some { race with shop := { race.shop with inventory := inventory }, cancel := .finished }
  | _ => none

def cancelWrite (c : Rivals) (race : Race) : Option Race :=
  match race.cancel with
  | .called order =>
    if race.pay.Locks then none
    else
      let orders := Orders.cancelWrite race.shop.orders order c.cancel c.buyer
      some { race with shop := { race.shop with orders := orders }, cancel := .finished }
  | _ => none

def payRead (c : Rivals) (race : Race) : Option Race :=
  match race.pay with
  | .waiting =>
    match authorizeRead race.shop.orders c.orderId c.payment with
    | .ok (.act order) => some { race with pay := .read order }
    | .ok (.done _) => some { race with pay := .finished }
    | .error _ => some { race with pay := .finished }
  | _ => none

def commitCall (c : Rivals) (race : Race) : Option Race :=
  match race.pay with
  | .read order =>
    match commitOrder c.now race.shop.inventory order orderService with
    | (inventory, .ok ()) =>
      some { race with shop := { race.shop with inventory := inventory }, pay := .called order }
    | (inventory, .error _) =>
      some { race with shop := { race.shop with inventory := inventory }, pay := .finished }
  | _ => none

def payWrite (c : Rivals) (race : Race) : Option Race :=
  match race.pay with
  | .called order =>
    let orders := authorizeWrite race.shop.orders order c.payment c.caller
    some { race with shop := { race.shop with orders := orders }, pay := .finished }
  | _ => none

def step (c : Rivals) (race : Race) : Event → Option Race
  | .cancelRead => c.cancelRead race
  | .releaseCall => c.releaseCall race
  | .cancelWrite => c.cancelWrite race
  | .payRead => c.payRead race
  | .commitCall => c.commitCall race
  | .payWrite => c.payWrite race

end Rivals

end Orders
end Marketplace
