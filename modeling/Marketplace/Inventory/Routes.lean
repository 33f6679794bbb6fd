import Marketplace.Inventory.Service

/-!
# Inventory: the checkout endpoints

The three endpoints the Order Service calls, with the checks made before the
service is reached.  A transaction that is rolled back leaves the store as it
was and is answered with the status code of its failure.
-/

namespace Marketplace
namespace Inventory

open Base

def respond {α : Type} (s : Store) (result : Except Failure (Store × α)) : Store × Reply α :=
  match result with
  | .ok (s', a) => (s', .ok a)
  | .error e => (s, .refused e.statusCode)

/-- `POST /internal/checkout/reservations/batch`; `body` is the validated body. -/
def createReservationBatch (env : Env) (now : DateTime) (s : Store)
    (body : Option BatchReservationCreate) (principal : Principal) (idempotencyKey : String) :
    Store × Reply UUID :=
  if principal.hasScope .inventoryCheckout || principal.hasRole [.admin] then
    match idempotencyHeader idempotencyKey, body with
    | none, _ => (s, .refused 400)
    | some _, none => (s, .refused 422)
    | some key, some data =>
      respond s (do
        let (s, groupId, _) ← createBatchReservation env now s data principal (some key)
        return (s, groupId))
  else (s, .refused 403)

/-- `POST /internal/checkout/reservations/{group_id}/commit` -/
def commitReservationBatch (now : DateTime) (s : Store) (groupId : UUID) (principal : Principal) :
    Store × Reply Unit :=
  match commitReservationGroup now s groupId principal with
  | .ok (s', .ok _) => (s', .ok ())
  | .ok (s', .error e) => (s', .refused e.statusCode)
  | .error e => (s, .refused e.statusCode)

/-- `POST /internal/checkout/reservations/{group_id}/release` -/
def releaseReservationBatch (s : Store) (groupId : UUID) (reason : MovementReason) (note : String)
    (principal : Principal) : Store × Reply Unit :=
  if note.length ≤ 2000 then
    respond s (do
      let (s, _) ← releaseReservationGroup s groupId reason (some note) principal
      return (s, ()))
  else (s, .refused 422)

end Inventory
end Marketplace
