import InventoryManagement.Database.Discipline
import InventoryManagement.Services.Requests

/-! What a request guarantees at each of its database calls, whatever the other
requests do in between: the assertions, stated for one session at a time. -/

set_option autoImplicit false

namespace InventoryManagement

open Interleaving (Guard Program)

/-- The alert a stock level calls for. -/
def stockCondition (settings : Settings) (inventory : Inventory) : Option AlertType :=
  if inventory.quantity > effectiveThreshold settings inventory then none
  else some (if inventory.quantity = 0 then .OUT_OF_STOCK else .LOW_STOCK)

/-- Active alerts of a pair that say what its stock level calls for. -/
def Agrees (condition : Option AlertType) (alerts : List Alert) : Prop :=
  match condition with
  | none => alerts = []
  | some alertType => alerts ≠ [] ∧ ∀ alert ∈ alerts, alert.alertType = alertType

/-- The last lookup calls for no write that is still to come. -/
def Session.Settled (settings : Settings) (session : Session) : Prop :=
  ∀ lookup inventory, session.pending = some lookup → lookup.object = some inventory →
    Agrees (stockCondition settings inventory) lookup.found

/-- The pairs a movement affects, in the order of the affected rows. -/
def MovementPayload.pairs (data : MovementPayload) : List Pair :=
  (data.sourceWarehouseId.toList ++ data.destinationWarehouseId.toList).map (data.productId, ·)

/-- A movement adds its quantity at the destination and takes it at the source. -/
def MovementValues.change (values : MovementValues) (pair : Pair) : Int :=
  (if values.productId = pair.1 ∧ values.destinationWarehouseId = some pair.2
    then values.quantity else 0) -
  (if values.productId = pair.1 ∧ values.sourceWarehouseId = some pair.2
    then values.quantity else 0)

/-- The stored quantity of a pair, 0 when it has no row. -/
def Tables.quantity (tables : Tables) (pair : Pair) : Int :=
  ((tables.inventoriesOf pair).map (·.quantity)).sum

/-- A transaction that holds exactly `rows` and has so far changed the stock of
their pairs by `change`. -/
structure Applying (change : Pair → Int) (rows : List Inventory) (session : Session)
    (world : World) : Prop where
  held : session.rows = rows
  objects : session.objects = rows
  changed : ∀ row ∈ rows, row.quantity = world.tables.quantity row.pair + change row.pair
  nonnegative : ∀ row ∈ rows, 0 ≤ world.tables.quantity row.pair → 0 ≤ row.quantity
  unchanged : ∀ pair, (∀ row ∈ rows, row.pair ≠ pair) → change pair = 0
  history : session.toHistory = {}
  alerts : session.alerts = []

/-- The commit of a movement and its audit record. -/
structure MovementCommit (request : Request) (dirty : List (RowId × AlertChange))
    (session : Session) (world : World) : Prop where
  request : ∃ data performedBy movement, request = .movement data performedBy ∧
    session.movements = [movement] ∧ movement.toMovementValues = data.values performedBy ∧
    (∀ pair, (∃ row ∈ session.rows, row.pair = pair) ↔ pair ∈ data.pairs) ∧
    Applying movement.change session.rows session world
  dirty : dirty = []

/-- What an evaluation writes after a lookup found `found` for `inventory`. -/
inductive Decision (settings : Settings) (inventory : Inventory) :
    List Alert → List (RowId × AlertChange) → List Alert → Prop where
  | resolve {alert : Alert} {now : Nat} (condition : stockCondition settings inventory = none) :
      Decision settings inventory [alert] [(alert.id, .resolve now)] []
  | retype {alert : Alert} {alertType : AlertType}
      (condition : stockCondition settings inventory = some alertType)
      (different : alert.alertType ≠ alertType) :
      Decision settings inventory [alert] [(alert.id, .retype alertType inventory.quantity)] []
  | create {alert : Alert} (pair : alert.pair = inventory.pair) (active : alert.isActive = true)
      (condition : stockCondition settings inventory = some alert.alertType) :
      Decision settings inventory [] [] [alert]

/-- The commit of an evaluation, which holds no inventory row. -/
structure AlertCommit (settings : Settings) (dirty : List (RowId × AlertChange))
    (session : Session) : Prop where
  unlocked : session.Unlocked
  decision : ∃ lookup inventory, session.pending = some lookup ∧ lookup.object = some inventory ∧
    lookup.pair = inventory.pair ∧
    Decision settings inventory lookup.found dirty session.alerts

/-- The commit of `AlertService.resolve_alert`. -/
structure ResolveCommit (request : Request) (dirty : List (RowId × AlertChange))
    (session : Session) : Prop where
  clean : session.Clean
  request : ∃ alertId now, request = .resolveAlert alertId ∧ dirty = [(alertId, .resolve now)]

/-- When a request may evaluate stock levels. -/
def Request.Evaluates (request : Request) (session : Session) : Prop :=
  match request with
  | .movement _ _ => session.recorded ≠ []
  | .sweep _ => session.recorded = [] ∧ session.touched = []
  | .resolveAlert _ => False

/-- What holds when a request makes a call. -/
def Conduct (settings : Settings) (request : Request) (statement : Statement) (session : Session)
    (world : World) : Prop :=
  match statement with
  | .getProduct _ | .getWarehouse _ | .selectInventoryForUpdate _ _ | .insertInventory _
  | .updateInventory _ | .insertMovement _ => session.toHistory = {} ∧ session.alerts = []
  | .commit dirty => MovementCommit request dirty session world ∨
      AlertCommit settings dirty session ∨ ResolveCommit request dirty session
  | .selectActiveAlerts productId warehouseId => session.Clean ∧ session.Settled settings ∧
      request.Evaluates session ∧
      ∃ inventory, session.object? (productId, warehouseId) = some inventory
  | .utcNow | .insertAlert _ => session.Clean
  | .selectInventories _ _ => session.Clean ∧ session.Settled settings ∧
      request.Evaluates session ∧ session.touched = []
  | .getAlert _ | .refreshAlert _ => session.Clean ∧ session.Settled settings
  | .dispatch _ | .gather | .delay _ => session.Clean ∧ session.Settled settings ∧ session.commits ≠ 0

/-- The database itself does not fail. -/
def healthy : Guard Statement Answer World Session :=
  fun answer _ _ _ _ => answer.fails = false

instance (answer : Answer) (others : List Session) (world : World) (session : Session)
    (statement : Statement) : Decidable (healthy answer others world session statement) :=
  inferInstanceAs (Decidable (answer.fails = false))

/-- The errors a guard lets through, by what the call has recorded so far. -/
structure Permits (guard : Guard Statement Answer World Session)
    (allowed : List Movement → Exception → Prop) : Prop where
  failing : ∀ answer others world session statement,
    guard answer others world session statement → answer.fails = true →
      allowed session.recorded .operationalError
  ambiguous : ∀ answer others world session productId warehouseId,
    guard answer others world session (.selectActiveAlerts productId warehouseId) →
      2 ≤ (world.tables.activeAlerts (productId, warehouseId)).length →
      allowed session.recorded .multipleResultsFound

/-- A call that raised had committed nothing, or met an allowed error. -/
def Excused (settings : Settings) (allowed : List Movement → Exception → Prop)
    (error : Exception) (session : Session) : Prop :=
  (session.recorded = [] ∧ session.touched = [] ∧ session.Settled settings) ∨
    allowed session.recorded error

/-- How a request ends. -/
def Concluded (settings : Settings) (allowed : List Movement → Exception → Prop)
    (request : Request) (result : Except Exception Reply) (session : Session) : Prop :=
  match result with
  | .error error => Excused settings allowed error session
  | .ok reply => session.Settled settings ∧
      session.touched ⊆ session.lookups.map (·.pair) ∧
      match request with
      | .movement _ _ => ∃ movement, reply = .movement movement ∧ session.recorded = [movement]
      | .sweep _ | .resolveAlert _ => session.recorded = [] ∧ session.touched = []

end InventoryManagement
