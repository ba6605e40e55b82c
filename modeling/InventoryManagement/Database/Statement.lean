import InventoryManagement.Database.Tables
import InventoryManagement.Interleaving.Assertion

/-! The calls the services make to their environment, and what PostgreSQL at READ
COMMITTED, the event publisher and the task broker do with them. -/

set_option autoImplicit false

namespace InventoryManagement

structure RowOrder where
  arrange : List Inventory → List Inventory
  perm : ∀ rows, (arrange rows).Perm rows

def RowOrder.stored : RowOrder := ⟨id, fun _ => .refl _⟩

/-- What the environment chooses for one call: whether a database statement
fails, the clock, the row order of a page query by its offset, which subscribed
handlers raise, and whether the broker raises. -/
structure Answer where
  fails : Bool := false
  now : Nat := 0
  order : Nat → RowOrder := fun _ => .stored
  handlersRaise : List Bool := []
  brokerRaises : Bool := false

inductive Statement where
  | getProduct (id : UUID)
  | getWarehouse (id : UUID)
  | selectInventoryForUpdate (productId warehouseId : UUID)
  | insertInventory (inventory : Inventory)
  | updateInventory (inventory : Inventory)
  | insertMovement (values : MovementValues)
  | commit (dirty : List (RowId × AlertChange))
  | selectActiveAlerts (productId warehouseId : UUID)
  | getAlert (id : RowId)
  | insertAlert (values : AlertValues)
  | refreshAlert (id : RowId)
  | selectInventories (skip limit : Nat)
  | utcNow
  | dispatch (event : InventoryEvent)
  | gather
  | delay (alertId : RowId)

@[reducible] def Statement.Response : Statement → Type
  | .getProduct _ => Option Product
  | .getWarehouse _ => Option Warehouse
  | .selectInventoryForUpdate _ _ => List Inventory
  | .insertInventory _ => Inventory
  | .updateInventory _ => Unit
  | .insertMovement _ => Movement
  | .commit _ => Unit
  | .selectActiveAlerts _ _ => List Alert
  | .getAlert _ => Option Alert
  | .insertAlert _ => Alert
  | .refreshAlert _ => Alert
  | .selectInventories _ _ => List Inventory
  | .utcNow => Nat
  | .dispatch _ => Unit
  | .gather => List (Except Unit Unit)
  | .delay _ => Except Unit Unit

/-! What conditions on single calls speak of. -/

/-- The changes that a commit flushes. -/
def Statement.dirty? : Statement → Option (List (RowId × AlertChange))
  | .commit dirty => some dirty
  | _ => none

theorem Statement.eq_commit {statement : Statement} {dirty : List (RowId × AlertChange)}
    (flushed : dirty ∈ statement.dirty?) : statement = .commit dirty := by
  cases statement <;> cases flushed
  rfl

/-- The pair whose active alerts are looked up. -/
def Statement.lookup? : Statement → Option Pair
  | .selectActiveAlerts productId warehouseId => some (productId, warehouseId)
  | _ => none

/-- The inventory row that is inserted. -/
def Statement.newRow? : Statement → Option Inventory
  | .insertInventory inventory => some inventory
  | _ => none

/-- The statements sent to the database; the others cannot fail with it. -/
def Statement.usesDatabase : Statement → Bool
  | .utcNow | .dispatch _ | .gather | .delay _ => false
  | _ => true

abbrev Transaction := Interleaving.Program Statement Statement.Response Exception

open Interleaving (Outcome Semantics)

def held (others : List Session) (pair : Pair) : Bool :=
  others.any (fun other => other.holds pair)

def insertedElsewhere (others : List Session) (pair : Pair) : Bool :=
  others.any (fun other => decide (pair ∈ other.inserted))

/-- `SELECT ... FOR UPDATE`: waits while another transaction holds the row, and
locks nothing when no row is visible. -/
def selectInventoryForUpdate (pair : Pair) (others : List Session) (world : World)
    (session : Session) : Outcome World Session Exception (List Inventory) :=
  match session.row? pair with
  | some row => .done [row] world session
  | none =>
      match world.tables.inventoriesOf pair with
      | [] => .done [] world session
      | rows =>
          if held others pair then .wait
          else .done rows world { session with
            rows := session.rows ++ rows
            objects := session.objects ++ rows }

/-- `INSERT INTO inventories`: waits for a transaction that has inserted the same
unique key, and fails when a row with the key is committed. -/
def insertInventory (inventory : Inventory) (others : List Session) (world : World)
    (session : Session) : Outcome World Session Exception Inventory :=
  if insertedElsewhere others inventory.pair then .wait
  else if world.tables.inventoriesOf inventory.pair ≠ [] ∨ session.holds inventory.pair then
    .raise .integrityError
  else if ¬ world.tables.hasPair inventory.pair then .raise .integrityError
  else if ¬ (Integer.fits inventory.quantity ∧ inventory.lowStockThreshold.all Integer.fits) then
    .raise .dataError
  else .done inventory world { session with
    rows := session.rows ++ [inventory]
    inserted := inventory.pair :: session.inserted
    objects := session.objects ++ [inventory] }

/-- `UPDATE inventories SET quantity`: the services flush only rows they hold. -/
def updateInventory (inventory : Inventory) (world : World) (session : Session) :
    Outcome World Session Exception Unit :=
  if ¬ Integer.fits inventory.quantity then .raise .dataError
  else
    match session.row? inventory.pair with
    | none => .raise .invalidRequestError
    | some row =>
        let updated := { row with quantity := inventory.quantity }
        .done () world { session with
          rows := replaceRow session.rows updated
          objects := replaceRow session.objects updated }

def insertMovement (values : MovementValues) (now : Nat) (world : World) (session : Session) :
    Outcome World Session Exception Movement :=
  if ¬ values.refers world.tables then .raise .integrityError
  else if ¬ (Integer.fits values.quantity ∧ values.reason.all Text.sendable) then
    .raise .dataError
  else
    let movement : Movement := { values with id := world.nextId, createdAt := now }
    .done movement { world with nextId := world.nextId + 1 }
      { session with movements := session.movements ++ [movement] }

def insertAlert (values : AlertValues) (now : Nat) (world : World) (session : Session) :
    Outcome World Session Exception Alert :=
  if ¬ world.tables.hasPair values.pair then .raise .integrityError
  else if ¬ (Integer.fits values.threshold ∧ Integer.fits values.quantityAtTrigger) then
    .raise .dataError
  else
    let alert : Alert := { values with id := world.nextId, createdAt := now }
    .done alert { world with nextId := world.nextId + 1 }
      { session with alerts := session.alerts ++ [alert] }

def AlertChange.fits : AlertChange → Bool
  | .retype _ quantityAtTrigger => Integer.fits quantityAtTrigger
  | .resolve _ => true

/-- `session.commit()`: the dirty alerts are flushed and the transaction commits. -/
def commit (dirty : List (RowId × AlertChange)) (world : World) (session : Session) :
    Outcome World Session Exception Unit :=
  if ¬ dirty.all (fun change => change.2.fits) then .raise .dataError
  else .done () { world with tables := world.tables.commit session dirty }
    { session with
      rows := [], inserted := [], movements := [], alerts := []
      commits := session.commits + 1
      recorded := session.recorded ++ session.movements
      touched := session.touched ++ session.rows.map Inventory.pair
      pending := none }

def selectActiveAlerts (pair : Pair) (world : World) (session : Session) :
    Outcome World Session Exception (List Alert) :=
  let lookup : Lookup := {
    pair
    object := session.object? pair
    found := world.tables.activeAlerts pair }
  .done lookup.found world { session with
    lookups := session.lookups ++ [lookup]
    pending := some lookup }

def refreshAlert (id : RowId) (world : World) (session : Session) :
    Outcome World Session Exception Alert :=
  match world.tables.alert? id with
  | none => .raise .invalidRequestError
  | some alert => .done alert world session

/-- One page of `select(Inventory).offset(skip).limit(limit)`. A row whose object
is still in the identity map is returned as that object, unrefreshed. -/
def selectInventories (order : RowOrder) (skip limit : Nat) (world : World) (session : Session) :
    Outcome World Session Exception (List Inventory) :=
  let page := ((order.arrange world.tables.inventories).drop skip).take limit
  let batch := page.map (fun row => (session.object? row.pair).getD row)
  .done batch world { session with objects := batch }

/-- `publish` hands an event to its handlers; it is out, whatever becomes of the call. -/
def dispatch (event : InventoryEvent) (world : World) (session : Session) :
    Outcome World Session Exception Unit :=
  .done () { world with published := world.published ++ [event] } session

/-- `asyncio.gather` over the handlers: the result of each, exceptions included. -/
def gather (handlersRaise : List Bool) (world : World) (session : Session) :
    Outcome World Session Exception (List (Except Unit Unit)) :=
  .done (handlersRaise.map (fun raises => if raises then .error () else .ok ())) world session

def delay (alertId : RowId) (brokerRaises : Bool) (world : World) (session : Session) :
    Outcome World Session Exception (Except Unit Unit) :=
  .done (if brokerRaises then .error () else .ok ())
    { world with enqueued := world.enqueued ++ [(alertId, !brokerRaises)] } session

def respond (statement : Statement) (answer : Answer) (others : List Session) (world : World)
    (session : Session) : Outcome World Session Exception statement.Response :=
  match statement with
  | .getProduct id => .done (world.tables.product? id) world session
  | .getWarehouse id => .done (world.tables.warehouse? id) world session
  | .selectInventoryForUpdate productId warehouseId =>
      selectInventoryForUpdate (productId, warehouseId) others world session
  | .insertInventory inventory => insertInventory inventory others world session
  | .updateInventory inventory => updateInventory inventory world session
  | .insertMovement values => insertMovement values answer.now world session
  | .commit dirty => commit dirty world session
  | .selectActiveAlerts productId warehouseId =>
      selectActiveAlerts (productId, warehouseId) world session
  | .getAlert id => .done (world.tables.alert? id) world session
  | .insertAlert values => insertAlert values answer.now world session
  | .refreshAlert id => refreshAlert id world session
  | .selectInventories skip limit =>
      selectInventories (answer.order skip) skip limit world session
  | .utcNow => .done answer.now world session
  | .dispatch event => dispatch event world session
  | .gather => gather answer.handlersRaise world session
  | .delay alertId => delay alertId answer.brokerRaises world session

def execute (statement : Statement) (answer : Answer) (others : List Session) (world : World)
    (session : Session) : Outcome World Session Exception statement.Response :=
  if statement.usesDatabase && answer.fails then .raise .operationalError
  else respond statement answer others world session

def environment : Semantics Statement Statement.Response Exception Answer World Session where
  execute := execute
  close := Session.close

end InventoryManagement
