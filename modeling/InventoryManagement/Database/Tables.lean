import InventoryManagement.Events

/-! The committed tables, and the state one session keeps next to them. -/

set_option autoImplicit false

namespace InventoryManagement

structure Tables where
  products : List Product
  warehouses : List Warehouse
  inventories : List Inventory := []
  movements : List Movement := []
  alerts : List Alert := []

def Tables.product? (tables : Tables) (id : UUID) : Option Product :=
  tables.products.find? (fun product => product.id = id)

def Tables.warehouse? (tables : Tables) (id : UUID) : Option Warehouse :=
  tables.warehouses.find? (fun warehouse => warehouse.id = id)

def Tables.hasProduct (tables : Tables) (id : UUID) : Bool := (tables.product? id).isSome

def Tables.hasWarehouse (tables : Tables) (id : UUID) : Bool := (tables.warehouse? id).isSome

/-- The foreign keys of a row that belongs to a pair. -/
def Tables.hasPair (tables : Tables) (pair : Pair) : Bool :=
  tables.hasProduct pair.1 && tables.hasWarehouse pair.2

/-- The foreign keys of a movement. -/
def MovementValues.refers (values : MovementValues) (tables : Tables) : Bool :=
  tables.hasProduct values.productId && values.sourceWarehouseId.all tables.hasWarehouse &&
    values.destinationWarehouseId.all tables.hasWarehouse

def Tables.inventoriesOf (tables : Tables) (pair : Pair) : List Inventory :=
  tables.inventories.filter (fun row => row.pair = pair)

def Tables.alert? (tables : Tables) (id : RowId) : Option Alert :=
  tables.alerts.find? (fun alert => alert.id = id)

def Tables.activeAlerts (tables : Tables) (pair : Pair) : List Alert :=
  tables.alerts.filter (fun alert => alert.pair = pair && alert.isActive)

/-- The shared state: the committed tables, the supply of new ids, and what has
been handed to the event publisher and to the task broker so far. An enqueue
records the alert id and whether the broker accepted the task. -/
structure World where
  tables : Tables
  nextId : RowId := 0
  published : List InventoryEvent := []
  enqueued : List (RowId × Bool) := []

/-- A lookup of a pair's active alerts, with the inventory object the session had
of the pair. -/
structure Lookup where
  pair : Pair
  object : Option Inventory
  found : List Alert

/-- What a session has done so far. No statement reads it: the commits made, the
movements they recorded, the pairs they touched, the alert lookups, and the last
lookup if no commit has followed it. -/
structure History where
  commits : Nat := 0
  recorded : List Movement := []
  touched : List Pair := []
  lookups : List Lookup := []
  pending : Option Lookup := none

/-- One session. The first four fields are its open transaction: its versions of
the inventory rows it has locked or inserted, the pairs among them it inserted,
and its other flushed rows. `objects` is the identity map of inventory objects,
which outlives a commit. -/
structure Session extends History where
  rows : List Inventory := []
  inserted : List Pair := []
  movements : List Movement := []
  alerts : List Alert := []
  objects : List Inventory := []

def Session.row? (session : Session) (pair : Pair) : Option Inventory :=
  session.rows.find? (fun row => row.pair = pair)

def Session.object? (session : Session) (pair : Pair) : Option Inventory :=
  session.objects.find? (fun object => object.pair = pair)

def Session.holds (session : Session) (pair : Pair) : Bool := (session.row? pair).isSome

/-- Replace the object with the same identity, or remember a new one. -/
def replaceRow (rows : List Inventory) (row : Inventory) : List Inventory :=
  if rows.any (fun other => other.pair = row.pair) then
    rows.map (fun other => if other.pair = row.pair then row else other)
  else rows ++ [row]

/-- Closing a session rolls its open transaction back and drops its objects. -/
def Session.close (session : Session) : Session :=
  { session with rows := [], inserted := [], movements := [], alerts := [], objects := [] }

/-- A session that holds no inventory row and has flushed no movement. -/
structure Session.Unlocked (session : Session) : Prop where
  rows : session.rows = []
  inserted : session.inserted = []
  movements : session.movements = []

/-- A session whose transaction has written nothing. -/
structure Session.Clean (session : Session) : Prop extends session.Unlocked where
  alerts : session.alerts = []

/-- The changes flushed by a commit, on one row of the alerts table. -/
def applyChanges (dirty : List (RowId × AlertChange)) (alert : Alert) : Alert :=
  dirty.foldl (fun row change => if change.1 = row.id then change.2.apply row else row) alert

/-- The committed tables after a session's transaction commits. -/
def Tables.commit (tables : Tables) (session : Session) (dirty : List (RowId × AlertChange)) :
    Tables :=
  { tables with
    inventories := tables.inventories.map (fun row => (session.row? row.pair).getD row) ++
      session.rows.filter (fun row => row.pair ∈ session.inserted)
    movements := tables.movements ++ session.movements
    alerts := (tables.alerts ++ session.alerts).map (applyChanges dirty) }

end InventoryManagement
