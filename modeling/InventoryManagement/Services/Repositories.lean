import InventoryManagement.Database.Statement

/-! The repository methods the services use, and the event publisher they share. -/

set_option autoImplicit false

namespace InventoryManagement

open Interleaving (Program)

def send (statement : Statement) : Transaction statement.Response := Program.perform statement

/-- `Result.scalar_one_or_none` on the rows of a query. -/
def scalarOneOrNone {Row : Type} : List Row → Transaction (Option Row)
  | [] => .ret none
  | [row] => .ret (some row)
  | _ => .raise .multipleResultsFound

/-- `BaseRepository.get_by_id_or_raise` on what `session.get` returned. -/
def getByIdOrRaise {Entity : Type} (model id : String) : Option Entity → Transaction Entity
  | none => .raise (.notFoundError s!"{model} with id '{id}' was not found.")
  | some entity => .ret entity

def getProductByIdOrRaise (id : UUID) : Transaction Product := do
  let entity ← send (.getProduct id)
  getByIdOrRaise "Product" id.str entity

def getWarehouseByIdOrRaise (id : UUID) : Transaction Warehouse := do
  let entity ← send (.getWarehouse id)
  getByIdOrRaise "Warehouse" id.str entity

def getAlertByIdOrRaise (id : RowId) : Transaction Alert := do
  let entity ← send (.getAlert id)
  getByIdOrRaise "Alert" (toString id) entity

def getByProductAndWarehouseForUpdate (productId warehouseId : UUID) :
    Transaction (Option Inventory) := do
  let rows ← send (.selectInventoryForUpdate productId warehouseId)
  scalarOneOrNone rows

def getActiveByProductAndWarehouse (productId warehouseId : UUID) :
    Transaction (Option Alert) := do
  let rows ← send (.selectActiveAlerts productId warehouseId)
  scalarOneOrNone rows

def createInventory (inventory : Inventory) : Transaction Inventory :=
  send (.insertInventory inventory)

def createMovement (values : MovementValues) : Transaction Movement :=
  send (.insertMovement values)

def createAlert (values : AlertValues) : Transaction Alert :=
  send (.insertAlert values)

def commitSession (dirty : List (RowId × AlertChange)) : Transaction Unit :=
  send (.commit dirty)

/-- `InProcessEventPublisher.publish`: the handlers' exceptions are only logged. -/
def publish (event : InventoryEvent) : Transaction Unit := do
  send (.dispatch event)
  let _results ← send .gather
  pure ()

end InventoryManagement
