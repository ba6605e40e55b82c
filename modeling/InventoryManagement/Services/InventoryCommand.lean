import InventoryManagement.Services.Alert

/-! `InventoryCommandService`: stock movements under row locks, their audit
records, and what follows a commit. -/

set_option autoImplicit false

namespace InventoryManagement

open Interleaving (Program)

/-- Assign a new quantity to a locked row and flush it. -/
def flushQuantity (inventory : Inventory) (quantity : Int) : Transaction Inventory := do
  send (.updateInventory { inventory with quantity })
  pure { inventory with quantity }

def increaseStock (productId warehouseId : UUID) (quantity : Int) : Transaction Inventory := do
  let _ ← getWarehouseByIdOrRaise warehouseId
  let found ← getByProductAndWarehouseForUpdate productId warehouseId
  let inventory ← match found with
    | none => createInventory { productId, warehouseId, quantity := 0 }
    | some inventory => pure inventory
  flushQuantity inventory (inventory.quantity + quantity)

def decreaseStock (productId warehouseId : UUID) (quantity : Int) : Transaction Inventory := do
  let _ ← getWarehouseByIdOrRaise warehouseId
  let found ← getByProductAndWarehouseForUpdate productId warehouseId
  match found with
  | none => Program.raise (.notFoundError
      s!"No inventory record for product '{productId.str}' in warehouse '{warehouseId.str}'.")
  | some inventory =>
      if inventory.quantity < quantity then
        Program.raise (.insufficientStockError
          (s!"Cannot remove {quantity} units of product '{productId.str}' from " ++
            s!"warehouse '{warehouseId.str}': only {inventory.quantity} in stock."))
      else flushQuantity inventory (inventory.quantity - quantity)

/-- The legs run in the order of the warehouse ids, whichever of them is the source. -/
def transferStock (productId sourceWarehouseId destinationWarehouseId : UUID) (quantity : Int) :
    Transaction (Inventory × Inventory) := do
  if (sortedByStr sourceWarehouseId destinationWarehouseId).1 = sourceWarehouseId then do
    let source ← decreaseStock productId sourceWarehouseId quantity
    let destination ← increaseStock productId destinationWarehouseId quantity
    pure (source, destination)
  else do
    let destination ← increaseStock productId destinationWarehouseId quantity
    let source ← decreaseStock productId sourceWarehouseId quantity
    pure (source, destination)

/-- The stock changes of a movement; the result lists the affected rows, the
source of a transfer first. A missing warehouse id fails the code's `assert`. -/
def applyMovement (data : MovementCreate) : Transaction (List Inventory) :=
  match data.movementType, data.sourceWarehouseId, data.destinationWarehouseId with
  | .IN, _, some destination => do
      let inventory ← increaseStock data.productId destination data.quantity
      pure [inventory]
  | .OUT, some source, _ => do
      let inventory ← decreaseStock data.productId source data.quantity
      pure [inventory]
  | .TRANSFER, some source, some destination => do
      let (source, destination) ←
        transferStock data.productId source destination data.quantity
      pure [source, destination]
  | _, _, _ => Program.raise .assertionError

/-- `affected[0].quantity`. -/
def resultingQuantity (affected : List Inventory) : Int :=
  (affected.head?.map (·.quantity)).getD 0

def buildMovementEvent (data : MovementCreate) (affected : List Inventory) :
    Transaction InventoryEvent :=
  match data.movementType, data.sourceWarehouseId, data.destinationWarehouseId with
  | .IN, _, some destination =>
      pure (.stockReceived data.productId destination data.quantity (resultingQuantity affected))
  | .OUT, some source, _ =>
      pure (.stockRemoved data.productId source data.quantity (resultingQuantity affected))
  | .TRANSFER, some source, some destination =>
      pure (.stockTransferred data.productId source destination data.quantity)
  | _, _, _ => Program.raise .assertionError

def MovementCreate.values (data : MovementCreate) (performedBy : Option UUID) : MovementValues where
  productId := data.productId
  movementType := data.movementType
  quantity := data.quantity
  sourceWarehouseId := data.sourceWarehouseId
  destinationWarehouseId := data.destinationWarehouseId
  reason := data.reason
  performedBy := performedBy

/-- `for inventory in affected: await evaluate_stock_level(inventory)`. -/
def evaluateAffected (settings : Settings) : List Inventory → Transaction Unit
  | [] => pure ()
  | inventory :: rest => do
      let _ ← evaluateStockLevel settings inventory
      evaluateAffected settings rest

/-- What `record_movement` does once its movement is committed. -/
def announceMovement (settings : Settings) (data : MovementCreate) (affected : List Inventory) :
    Transaction Unit := do
  evaluateAffected settings affected
  let event ← buildMovementEvent data affected
  publish event

def recordMovement (settings : Settings) (data : MovementCreate) (performedBy : Option UUID) :
    Transaction Movement := do
  let _ ← getProductByIdOrRaise data.productId
  let affected ← applyMovement data
  let movement ← createMovement (data.values performedBy)
  commitSession []
  announceMovement settings data affected
  pure movement

end InventoryManagement
