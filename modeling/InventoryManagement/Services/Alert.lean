import InventoryManagement.Services.Repositories

/-! `AlertService`: alert records follow the stock levels. -/

set_option autoImplicit false

namespace InventoryManagement

open Interleaving (Program)

def effectiveThreshold (settings : Settings) (inventory : Inventory) : Int :=
  inventory.lowStockThreshold.getD settings.lowStockAlertThresholdDefault

/-- The event announcing a newly created or retyped alert. -/
def alertEvent (alert : Alert) : InventoryEvent :=
  if alert.alertType = .OUT_OF_STOCK then
    .outOfStockDetected alert.productId alert.warehouseId
  else
    .lowStockDetected alert.productId alert.warehouseId alert.quantityAtTrigger alert.threshold

/-- A broker error is logged and swallowed. -/
def enqueueNotification (alert : Alert) : Transaction Unit := do
  match ← send (.delay alert.id) with
  | .ok () => pure ()
  | .error () => pure ()

def reactToAlert (alert : Alert) : Transaction Unit := do
  publish (alertEvent alert)
  enqueueNotification alert

/-- `_resolve`: the returned row is the refreshed one. -/
def resolve (alert : Alert) : Transaction Alert := do
  let now ← send .utcNow
  commitSession [(alert.id, .resolve now)]
  send (.refreshAlert alert.id)

def evaluateStockLevel (settings : Settings) (inventory : Inventory) :
    Transaction (Option Alert) := do
  let threshold := effectiveThreshold settings inventory
  let existing ← getActiveByProductAndWarehouse inventory.productId inventory.warehouseId
  if inventory.quantity > threshold then
    match existing with
    | some alert => do
        let _ ← resolve alert
        pure none
    | none => pure none
  else
    let alertType : AlertType := if inventory.quantity = 0 then .OUT_OF_STOCK else .LOW_STOCK
    match existing with
    | some alert =>
        if alert.alertType ≠ alertType then do
          commitSession [(alert.id, .retype alertType inventory.quantity)]
          let refreshed ← send (.refreshAlert alert.id)
          reactToAlert refreshed
          pure (some refreshed)
        else pure (some alert)
    | none => do
        let alert ← createAlert {
          productId := inventory.productId
          warehouseId := inventory.warehouseId
          alertType, threshold
          quantityAtTrigger := inventory.quantity }
        commitSession []
        reactToAlert alert
        pure (some alert)

/-- The branch of an evaluation that changes the type of the alert it found. -/
abbrev retypeAlert (alert : Alert) (alertType : AlertType) (quantity : Int) :
    Transaction (Option Alert) := do
  commitSession [(alert.id, .retype alertType quantity)]
  let refreshed ← send (.refreshAlert alert.id)
  reactToAlert refreshed
  pure (some refreshed)

/-- The branch of an evaluation that found no alert. -/
abbrev raiseAlert (values : AlertValues) : Transaction (Option Alert) := do
  let alert ← createAlert values
  commitSession []
  reactToAlert alert
  pure (some alert)

def resolveAlert (alertId : RowId) : Transaction Alert := do
  let alert ← getAlertByIdOrRaise alertId
  if alert.status = .RESOLVED then
    Program.raise (.conflictError s!"Alert '{alertId}' is already resolved.")
  else resolve alert

end InventoryManagement
