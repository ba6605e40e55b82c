import InventoryManagement.Database.TablesProperties
import InventoryManagement.Services.InventoryCommand
import InventoryManagement.Tasks.Alerts

/-! The units of work that run in a session of their own: a movement request, a
sweep of the Celery beat schedule, and a manual resolution of an alert. -/

set_option autoImplicit false

namespace InventoryManagement

open Interleaving (Program System)

inductive Request where
  | movement (data : MovementCreate) (performedBy : Option UUID)
  | sweep (fuel : Nat)
  | resolveAlert (alertId : RowId)

inductive Reply where
  | movement (movement : Movement)
  | summary (summary : SweepSummary)
  | alert (alert : Alert)

def Request.program (settings : Settings) : Request → Transaction Reply
  | .movement data performedBy => do
      let movement ← recordMovement settings data performedBy
      pure (.movement movement)
  | .sweep fuel => do
      let summary ← checkLowStockLevels settings fuel
      pure (.summary summary)
  | .resolveAlert alertId => do
      let alert ← InventoryManagement.resolveAlert alertId
      pure (.alert alert)

abbrev Application := System Request Statement Statement.Response Exception World Session Reply

def Application.start (settings : Settings) (world : World) (requests : List Request) :
    Application :=
  System.start environment (Request.program settings) world {} requests

/-! A deployment with one product and two warehouses, small enough to run. -/

namespace Sample

def product : Product where
  id := ⟨1⟩
  sku := "WID-001"
  name := "Widget"
  price := 1999

def main : Warehouse where
  id := ⟨2⟩
  name := "Main"
  code := "WH-MAIN"

def branch : Warehouse where
  id := ⟨3⟩
  name := "Branch"
  code := "WH-BRANCH"

def world : World where
  tables := { products := [product], warehouses := [main, branch] }

theorem world_valid : world.Valid := by
  constructor <;> simp [world, product, main, branch]

/-- Stock that was edited out of band: no alert has been raised for it. -/
def stocked : World where
  tables := { world.tables with inventories := [
    { productId := product.id, warehouseId := main.id, quantity := 5 },
    { productId := product.id, warehouseId := branch.id, quantity := 0,
      lowStockThreshold := some 3 }] }

theorem stocked_valid : stocked.Valid := by
  have fits : ∀ row ∈ stocked.tables.inventories, row.Fits := by
    intro row member
    simp only [stocked, List.mem_cons, List.not_mem_nil, or_false] at member
    rcases member with rfl | rfl <;> constructor <;> decide
  refine ⟨world_valid.products_unique, world_valid.warehouses_unique, by decide,
    by decide, fits, ?_, ?_, ?_, ?_, ?_⟩ <;> simp [stocked, world]

def receive (warehouse : Warehouse) (quantity : Int) (positive : 0 < quantity) : MovementCreate where
  productId := product.id
  movementType := .IN
  quantity := quantity
  destinationWarehouseId := some warehouse.id
  quantity_positive := positive
  reason_length := by simp
  warehouses_valid := by simp [MovementPayload.validateWarehousesForType]

def ship (warehouse : Warehouse) (quantity : Int) (positive : 0 < quantity) : MovementCreate where
  productId := product.id
  movementType := .OUT
  quantity := quantity
  sourceWarehouseId := some warehouse.id
  quantity_positive := positive
  reason_length := by simp
  warehouses_valid := by simp [MovementPayload.validateWarehousesForType]

theorem no_reason : ∀ text ∈ (none : Option String), text.length ≤ 500 := by simp

theorem three_positive : (0 : Int) < 3 := by decide

theorem main_ne_branch : main.id ≠ branch.id := by decide

def transfer (sourceId destinationId : UUID) (quantity : Int) (positive : 0 < quantity)
    (different : sourceId ≠ destinationId) : MovementCreate where
  productId := product.id
  movementType := .TRANSFER
  quantity := quantity
  sourceWarehouseId := some sourceId
  destinationWarehouseId := some destinationId
  quantity_positive := positive
  reason_length := no_reason
  warehouses_valid := by simp [MovementPayload.validateWarehousesForType, different]

abbrev receive1 : MovementCreate := receive main 1 (by decide)

abbrev receive2 : MovementCreate := receive main 2 (by decide)

abbrev receive3 : MovementCreate := receive main 3 (by decide)

abbrev receive20 : MovementCreate := receive main 20 (by decide)

abbrev receive25 : MovementCreate := receive main 25 (by decide)

abbrev ship20 : MovementCreate := ship main 20 (by decide)

abbrev transfer3 : MovementCreate := transfer main.id branch.id 3 three_positive main_ne_branch

end Sample

end InventoryManagement
