import InventoryManagement.Database.Statement
import InventoryManagement.Sql

/-! The read side of the inventory: `InventoryRepository`, `InventoryQueryService`
and the `GET /inventory` endpoint. -/

set_option autoImplicit false

namespace InventoryManagement

/-- `select(Inventory).where(...).offset(skip).limit(limit)`, in some order. -/
def selectPage (order : RowOrder) (condition : Inventory → Bool) (skip limit : Nat)
    (tables : Tables) : List Inventory :=
  ((order.arrange (tables.inventories.filter condition)).drop skip).take limit

namespace InventoryRepository

def listAll (order : RowOrder) (skip limit : Nat) (tables : Tables) : List Inventory :=
  selectPage order (fun _ => true) skip limit tables

def listByWarehouse (order : RowOrder) (warehouseId : UUID) (skip limit : Nat) (tables : Tables) :
    List Inventory :=
  selectPage order (fun row => decide (row.warehouseId = warehouseId)) skip limit tables

/-- The `WHERE` clause of `list_low_stock`. -/
def lowStockCondition (row : Inventory) : Bool :=
  row.lowStockThreshold.isSome && Sql.isTrue (Sql.le (some row.quantity) row.lowStockThreshold)

def listLowStock (order : RowOrder) (skip limit : Nat) (tables : Tables) : List Inventory :=
  selectPage order lowStockCondition skip limit tables

end InventoryRepository

namespace InventoryQueryService

def listAllStock (order : RowOrder) (skip limit : Nat) (tables : Tables) : List Inventory :=
  InventoryRepository.listAll order skip limit tables

def listWarehouseStock (order : RowOrder) (warehouseId : UUID) (skip limit : Nat)
    (tables : Tables) : List Inventory :=
  InventoryRepository.listByWarehouse order warehouseId skip limit tables

def listLowStock (order : RowOrder) (skip limit : Nat) (tables : Tables) : List Inventory :=
  InventoryRepository.listLowStock order skip limit tables

end InventoryQueryService

/-- `list_inventory`: a warehouse filter takes precedence over `low_stock_only`. -/
def listInventory (order : RowOrder) (skip limit : Nat) (warehouseId : Option UUID)
    (lowStockOnly : Bool) (tables : Tables) : List Inventory :=
  match warehouseId with
  | some warehouseId =>
      InventoryQueryService.listWarehouseStock order warehouseId skip limit tables
  | none =>
      if lowStockOnly then InventoryQueryService.listLowStock order skip limit tables
      else InventoryQueryService.listAllStock order skip limit tables

end InventoryManagement
