import InventoryManagement.Models

/-! The domain events of `app.events.inventory`. -/

set_option autoImplicit false

namespace InventoryManagement

/-- What a concrete event class adds to the envelope of `DomainEvent`. -/
inductive InventoryEvent where
  | stockReceived (productId warehouseId : UUID) (quantity resultingQuantity : Int)
  | stockRemoved (productId warehouseId : UUID) (quantity resultingQuantity : Int)
  | stockTransferred (productId sourceWarehouseId destinationWarehouseId : UUID) (quantity : Int)
  | lowStockDetected (productId warehouseId : UUID) (quantity threshold : Int)
  | outOfStockDetected (productId warehouseId : UUID)
deriving DecidableEq

def InventoryEvent.eventType : InventoryEvent → String
  | .stockReceived .. => "inventory.stock_received"
  | .stockRemoved .. => "inventory.stock_removed"
  | .stockTransferred .. => "inventory.stock_transferred"
  | .lowStockDetected .. => "inventory.low_stock_detected"
  | .outOfStockDetected .. => "inventory.out_of_stock_detected"

/-- The events that describe a movement, as opposed to a threshold condition. -/
def InventoryEvent.isMovement : InventoryEvent → Bool
  | .stockReceived .. | .stockRemoved .. | .stockTransferred .. => true
  | .lowStockDetected .. | .outOfStockDetected .. => false

end InventoryManagement
