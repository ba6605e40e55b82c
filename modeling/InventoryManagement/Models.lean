import InventoryManagement.Core

/-! The stored entities of `app.models` and the movement payload of
`app.schemas.movement`. Timestamps that no operation reads are left out; ids of
rows created at run time are drawn from a supply that, like `uuid4`, never
repeats a value. -/

set_option autoImplicit false

namespace InventoryManagement

abbrev RowId := Nat

abbrev Pair := UUID × UUID

instance Pair.lawfulBEq : LawfulBEq Pair := inferInstance

/-- The price is counted in hundredths, the scale of its `Numeric(12, 2)` column. -/
structure Product where
  id : UUID
  sku : String
  name : String
  description : Option String := none
  price : Int
  isActive : Bool := true
deriving DecidableEq

structure Warehouse where
  id : UUID
  name : String
  code : String
  address : Option String := none
  isActive : Bool := true
deriving DecidableEq

structure Inventory where
  productId : UUID
  warehouseId : UUID
  quantity : Int := 0
  lowStockThreshold : Option Int := none
deriving DecidableEq

def Inventory.pair (inventory : Inventory) : Pair :=
  (inventory.productId, inventory.warehouseId)

inductive MovementType where
  | IN
  | OUT
  | TRANSFER
deriving DecidableEq

/-- The columns of a movement that its creator sets. -/
structure MovementValues where
  productId : UUID
  movementType : MovementType
  quantity : Int
  sourceWarehouseId : Option UUID
  destinationWarehouseId : Option UUID
  reason : Option String
  performedBy : Option UUID
deriving DecidableEq

structure Movement extends MovementValues where
  id : RowId
  createdAt : Nat
deriving DecidableEq

inductive AlertType where
  | LOW_STOCK
  | OUT_OF_STOCK
deriving DecidableEq

inductive AlertStatus where
  | ACTIVE
  | RESOLVED
deriving DecidableEq

/-- The columns of an alert that its creator sets. -/
structure AlertValues where
  productId : UUID
  warehouseId : UUID
  alertType : AlertType
  threshold : Int
  quantityAtTrigger : Int
deriving DecidableEq

structure Alert extends AlertValues where
  id : RowId
  status : AlertStatus := .ACTIVE
  resolvedAt : Option Nat := none
  createdAt : Nat
deriving DecidableEq

def AlertValues.pair (alert : AlertValues) : Pair := (alert.productId, alert.warehouseId)

def Alert.pair (alert : Alert) : Pair := alert.toAlertValues.pair

def Alert.isActive (alert : Alert) : Bool := decide (alert.status = .ACTIVE)

/-- The assignments `AlertService` makes to a loaded alert before a commit. -/
inductive AlertChange where
  | retype (alertType : AlertType) (quantityAtTrigger : Int)
  | resolve (resolvedAt : Nat)
deriving DecidableEq

def AlertChange.apply (change : AlertChange) (alert : Alert) : Alert :=
  match change with
  | .retype alertType quantityAtTrigger => { alert with alertType, quantityAtTrigger }
  | .resolve resolvedAt => { alert with status := .RESOLVED, resolvedAt := some resolvedAt }

@[simp] theorem AlertChange.apply_id (change : AlertChange) (alert : Alert) :
    (change.apply alert).id = alert.id := by cases change <;> rfl

@[simp] theorem AlertChange.apply_pair (change : AlertChange) (alert : Alert) :
    (change.apply alert).pair = alert.pair := by cases change <;> rfl

/-! The payload of `POST /inventory`. -/

structure MovementPayload where
  productId : UUID
  movementType : MovementType
  quantity : Int
  sourceWarehouseId : Option UUID := none
  destinationWarehouseId : Option UUID := none
  reason : Option String := none
deriving DecidableEq

/-- The model validator; an error carries the text of its `ValueError`. -/
def MovementPayload.validateWarehousesForType (payload : MovementPayload) : Except String Unit :=
  match payload.movementType with
  | .IN =>
      if payload.destinationWarehouseId = none then
        .error "destination_warehouse_id is required for IN movements."
      else if payload.sourceWarehouseId ≠ none then
        .error "source_warehouse_id must not be set for IN movements."
      else .ok ()
  | .OUT =>
      if payload.sourceWarehouseId = none then
        .error "source_warehouse_id is required for OUT movements."
      else if payload.destinationWarehouseId ≠ none then
        .error "destination_warehouse_id must not be set for OUT movements."
      else .ok ()
  | .TRANSFER =>
      if payload.sourceWarehouseId = none ∨ payload.destinationWarehouseId = none then
        .error "Both source_warehouse_id and destination_warehouse_id are required for TRANSFER movements."
      else if payload.sourceWarehouseId = payload.destinationWarehouseId then
        .error "source_warehouse_id and destination_warehouse_id must differ for TRANSFER movements."
      else .ok ()

/-- A payload that passed validation: the field constraints and the model validator. -/
structure MovementCreate extends MovementPayload where
  quantity_positive : 0 < quantity
  reason_length : ∀ text ∈ reason, text.length ≤ 500
  warehouses_valid : toMovementPayload.validateWarehousesForType = .ok ()

/-- The three shapes of an accepted payload. -/
theorem MovementCreate.warehouses_cases (data : MovementCreate) :
    (data.movementType = .IN ∧ data.sourceWarehouseId = none ∧
      ∃ destination, data.destinationWarehouseId = some destination) ∨
    (data.movementType = .OUT ∧ data.destinationWarehouseId = none ∧
      ∃ source, data.sourceWarehouseId = some source) ∨
    (data.movementType = .TRANSFER ∧ ∃ source destination,
      data.sourceWarehouseId = some source ∧ data.destinationWarehouseId = some destination ∧
        source ≠ destination) := by
  have valid := data.warehouses_valid
  unfold MovementPayload.validateWarehousesForType at valid
  cases type : data.movementType with
  | IN =>
      rw [type] at valid
      cases destination : data.destinationWarehouseId with
      | none => simp [destination] at valid
      | some warehouse =>
          cases source : data.sourceWarehouseId with
          | none => exact .inl ⟨rfl, rfl, warehouse, rfl⟩
          | some other => simp [source, destination] at valid
  | OUT =>
      rw [type] at valid
      cases source : data.sourceWarehouseId with
      | none => simp [source] at valid
      | some warehouse =>
          cases destination : data.destinationWarehouseId with
          | none => exact .inr (.inl ⟨rfl, rfl, warehouse, rfl⟩)
          | some other => simp [source, destination] at valid
  | TRANSFER =>
      rw [type] at valid
      cases source : data.sourceWarehouseId with
      | none => simp [source] at valid
      | some left =>
          cases destination : data.destinationWarehouseId with
          | none => simp [source, destination] at valid
          | some right =>
              refine .inr (.inr ⟨rfl, left, right, rfl, rfl, ?_⟩)
              intro same
              simp [source, destination, same] at valid

end InventoryManagement
