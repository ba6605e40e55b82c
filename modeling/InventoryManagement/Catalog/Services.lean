import InventoryManagement.Catalog.Statement

/-! `ProductService` and `WarehouseService`, which share their structure. -/

set_option autoImplicit false

namespace InventoryManagement.Catalog

open Interleaving (Program)

abbrev Transaction := Program Statement Statement.Response Exception

def send (statement : Statement) : Transaction statement.Response := Program.perform statement

/-- `Result.scalar_one_or_none`. -/
def scalarOneOrNone {Row : Type} : List Row → Transaction (Option Row)
  | [] => .ret none
  | [row] => .ret (some row)
  | _ => .raise .multipleResultsFound

/-- `BaseRepository.get_by_id_or_raise`. -/
def getByIdOrRaise (resource : Resource) (id : UUID) : Transaction resource.Row := do
  match ← send (.get resource id) with
  | none => .raise (.notFoundError s!"{resource.model} with id '{id.str}' was not found.")
  | some entity => pure entity

/-- `get_by_sku` or `get_by_code`. -/
def getByKey (resource : Resource) (key : String) : Transaction (Option resource.Row) := do
  let rows ← send (.selectByKey resource key)
  scalarOneOrNone rows

/-- The check that precedes every write of a natural key. -/
def requireFreeKey (resource : Resource) (key : String) : Transaction Unit := do
  match ← getByKey resource key with
  | some _ => .raise (resource.keyConflict key)
  | none => pure ()

def create (resource : Resource) (row : UUID → resource.Row) : Transaction resource.Row := do
  let entity ← send (.insert resource row)
  send (.refresh resource (resource.id entity))

def createEntity (resource : Resource) (key : String) (row : UUID → resource.Row) :
    Transaction resource.Row := do
  requireFreeKey resource key
  let entity ← create resource row
  send .commit
  pure entity

/-- The flush of an entity. Attributes that keep their value are not part of it. -/
def flush (resource : Resource) (entity : resource.Row) (updates : resource.Changes) :
    Transaction Unit :=
  if resource.unchanged (resource.dirty updates entity) then pure ()
  else send (.update resource (resource.id entity) (resource.dirty updates entity))

/-- `setattr` on a loaded entity, then `commit` and `refresh`. -/
def assign (resource : Resource) (entity : resource.Row) (updates : resource.Changes) :
    Transaction resource.Row := do
  flush resource entity updates
  send .commit
  send (.refresh resource (resource.id entity))

/-- `if new_key is not None and new_key != entity.key`. -/
def requireFreeNewKey (resource : Resource) (entity : resource.Row) (updates : resource.Changes) :
    Transaction Unit :=
  match resource.newKey updates with
  | none => pure ()
  | some key => if key ≠ resource.key entity then requireFreeKey resource key else pure ()

def updateEntity (resource : Resource) (id : UUID) (updates : resource.Changes) :
    Transaction resource.Row := do
  let entity ← getByIdOrRaise resource id
  requireFreeNewKey resource entity updates
  assign resource entity updates

def deactivateEntity (resource : Resource) (id : UUID) : Transaction resource.Row := do
  let entity ← getByIdOrRaise resource id
  assign resource entity resource.deactivation

/-! `ProductService`. -/

def ProductCreate.row (data : ProductCreate) (id : UUID) : Product where
  id := id
  sku := data.sku
  name := data.name
  description := data.description
  price := data.price

def createProduct (data : ProductCreate) : Transaction Product :=
  createEntity .product data.sku data.row

def updateProduct (productId : UUID) (data : ProductUpdate) : Transaction Product :=
  updateEntity .product productId data.toProductChanges

def deactivateProduct (productId : UUID) : Transaction Product :=
  deactivateEntity .product productId

/-! `WarehouseService`. -/

def WarehouseCreate.row (data : WarehouseCreate) (id : UUID) : Warehouse where
  id := id
  name := data.name
  code := data.code
  address := data.address

def createWarehouse (data : WarehouseCreate) : Transaction Warehouse :=
  createEntity .warehouse data.code data.row

def updateWarehouse (warehouseId : UUID) (data : WarehouseUpdate) : Transaction Warehouse :=
  updateEntity .warehouse warehouseId data.toWarehouseChanges

def deactivateWarehouse (warehouseId : UUID) : Transaction Warehouse :=
  deactivateEntity .warehouse warehouseId

/-! The calls of the two services that write. -/

inductive Call where
  | createProduct (data : ProductCreate)
  | updateProduct (productId : UUID) (data : ProductUpdate)
  | deactivateProduct (productId : UUID)
  | createWarehouse (data : WarehouseCreate)
  | updateWarehouse (warehouseId : UUID) (data : WarehouseUpdate)
  | deactivateWarehouse (warehouseId : UUID)

namespace Call

@[reducible] def resource : Call → Resource
  | .createProduct _ => .product
  | .updateProduct _ _ => .product
  | .deactivateProduct _ => .product
  | .createWarehouse _ => .warehouse
  | .updateWarehouse _ _ => .warehouse
  | .deactivateWarehouse _ => .warehouse

def body : (call : Call) → Transaction call.resource.Row
  | .createProduct data => Catalog.createProduct data
  | .updateProduct productId data => Catalog.updateProduct productId data
  | .deactivateProduct productId => Catalog.deactivateProduct productId
  | .createWarehouse data => Catalog.createWarehouse data
  | .updateWarehouse warehouseId data => Catalog.updateWarehouse warehouseId data
  | .deactivateWarehouse warehouseId => Catalog.deactivateWarehouse warehouseId

end Call

abbrev Entity := (resource : Resource) × resource.Row

def Call.program (call : Call) : Transaction Entity := do
  let row ← call.body
  pure ⟨call.resource, row⟩

/-! What a call asks for. -/

namespace Call

/-- The entity a call changes, unless it creates one. -/
def target? : Call → Option UUID
  | .createProduct _ => none
  | .updateProduct productId _ => some productId
  | .deactivateProduct productId => some productId
  | .createWarehouse _ => none
  | .updateWarehouse warehouseId _ => some warehouseId
  | .deactivateWarehouse warehouseId => some warehouseId

/-- The values a call gives to columns. An id is not among them. -/
def changes : (call : Call) → call.resource.Changes
  | .createProduct data => Resource.columns .product (data.row ⟨0⟩)
  | .updateProduct _ data => data.toProductChanges
  | .deactivateProduct _ => Resource.deactivation .product
  | .createWarehouse data => Resource.columns .warehouse (data.row ⟨0⟩)
  | .updateWarehouse _ data => data.toWarehouseChanges
  | .deactivateWarehouse _ => Resource.deactivation .warehouse

def key? (call : Call) : Option String := call.resource.newKey call.changes

def storable (call : Call) : Bool := (call.resource.violation? call.changes).isNone

end Call

/-! Every call is one of two programs. -/

/-- A deactivation is the update of one attribute. -/
theorem deactivateEntity_eq (resource : Resource) (id : UUID) :
    deactivateEntity resource id = updateEntity resource id resource.deactivation := by
  cases resource <;> rfl

theorem Call.body_update {call : Call} {id : UUID} (named : call.target? = some id) :
    call.body = updateEntity call.resource id call.changes := by
  cases call with
  | createProduct data => cases named
  | updateProduct productId data => cases named; rfl
  | deactivateProduct productId => cases named; exact deactivateEntity_eq _ _
  | createWarehouse data => cases named
  | updateWarehouse warehouseId data => cases named; rfl
  | deactivateWarehouse warehouseId => cases named; exact deactivateEntity_eq _ _

/-- The row a creation inserts, for any id. -/
structure Call.Makes (call : Call) (key : String) (row : UUID → call.resource.Row) : Prop where
  body : call.body = createEntity call.resource key row
  named : call.key? = some key
  ids : ∀ uuid, call.resource.id (row uuid) = uuid
  keys : ∀ uuid, call.resource.key (row uuid) = key
  columns : ∀ uuid, call.resource.columns (row uuid) = call.changes

theorem Call.body_create {call : Call} (unnamed : call.target? = none) :
    ∃ key row, call.Makes key row := by
  cases call with
  | createProduct data =>
      exact ⟨data.sku, data.row, rfl, rfl, fun _ => rfl, fun _ => rfl, fun _ => rfl⟩
  | updateProduct productId data => cases unnamed
  | deactivateProduct productId => cases unnamed
  | createWarehouse data =>
      exact ⟨data.code, data.row, rfl, rfl, fun _ => rfl, fun _ => rfl, fun _ => rfl⟩
  | updateWarehouse warehouseId data => cases unnamed
  | deactivateWarehouse warehouseId => cases unnamed

end InventoryManagement.Catalog
