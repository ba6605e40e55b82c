import InventoryManagement.Models

/-! The payloads of `app.schemas.product` and `app.schemas.warehouse`, the columns of
their tables, and what the services do to either of them, indexed by the table. -/

set_option autoImplicit false

namespace InventoryManagement.Catalog

/-- What is assigned to the attributes of a loaded product: a column that is left out
is not assigned, and `some none` assigns null. -/
structure ProductChanges where
  sku : Option (Option String) := none
  name : Option (Option String) := none
  description : Option (Option String) := none
  price : Option (Option Int) := none
  isActive : Option (Option Bool) := none
deriving DecidableEq

structure WarehouseChanges where
  name : Option (Option String) := none
  code : Option (Option String) := none
  address : Option (Option String) := none
  isActive : Option (Option Bool) := none
deriving DecidableEq

/-! Payloads that passed validation. A price has at most two decimals, so it is a
number of hundredths; it has no upper bound. -/

structure ProductCreate where
  sku : String
  name : String
  description : Option String := none
  price : Int
  sku_length : 1 ≤ sku.length ∧ sku.length ≤ 50
  name_length : 1 ≤ name.length ∧ name.length ≤ 255
  description_length : ∀ text ∈ description, text.length ≤ 2000
  price_positive : 0 < price

structure ProductUpdate extends ProductChanges where
  sku_length : ∀ text, sku = some (some text) → 1 ≤ text.length ∧ text.length ≤ 50
  name_length : ∀ text, name = some (some text) → 1 ≤ text.length ∧ text.length ≤ 255
  description_length : ∀ text, description = some (some text) → text.length ≤ 2000
  price_positive : ∀ amount, price = some (some amount) → 0 < amount

structure WarehouseCreate where
  name : String
  code : String
  address : Option String := none
  name_length : 1 ≤ name.length ∧ name.length ≤ 255
  code_length : 1 ≤ code.length ∧ code.length ≤ 20
  address_length : ∀ text ∈ address, text.length ≤ 500

structure WarehouseUpdate extends WarehouseChanges where
  name_length : ∀ text, name = some (some text) → 1 ≤ text.length ∧ text.length ≤ 255
  code_length : ∀ text, code = some (some text) → 1 ≤ text.length ∧ text.length ≤ 20
  address_length : ∀ text, address = some (some text) → text.length ≤ 500

/-! Columns. -/

/-- A `String(limit)` column. -/
def Text.fits (limit : Nat) (text : String) : Bool :=
  decide (text.length ≤ limit) && Text.sendable text

/-- A `Numeric(12, 2)` column, in hundredths. -/
def Numeric.fits (amount : Int) : Bool := decide (-10 ^ 12 < amount) && decide (amount < 10 ^ 12)

section Columns

variable {Value : Type}

def inRange (fits : Value → Bool) (assigned : Option (Option Value)) : Bool :=
  assigned.all (fun value => value.all fits)

def notNull (assigned : Option (Option Value)) : Bool := assigned.all Option.isSome

/-- Assigning the value an attribute already has does not make it dirty. -/
def dirtyColumn [DecidableEq Value] (assigned : Option (Option Value)) (current : Option Value) :
    Option (Option Value) :=
  if assigned = some current then none else assigned

def assignColumn (assigned : Option (Option Value)) (current : Value) : Value :=
  (assigned.getD (some current)).getD current

end Columns

def ProductChanges.inRange (changes : ProductChanges) : Bool :=
  Catalog.inRange (Text.fits 50) changes.sku && Catalog.inRange (Text.fits 255) changes.name &&
    Catalog.inRange (Text.fits 2000) changes.description &&
    Catalog.inRange Numeric.fits changes.price

def ProductChanges.notNull (changes : ProductChanges) : Bool :=
  Catalog.notNull changes.sku && Catalog.notNull changes.name && Catalog.notNull changes.price &&
    Catalog.notNull changes.isActive

def WarehouseChanges.inRange (changes : WarehouseChanges) : Bool :=
  Catalog.inRange (Text.fits 255) changes.name && Catalog.inRange (Text.fits 20) changes.code &&
    Catalog.inRange (Text.fits 500) changes.address

def WarehouseChanges.notNull (changes : WarehouseChanges) : Bool :=
  Catalog.notNull changes.name && Catalog.notNull changes.code && Catalog.notNull changes.isActive

/-! The two tables. -/

inductive Resource where
  | product
  | warehouse
deriving DecidableEq

namespace Resource

@[reducible] def Row : Resource → Type
  | .product => Product
  | .warehouse => Warehouse

@[reducible] def Changes : Resource → Type
  | .product => ProductChanges
  | .warehouse => WarehouseChanges

def model : Resource → String
  | .product => "Product"
  | .warehouse => "Warehouse"

def id : (resource : Resource) → resource.Row → UUID
  | .product => Product.id
  | .warehouse => Warehouse.id

/-- The natural key: the SKU of a product, the code of a warehouse. -/
def key : (resource : Resource) → resource.Row → String
  | .product => Product.sku
  | .warehouse => Warehouse.code

def keyConflict : Resource → String → Exception
  | .product, sku => .conflictError s!"Product with SKU '{sku}' already exists."
  | .warehouse, code => .conflictError s!"Warehouse with code '{code}' already exists."

/-- `updates.get("sku")` or `updates.get("code")`: missing and null keys are both `None`. -/
def newKey : (resource : Resource) → resource.Changes → Option String
  | .product, changes => changes.sku.join
  | .warehouse, changes => changes.code.join

def inRange : (resource : Resource) → resource.Changes → Bool
  | .product => ProductChanges.inRange
  | .warehouse => WarehouseChanges.inRange

def notNull : (resource : Resource) → resource.Changes → Bool
  | .product => ProductChanges.notNull
  | .warehouse => WarehouseChanges.notNull

/-- What the columns themselves reject: a value out of range, or a missing one. -/
def violation? (resource : Resource) (changes : resource.Changes) : Option Exception :=
  if ¬ resource.inRange changes then some .dataError
  else if ¬ resource.notNull changes then some .integrityError
  else none

def dirty : (resource : Resource) → resource.Changes → resource.Row → resource.Changes
  | .product, changes, row => {
      sku := dirtyColumn changes.sku (some row.sku)
      name := dirtyColumn changes.name (some row.name)
      description := dirtyColumn changes.description row.description
      price := dirtyColumn changes.price (some row.price)
      isActive := dirtyColumn changes.isActive (some row.isActive) }
  | .warehouse, changes, row => {
      name := dirtyColumn changes.name (some row.name)
      code := dirtyColumn changes.code (some row.code)
      address := dirtyColumn changes.address row.address
      isActive := dirtyColumn changes.isActive (some row.isActive) }

/-- No attribute is dirty, so nothing is flushed. -/
def unchanged : (resource : Resource) → resource.Changes → Bool
  | .product, changes => decide (changes = {})
  | .warehouse, changes => decide (changes = {})

/-- The row after `UPDATE ... SET` of columns that accept their values. -/
def apply : (resource : Resource) → resource.Changes → resource.Row → resource.Row
  | .product, changes, row => {
      id := row.id
      sku := assignColumn changes.sku row.sku
      name := assignColumn changes.name row.name
      description := changes.description.getD row.description
      price := assignColumn changes.price row.price
      isActive := assignColumn changes.isActive row.isActive }
  | .warehouse, changes, row => {
      id := row.id
      name := assignColumn changes.name row.name
      code := assignColumn changes.code row.code
      address := changes.address.getD row.address
      isActive := assignColumn changes.isActive row.isActive }

/-- The columns of a row that is inserted, all of them assigned. -/
def columns : (resource : Resource) → resource.Row → resource.Changes
  | .product, row => {
      sku := some (some row.sku)
      name := some (some row.name)
      description := some row.description
      price := some (some row.price)
      isActive := some (some row.isActive) }
  | .warehouse, row => {
      name := some (some row.name)
      code := some (some row.code)
      address := some row.address
      isActive := some (some row.isActive) }

def deactivation : (resource : Resource) → resource.Changes
  | .product => { isActive := some (some false) }
  | .warehouse => { isActive := some (some false) }

@[simp] theorem id_apply (resource : Resource) (changes : resource.Changes) (row : resource.Row) :
    resource.id (resource.apply changes row) = resource.id row := by
  cases resource <;> rfl

end Resource

end InventoryManagement.Catalog
