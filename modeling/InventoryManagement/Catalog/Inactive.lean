import InventoryManagement.Catalog.Services
import InventoryManagement.Services.Atomicity

/-! Catalog calls and movements served one after another. No statement of a movement reads
`is_active`, so inactive products and warehouses take movements like active ones. -/

set_option autoImplicit false

namespace InventoryManagement

open Interleaving (Program)

/-- The tables that the catalog calls work on. -/
def Tables.catalog (tables : Tables) : Catalog.Store where
  products := tables.products
  warehouses := tables.warehouses

def World.withCatalog (world : World) (store : Catalog.Store) : World :=
  { world with tables := { world.tables with
      products := store.products
      warehouses := store.warehouses } }

/-- A call in a session of its own, with what its environment chooses. -/
inductive Operation where
  | catalog (call : Catalog.Call) (answers : Nat → Catalog.Answer)
  | movement (data : MovementCreate) (performedBy : Option UUID) (answers : Nat → Answer)

def Operation.perform (settings : Settings) (world : World) : Operation → World
  | .catalog call answers =>
      world.withCatalog
        (call.program.run Catalog.environment answers 0 world.tables.catalog {}).shared
  | .movement data performedBy answers =>
      (runAlone answers world (recordMovement settings data performedBy)).shared

def performAll (settings : Settings) (world : World) (operations : List Operation) : World :=
  operations.foldl (Operation.perform settings) world

/-- The movement's product, or one of its warehouses, is stored and inactive. -/
def MovementPayload.namesInactive (data : MovementPayload) (tables : Tables) : Bool :=
  (tables.product? data.productId).any (fun product => !product.isActive) ||
    [data.sourceWarehouseId, data.destinationWarehouseId].any (fun id =>
      (id.bind tables.warehouse?).any (fun warehouse => !warehouse.isActive))

/-- The call is rejected as one that targets an inactive resource, and leaves no trace. -/
structure RejectedInactive (settings : Settings) (world : World) (data : MovementCreate)
    (performedBy : Option UUID) (answers : Nat → Answer) : Prop where
  outcome : ∃ message, (runAlone answers world (recordMovement settings data performedBy)).outcome =
    some (.error (.inactiveResourceError message))
  inventories : (runAlone answers world
    (recordMovement settings data performedBy)).shared.tables.inventories = world.tables.inventories
  movements : (runAlone answers world
    (recordMovement settings data performedBy)).shared.tables.movements = world.tables.movements
  alerts : (runAlone answers world
    (recordMovement settings data performedBy)).shared.tables.alerts = world.tables.alerts

/-- Every movement call of the run that names an inactive resource when it is made is
rejected for it. -/
def EnforcesActivity (settings : Settings) (world : World) (operations : List Operation) : Prop :=
  ∀ earlier data performedBy answers later,
    operations = earlier ++ .movement data performedBy answers :: later →
    data.namesInactive (performAll settings world earlier).tables = true →
    RejectedInactive settings (performAll settings world earlier) data performedBy answers

def NamesOnlyActive (settings : Settings) (world : World) (operations : List Operation) : Prop :=
  ∀ earlier data performedBy answers later,
    operations = earlier ++ .movement data performedBy answers :: later →
    data.namesInactive (performAll settings world earlier).tables = false

/-! `InactiveResourceError` is raised nowhere. -/

def Exception.isInactiveResource : Exception → Bool
  | .inactiveResourceError _ => true
  | _ => false

abbrev IgnoresActivity {Value : Type} (program : Transaction Value) : Prop :=
  program.Throws (fun error => error.isInactiveResource = false)

section Programs

theorem send_ignoresActivity (statement : Statement) : IgnoresActivity (send statement) :=
  fun _ => trivial

theorem scalarOneOrNone_ignoresActivity {Row : Type} (rows : List Row) :
    IgnoresActivity (scalarOneOrNone rows) := by
  match rows with
  | [] => trivial
  | [row] => trivial
  | _ :: _ :: _ => rfl

theorem getByIdOrRaise_ignoresActivity {Entity : Type} (model id : String)
    (entity : Option Entity) : IgnoresActivity (getByIdOrRaise model id entity) := by
  cases entity with
  | none => rfl
  | some entity => trivial

theorem locked_ignoresActivity {Value : Type} {productId warehouseId : UUID}
    {next : Option Inventory → Transaction Value} (rest : ∀ found, IgnoresActivity (next found)) :
    IgnoresActivity ((getWarehouseByIdOrRaise warehouseId).bind fun _ =>
      (getByProductAndWarehouseForUpdate productId warehouseId).bind next) := by
  apply Program.Throws.bind
  · exact fun entity => getByIdOrRaise_ignoresActivity _ _ entity
  · intro _
    apply Program.Throws.bind
    · exact fun rows => scalarOneOrNone_ignoresActivity rows
    · exact rest

theorem increaseStock_ignoresActivity (productId warehouseId : UUID) (quantity : Int) :
    IgnoresActivity (increaseStock productId warehouseId quantity) := by
  apply locked_ignoresActivity
  intro found
  cases found with
  | none => exact fun _ _ => trivial
  | some row => exact fun _ => trivial

theorem decreaseStock_ignoresActivity (productId warehouseId : UUID) (quantity : Int) :
    IgnoresActivity (decreaseStock productId warehouseId quantity) := by
  apply locked_ignoresActivity
  intro found
  cases found with
  | none => rfl
  | some row =>
      by_cases short : row.quantity < quantity
      · simp only [short, if_true]
        rfl
      · simp only [short, if_false]
        exact fun _ => trivial

theorem transferStock_ignoresActivity (productId sourceId destinationId : UUID) (quantity : Int) :
    IgnoresActivity (transferStock productId sourceId destinationId quantity) := by
  unfold transferStock
  split
  · exact (decreaseStock_ignoresActivity _ _ _).bind (fun _ =>
      (increaseStock_ignoresActivity _ _ _).bind (fun _ => trivial))
  · exact (increaseStock_ignoresActivity _ _ _).bind (fun _ =>
      (decreaseStock_ignoresActivity _ _ _).bind (fun _ => trivial))

theorem applyMovement_ignoresActivity (data : MovementCreate) :
    IgnoresActivity (applyMovement data) := by
  unfold applyMovement
  split
  · exact (increaseStock_ignoresActivity _ _ _).bind (fun _ => trivial)
  · exact (decreaseStock_ignoresActivity _ _ _).bind (fun _ => trivial)
  · exact (transferStock_ignoresActivity _ _ _ _).bind (fun _ => trivial)
  · rfl

theorem evaluateStockLevel_ignoresActivity (settings : Settings) (inventory : Inventory) :
    IgnoresActivity (evaluateStockLevel settings inventory) := by
  obtain ⟨next, evaluates, reconciles⟩ := evaluateStockLevel_cases settings inventory
  rw [evaluates]
  apply Program.Throws.bind
  · exact fun rows => scalarOneOrNone_ignoresActivity rows
  intro existing
  have reacts : ∀ alert, IgnoresActivity ((reactToAlert alert).bind fun _ => .ret (some alert)) :=
    fun alert => (reactToAlert_throws alert).bind (fun _ => trivial)
  have branch := reconciles existing
  generalize next existing = program at branch ⊢
  cases branch with
  | rest | keep => trivial
  | resolve => exact fun _ _ _ => trivial
  | retype => exact fun _ refreshed => reacts refreshed
  | raise => exact fun alert _ => reacts alert

theorem evaluateAffected_ignoresActivity (settings : Settings) (affected : List Inventory) :
    IgnoresActivity (evaluateAffected settings affected) := by
  induction affected with
  | nil => trivial
  | cons inventory rest ih => exact (evaluateStockLevel_ignoresActivity _ _).bind (fun _ => ih)

theorem announceMovement_ignoresActivity (settings : Settings) (data : MovementCreate)
    (affected : List Inventory) : IgnoresActivity (announceMovement settings data affected) := by
  apply (evaluateAffected_ignoresActivity settings affected).bind
  intro _
  obtain ⟨event, built⟩ := buildMovementEvent_returns data affected
  simp only [built, Program.bind_eq, Program.ret_bind]
  exact publish_throws event

theorem recordMovement_ignoresActivity (settings : Settings) (data : MovementCreate)
    (performedBy : Option UUID) : IgnoresActivity (recordMovement settings data performedBy) := by
  apply Program.Throws.bind
  · exact fun entity => getByIdOrRaise_ignoresActivity _ _ entity
  intro _
  apply (applyMovement_ignoresActivity data).bind
  intro affected
  apply (send_ignoresActivity _).bind
  intro movement
  apply (send_ignoresActivity _).bind
  intro _
  apply (announceMovement_ignoresActivity settings data affected).bind
  intro _
  trivial

end Programs

theorem execute_ignoresActivity {statement : Statement} {answer : Answer} {others : List Session}
    {world : World} {session : Session} {error : Exception}
    (raised : execute statement answer others world session = .raise error) :
    error.isInactiveResource = false := by
  unfold execute at raised
  split at raised
  · cases raised
    rfl
  · cases statement <;> simp only [respond, selectInventoryForUpdate, insertInventory,
      updateInventory, insertMovement, commit, selectActiveAlerts, insertAlert, refreshAlert,
      selectInventories, dispatch, gather, delay] at raised
    all_goals (repeat' split at raised) <;> cases raised <;> rfl

theorem not_rejectedInactive {settings : Settings} {world : World} {data : MovementCreate}
    {performedBy : Option UUID} {answers : Nat → Answer} :
    ¬ RejectedInactive settings world data performedBy answers := by
  intro rejected
  obtain ⟨message, ended⟩ := rejected.outcome
  have other := (recordMovement_ignoresActivity settings data performedBy).run environment answers 0
    (fun _ _ _ _ _ raised => execute_ignoresActivity raised) ended
  cases other

/-- The rule holds in exactly the runs in which it never has to be applied. -/
theorem activity_enforced_iff (settings : Settings) (world : World)
    (operations : List Operation) :
    EnforcesActivity settings world operations ↔ NamesOnlyActive settings world operations := by
  constructor
  · intro enforces earlier data performedBy answers later split
    cases named : data.namesInactive (performAll settings world earlier).tables with
    | false => rfl
    | true => exact absurd (enforces _ _ _ _ _ split named) not_rejectedInactive
  · intro only earlier data performedBy answers later split named
    have active := only _ _ _ _ _ split
    rw [named] at active
    cases active

/-- The main warehouse is deactivated, and then receives three units. -/
def Sample.closedWarehouse : List Operation :=
  [.catalog (.deactivateWarehouse Sample.main.id) (fun _ => {}),
    .movement Sample.receive3 none (fun _ => {})]

theorem inactive_warehouse_takes_receipt :
    ¬ EnforcesActivity {} Sample.world Sample.closedWarehouse := by
  intro enforces
  have closed : (Sample.receive Sample.main 3 (by decide)).namesInactive
      (performAll {} Sample.world (Sample.closedWarehouse.take 1)).tables = true := by
    decide +kernel
  have rejected := enforces _ _ _ _ [] rfl closed
  have recorded : (performAll {} Sample.world Sample.closedWarehouse).tables.movements ≠ [] := by
    decide +kernel
  exact recorded rejected.movements

end InventoryManagement
