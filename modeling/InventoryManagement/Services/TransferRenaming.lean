import InventoryManagement.Services.TransferOrder
import Mathlib.Data.Prod.Basic
import Mathlib.Logic.Equiv.Basic

/-! A transfer under other warehouse ids. Nothing but the order of its legs reads them. -/

set_option autoImplicit false

namespace InventoryManagement

open Interleaving (Completion Program)

variable {answers others : Nat → Answer} {world : World} {mapping : UUID → UUID}
variable {productId sourceId destinationId : UUID}

/-! Other names for the warehouses. -/

def Warehouse.rename (mapping : UUID → UUID) (warehouse : Warehouse) : Warehouse :=
  { warehouse with id := mapping warehouse.id }

def Inventory.rename (mapping : UUID → UUID) (inventory : Inventory) : Inventory :=
  { inventory with warehouseId := mapping inventory.warehouseId }

def Movement.rename (mapping : UUID → UUID) (movement : Movement) : Movement :=
  { movement with
    sourceWarehouseId := movement.sourceWarehouseId.map mapping
    destinationWarehouseId := movement.destinationWarehouseId.map mapping }

def Alert.rename (mapping : UUID → UUID) (alert : Alert) : Alert :=
  { alert with warehouseId := mapping alert.warehouseId }

def MovementPayload.rename (mapping : UUID → UUID) (data : MovementPayload) : MovementPayload :=
  { data with
    sourceWarehouseId := data.sourceWarehouseId.map mapping
    destinationWarehouseId := data.destinationWarehouseId.map mapping }

def Tables.rename (mapping : UUID → UUID) (tables : Tables) : Tables where
  products := tables.products
  warehouses := tables.warehouses.map (Warehouse.rename mapping)
  inventories := tables.inventories.map (Inventory.rename mapping)
  movements := tables.movements.map (Movement.rename mapping)
  alerts := tables.alerts.map (Alert.rename mapping)

def World.rename (mapping : UUID → UUID) (world : World) : World :=
  { world with tables := world.tables.rename mapping }

section Tables

variable {tables : Tables} (injective : Function.Injective mapping)
include injective

theorem hasWarehouse_rename (id : UUID) :
    (tables.rename mapping).hasWarehouse (mapping id) = tables.hasWarehouse id := by
  have sought : ((fun warehouse : Warehouse => decide (warehouse.id = mapping id)) ∘
      Warehouse.rename mapping) = fun warehouse => decide (warehouse.id = id) := by
    funext warehouse
    simp [Warehouse.rename, injective.eq_iff]
  rw [Tables.hasWarehouse, Tables.warehouse?, Tables.rename, List.find?_map, Option.isSome_map,
    sought]
  rfl

theorem hasPair_rename (pair : Pair) :
    (tables.rename mapping).hasPair (pair.1, mapping pair.2) = tables.hasPair pair := by
  rw [Tables.hasPair, hasWarehouse_rename injective, Tables.hasPair]
  rfl

theorem inventoriesOf_rename (productId warehouseId : UUID) :
    (tables.rename mapping).inventoriesOf (productId, mapping warehouseId) =
      (tables.inventoriesOf (productId, warehouseId)).map (Inventory.rename mapping) := by
  have sought : ((fun row : Inventory => decide (row.pair = (productId, mapping warehouseId))) ∘
      Inventory.rename mapping) = fun row => decide (row.pair = (productId, warehouseId)) := by
    funext row
    simp only [Function.comp_apply, Inventory.rename, Inventory.pair, Prod.mk.injEq,
      injective.eq_iff]
  rw [Tables.inventoriesOf, Tables.rename, List.filter_map, sought, Tables.inventoriesOf]

theorem refers_rename (movement : Movement) :
    (movement.rename mapping).refers (tables.rename mapping) = movement.refers tables := by
  have known : ∀ warehouse : Option UUID,
      (warehouse.map mapping).all (tables.rename mapping).hasWarehouse =
        warehouse.all tables.hasWarehouse := by
    intro warehouse
    cases warehouse with
    | none => rfl
    | some id => exact hasWarehouse_rename injective id
  simp only [MovementValues.refers, Movement.rename, known]
  rfl

theorem World.Valid.rename {world : World} (valid : world.Valid) : (world.rename mapping).Valid where
  products_unique := valid.products_unique
  warehouses_unique := by
    have ids : (world.tables.warehouses.map (Warehouse.rename mapping)).map (·.id) =
        (world.tables.warehouses.map (·.id)).map mapping := by
      rw [List.map_map, List.map_map]
      rfl
    exact ids ▸ valid.warehouses_unique.map injective
  inventories_unique := by
    have pairs : (world.tables.inventories.map (Inventory.rename mapping)).map Inventory.pair =
        (world.tables.inventories.map Inventory.pair).map (Prod.map id mapping) := by
      rw [List.map_map, List.map_map]
      rfl
    exact pairs ▸ valid.inventories_unique.map (Function.injective_id.prodMap injective)
  inventories_refer := by
    intro row stored
    obtain ⟨row, kept, rfl⟩ := List.mem_map.mp stored
    exact (hasPair_rename injective row.pair).trans (valid.inventories_refer row kept)
  inventories_fit := by
    intro row stored
    obtain ⟨row, kept, rfl⟩ := List.mem_map.mp stored
    have fits := valid.inventories_fit row kept
    exact ⟨fits.quantity, fits.lowStockThreshold⟩
  movements_refer := by
    intro movement stored
    obtain ⟨movement, kept, rfl⟩ := List.mem_map.mp stored
    exact (refers_rename injective movement).trans (valid.movements_refer movement kept)
  reasons_sendable := by
    intro movement stored
    obtain ⟨movement, kept, rfl⟩ := List.mem_map.mp stored
    exact valid.reasons_sendable movement kept
  alerts_unique := by
    have ids : (world.tables.alerts.map (Alert.rename mapping)).map (·.id) =
        world.tables.alerts.map (·.id) := by
      rw [List.map_map]
      rfl
    exact ids ▸ valid.alerts_unique
  alerts_fresh := by
    intro alert stored
    obtain ⟨alert, kept, rfl⟩ := List.mem_map.mp stored
    exact valid.alerts_fresh alert kept
  alerts_refer := by
    intro alert stored
    obtain ⟨alert, kept, rfl⟩ := List.mem_map.mp stored
    exact (hasPair_rename injective alert.pair).trans (valid.alerts_refer alert kept)

theorem removed_rename (productId warehouseId : UUID) (quantity : Int) :
    (tables.rename mapping).removed (productId, mapping warehouseId) quantity =
      (tables.removed (productId, warehouseId) quantity).map (Inventory.rename mapping) := by
  simp only [Tables.removed, hasWarehouse_rename injective, inventoriesOf_rename injective]
  cases tables.hasWarehouse warehouseId with
  | false => rfl
  | true =>
      cases tables.inventoriesOf (productId, warehouseId) with
      | nil => rfl
      | cons row rest =>
          by_cases short : row.quantity < quantity
          · simp only [List.map_cons, Inventory.rename, short, if_true]
            rfl
          · simp only [List.map_cons, Inventory.rename, short, if_true, if_false]
            rfl

theorem added_rename (productId warehouseId : UUID) (quantity : Int) :
    (tables.rename mapping).added (productId, mapping warehouseId) quantity =
      (tables.added (productId, warehouseId) quantity).map (Inventory.rename mapping) := by
  have base : (tables.rename mapping).rowOrNew (productId, mapping warehouseId) =
      (tables.rowOrNew (productId, warehouseId)).rename mapping := by
    simp only [Tables.rowOrNew, inventoriesOf_rename injective]
    cases tables.inventoriesOf (productId, warehouseId) <;> rfl
  simp only [Tables.added, hasWarehouse_rename injective, base, Inventory.rename]
  cases tables.hasWarehouse warehouseId with
  | false => rfl
  | true =>
      cases Integer.fits ((tables.rowOrNew (productId, warehouseId)).quantity + quantity) <;> rfl

theorem quantity_rename (productId warehouseId : UUID) :
    (tables.rename mapping).quantity (productId, mapping warehouseId) =
      tables.quantity (productId, warehouseId) := by
  rw [Tables.quantity, inventoriesOf_rename injective, List.map_map, Tables.quantity]
  rfl

end Tables

/-- What a transfer comes to, the lock order included. -/
def Tables.transferred (tables : Tables) (productId sourceId destinationId : UUID)
    (quantity : Int) : Except ExceptionClass (Inventory × Inventory) :=
  if (sortedByStr sourceId destinationId).1 = sourceId then
    inOrder Prod.mk (tables.removed (productId, sourceId) quantity)
      (tables.added (productId, destinationId) quantity)
  else
    inOrder (fun destination source => (source, destination))
      (tables.added (productId, destinationId) quantity)
      (tables.removed (productId, sourceId) quantity)

theorem transferred_ok {quantity : Int} {rows : Inventory × Inventory} (valid : world.Valid)
    (returned : world.tables.transferred productId sourceId destinationId quantity = .ok rows) :
    world.tables.Ships (productId, sourceId) quantity ∧
      world.tables.hasWarehouse destinationId = true ∧
      Integer.fits (world.tables.quantity (productId, destinationId) + quantity) = true := by
  obtain ⟨source, destination, removed, added⟩ : ∃ source destination,
      world.tables.removed (productId, sourceId) quantity = .ok source ∧
        world.tables.added (productId, destinationId) quantity = .ok destination := by
    unfold Tables.transferred at returned
    split at returned
    · obtain ⟨source, destination, removed, added, _⟩ := inOrder_ok_iff.mp returned
      exact ⟨source, destination, removed, added⟩
    · obtain ⟨destination, source, added, removed, _⟩ := inOrder_ok_iff.mp returned
      exact ⟨source, destination, removed, added⟩
  have ships : world.tables.Ships (productId, sourceId) quantity := by
    rcases removed_cases (productId, sourceId) quantity valid with ⟨ships, _⟩ | ⟨_, type, failed, _⟩
    · exact ships
    · rw [failed] at removed
      cases removed
  have present : world.tables.hasWarehouse destinationId = true := by
    by_contra missing
    rw [(added_error_iff valid).mpr (.inl ⟨rfl, by simpa using missing⟩)] at added
    cases added
  refine ⟨ships, present, ?_⟩
  by_contra overflow
  rw [(added_error_iff valid).mpr (.inr ⟨rfl, present, by simpa using overflow⟩)] at added
  cases added

theorem possible_of_transferred {data : MovementCreate} (valid : world.Valid) {rows : Inventory × Inventory}
    (source : data.sourceWarehouseId = some sourceId)
    (destination : data.destinationWarehouseId = some destinationId)
    (product : world.tables.hasProduct data.productId = true)
    (returned : world.tables.transferred data.productId sourceId destinationId data.quantity =
      .ok rows) : data.Possible world.tables ∧ data.InRange world.tables := by
  obtain ⟨ships, present, fits⟩ := transferred_ok valid returned
  obtain ⟨warehouse, row, stored, here, enough⟩ := ships
  refine ⟨⟨product, ?_, ?_⟩, ?_, by simpa [destination] using fits⟩
  · simpa [source, destination, or_imp, forall_and] using ⟨warehouse, present⟩
  · simpa [source] using ⟨row, stored, here, enough⟩
  · have range := (valid.inventories_fit row stored).quantity
    have positive := data.quantity_positive
    simp only [Integer.fits, Bool.and_eq_true, decide_eq_true_eq] at range ⊢
    omega

section Recorded

variable (settings : Settings) (performedBy : Option UUID)
variable (healthy : ∀ n, (answers n).fails = false)
include healthy

theorem transferStock_comesTo {quantity : Int} (valid : world.Valid) (positive : 0 < quantity)
    (product : world.tables.hasProduct productId = true) (different : sourceId ≠ destinationId) :
    TransferComesTo answers world (productId, sourceId) (productId, destinationId)
      (transferStock productId sourceId destinationId quantity)
      (world.tables.transferred productId sourceId destinationId quantity) := by
  rw [transferStock_eq, Tables.transferred]
  split
  · exact sourceFirst_comesTo healthy valid positive product different
  · exact destinationFirst_comesTo healthy valid positive product different

variable {data : MovementCreate}

theorem transfer_raises (valid : world.Valid) {type : ExceptionClass}
    (transfer : data.movementType = .TRANSFER) (source : data.sourceWarehouseId = some sourceId)
    (destination : data.destinationWarehouseId = some destinationId)
    (different : sourceId ≠ destinationId)
    (product : world.tables.hasProduct data.productId = true)
    (failed : world.tables.transferred data.productId sourceId destinationId data.quantity =
      .error type) :
    let done := runAlone answers world (recordMovement settings data performedBy)
    (∃ error, done.outcome = some (.error error) ∧ error.type = type) ∧
      done.session.commits = 0 ∧ world.Untouched done.shared := by
  have raises := transferStock_comesTo healthy valid data.quantity_positive product different
  rw [failed] at raises
  apply recordMovement_raises valid settings
  apply prepareMovement_raises healthy product
  simp only [applyMovement, transfer, source, destination]
  apply Program.Raises.bind
  intro elapsed
  obtain ⟨error, after, updated, later, ran, same, _⟩ := raises elapsed
  exact ⟨error, after, updated, later, ran, same⟩

theorem transfer_commits (valid : world.Valid) (possible : data.Possible world.tables)
    (storable : data.Storable world.tables) :
    data.Recorded performedBy world.tables
        (runAlone answers world (recordMovement settings data performedBy)).shared.tables ∧
      0 < (runAlone answers world (recordMovement settings data performedBy)).session.commits := by
  have recorded := recordMovement_possible valid healthy settings data performedBy possible storable
  refine ⟨recorded, Nat.pos_of_ne_zero fun nothing => ?_⟩
  have untouched := recordMovement_traceless valid settings answers data performedBy nothing
  exact MovementCreate.not_recorded untouched.tables recorded

end Recorded

theorem errorOf_transferred (tables : Tables) (productId sourceId destinationId : UUID)
    (quantity : Int) :
    errorOf (tables.transferred productId sourceId destinationId quantity) =
      if (sortedByStr sourceId destinationId).1 = sourceId then
        (errorOf (tables.removed (productId, sourceId) quantity)).or
          (errorOf (tables.added (productId, destinationId) quantity))
      else
        (errorOf (tables.added (productId, destinationId) quantity)).or
          (errorOf (tables.removed (productId, sourceId) quantity)) := by
  unfold Tables.transferred
  split <;> exact errorOf_inOrder _ _ _

theorem errors_mapped (injective : Function.Injective mapping) (productId sourceId destinationId : UUID)
    (quantity : Int) :
    errorOf ((world.rename mapping).tables.transferred productId (mapping sourceId) (mapping destinationId) quantity) =
      if (sortedByStr (mapping sourceId) (mapping destinationId)).1 = mapping sourceId then
        (errorOf (world.tables.removed (productId, sourceId) quantity)).or
          (errorOf (world.tables.added (productId, destinationId) quantity))
      else
        (errorOf (world.tables.added (productId, destinationId) quantity)).or
          (errorOf (world.tables.removed (productId, sourceId) quantity)) := by
  rw [errorOf_transferred, World.rename, removed_rename injective, added_rename injective, errorOf_map,
    errorOf_map]

/-- Which exception a transfer raises may depend on the order of its legs; whether it
raises one does not. -/
theorem transferred_ok_mapped (injective : Function.Injective mapping)
    (productId sourceId destinationId : UUID) (quantity : Int) :
    errorOf ((world.rename mapping).tables.transferred productId (mapping sourceId)
        (mapping destinationId) quantity) = none ↔
      errorOf (world.tables.transferred productId sourceId destinationId quantity) = none := by
  rw [errors_mapped injective, errorOf_transferred]
  split <;> split <;> simp only [Option.or_eq_none_iff, and_comm]

/-- Both requests commit, and the stock agrees under the mapping; or both raise exceptions
of the same class and leave no trace. -/
inductive RecordedAlike (mapping : UUID → UUID) (data renamed : MovementCreate)
    (performedBy : Option UUID) (world : World)
    (left right : Completion World Session Exception Movement) : Prop where
  | both_commit (commits : 0 < left.session.commits) (commitsToo : 0 < right.session.commits)
      (recorded : data.Recorded performedBy world.tables left.shared.tables)
      (recordedToo : renamed.Recorded performedBy (world.rename mapping).tables right.shared.tables)
      (stock : ∀ productId warehouseId,
        right.shared.tables.quantity (productId, mapping warehouseId) =
          left.shared.tables.quantity (productId, warehouseId))
  | both_raise (error last : Exception) (raised : left.outcome = some (.error error))
      (raisedToo : right.outcome = some (.error last)) (class_eq : error.type = last.type)
      (uncommitted : left.session.commits = 0) (uncommittedToo : right.session.commits = 0)
      (untouched : world.Untouched left.shared)
      (untouchedToo : (world.rename mapping).Untouched right.shared)

section Renamed

variable {settings : Settings} {data renamed : MovementCreate} {performedBy : Option UUID}

theorem stock_rename (injective : Function.Injective mapping) {left right : Tables}
    (same : renamed.toMovementPayload = data.toMovementPayload.rename mapping)
    (recorded : data.Recorded performedBy world.tables left)
    (recordedToo : renamed.Recorded performedBy (world.rename mapping).tables right) (productId warehouseId : UUID) :
    right.quantity (productId, mapping warehouseId) = left.quantity (productId, warehouseId) := by
  obtain ⟨movement, values, _, quantity⟩ := recorded
  obtain ⟨movementToo, valuesToo, _, quantityToo⟩ := recordedToo
  have named : ∀ warehouse : Option UUID,
      warehouse.map mapping = some (mapping warehouseId) ↔ warehouse = some warehouseId := by
    intro warehouse
    cases warehouse <;> simp [injective.eq_iff]
  have product : renamed.productId = data.productId := by rw [same, MovementPayload.rename]
  have amount : renamed.quantity = data.quantity := by rw [same, MovementPayload.rename]
  have source : renamed.sourceWarehouseId = data.sourceWarehouseId.map mapping :=
    congrArg MovementPayload.sourceWarehouseId same
  have destination : renamed.destinationWarehouseId = data.destinationWarehouseId.map mapping :=
    congrArg MovementPayload.destinationWarehouseId same
  rw [quantity, quantityToo, World.rename, quantity_rename injective, values, valuesToo]
  simp only [MovementValues.change, MovementCreate.values, product, amount, source, destination,
    named]
  congr!

theorem unsendable_raises (valid : world.Valid) (healthy : ∀ n, (answers n).fails = false)
    (possible : data.Possible world.tables) (inRange : data.InRange world.tables)
    (unsendable : data.reason.all Text.sendable = false) :
    let done := runAlone answers world (recordMovement settings data performedBy)
    done.outcome = some (.error .dataError) ∧ done.session.commits = 0 ∧
      world.Untouched done.shared := by
  obtain ⟨⟨error, raised, rfl⟩, rest⟩ := recordMovement_raises valid settings
    (prepareMovement_unsendable healthy valid performedBy possible inRange unsendable)
  exact ⟨raised, rest⟩

/-- A transfer's outcome follows the mapping as far as the class of its exception does. A
reason that the database refuses is refused under either name. -/
theorem recordedAlike_iff (injective : Function.Injective mapping) (valid : world.Valid)
    (healthy : ∀ n, (answers n).fails = false)
    (healthyToo : ∀ n, (others n).fails = false)
    (same : renamed.toMovementPayload = data.toMovementPayload.rename mapping)
    (transfer : data.movementType = .TRANSFER) (source : data.sourceWarehouseId = some sourceId)
    (destination : data.destinationWarehouseId = some destinationId)
    (different : sourceId ≠ destinationId)
    (product : world.tables.hasProduct data.productId = true) :
    RecordedAlike mapping data renamed performedBy world
        (runAlone answers world (recordMovement settings data performedBy))
        (runAlone others (world.rename mapping) (recordMovement settings renamed performedBy)) ↔
      errorOf (world.tables.transferred data.productId sourceId destinationId data.quantity) =
        errorOf ((world.rename mapping).tables.transferred renamed.productId (mapping sourceId)
          (mapping destinationId) renamed.quantity) := by
  have transferToo : renamed.movementType = .TRANSFER :=
    (congrArg MovementPayload.movementType same).trans transfer
  have sourceToo : renamed.sourceWarehouseId = some (mapping sourceId) := by
    rw [congrArg MovementPayload.sourceWarehouseId same, MovementPayload.rename, source]
    rfl
  have destinationToo : renamed.destinationWarehouseId = some (mapping destinationId) := by
    rw [congrArg MovementPayload.destinationWarehouseId same, MovementPayload.rename, destination]
    rfl
  have differentToo : mapping sourceId ≠ mapping destinationId := injective.ne different
  have validToo := valid.rename injective
  have productToo : (world.rename mapping).tables.hasProduct renamed.productId = true := by
    rw [congrArg MovementPayload.productId same]
    exact product
  have reasonToo : renamed.reason = data.reason := by
    rw [congrArg MovementPayload.reason same]
    rfl
  have mapped : errorOf ((world.rename mapping).tables.transferred renamed.productId
      (mapping sourceId) (mapping destinationId) renamed.quantity) = none ↔
        errorOf (world.tables.transferred data.productId sourceId destinationId data.quantity) =
          none := by
    rw [congrArg MovementPayload.productId same, congrArg MovementPayload.quantity same]
    exact transferred_ok_mapped injective _ _ _ _
  cases result : world.tables.transferred data.productId sourceId destinationId data.quantity with
  | ok rows =>
      cases expected : (world.rename mapping).tables.transferred renamed.productId
          (mapping sourceId) (mapping destinationId) renamed.quantity with
      | error type =>
          rw [result, expected] at mapped
          cases mapped.mpr rfl
      | ok rowsToo =>
          obtain ⟨possible, inRange⟩ := possible_of_transferred valid source destination product
            result
          obtain ⟨possibleToo, inRangeToo⟩ := possible_of_transferred validToo sourceToo
            destinationToo productToo expected
          refine iff_of_true ?_ rfl
          cases sendable : data.reason.all Text.sendable with
          | true =>
              obtain ⟨recorded, commits⟩ := transfer_commits settings performedBy healthy valid
                possible ⟨inRange, sendable⟩
              obtain ⟨recordedToo, commitsToo⟩ := transfer_commits settings performedBy healthyToo
                validToo possibleToo ⟨inRangeToo, reasonToo ▸ sendable⟩
              exact .both_commit commits commitsToo recorded recordedToo
                (stock_rename injective same recorded recordedToo)
          | false =>
              obtain ⟨raised, uncommitted, untouched⟩ :=
                unsendable_raises valid healthy possible inRange sendable
              obtain ⟨raisedToo, uncommittedToo, untouchedToo⟩ :=
                unsendable_raises validToo healthyToo possibleToo inRangeToo (reasonToo ▸ sendable)
              exact .both_raise .dataError .dataError raised raisedToo rfl uncommitted
                uncommittedToo untouched untouchedToo
  | error type =>
      cases expected : (world.rename mapping).tables.transferred renamed.productId
          (mapping sourceId) (mapping destinationId) renamed.quantity with
      | ok rowsToo =>
          rw [result, expected] at mapped
          cases mapped.mp rfl
      | error typeToo =>
          obtain ⟨⟨error, raised, kind⟩, uncommitted, untouched⟩ := transfer_raises settings
            performedBy healthy valid transfer source destination different product result
          obtain ⟨⟨errorToo, raisedToo, kindToo⟩, uncommittedToo, untouchedToo⟩ :=
            transfer_raises settings performedBy healthyToo validToo transferToo sourceToo
              destinationToo differentToo productToo expected
          rw [errorOf, errorOf, Option.some.injEq]
          constructor
          · intro alike
            cases alike with
            | both_commit commits => omega
            | both_raise _ _ raised' raisedToo' class_eq =>
                rw [raised] at raised'
                rw [raisedToo] at raisedToo'
                cases raised'
                cases raisedToo'
                rw [← kind, ← kindToo, class_eq]
          · intro agree
            exact .both_raise error errorToo raised raisedToo (by rw [kind, kindToo, agree])
              uncommitted uncommittedToo untouched untouchedToo

end Renamed

/-- The mapping shows in the class of a transfer's exception only where it turns the order
of the legs around and both legs fail for different reasons. -/
theorem transferred_mapped_iff (injective : Function.Injective mapping) (valid : world.Valid)
    (productId sourceId destinationId : UUID) (quantity : Int) :
    errorOf (world.tables.transferred productId sourceId destinationId quantity) =
        errorOf ((world.rename mapping).tables.transferred productId (mapping sourceId) (mapping destinationId)
          quantity) ↔
      (world.tables.Clash (productId, sourceId) (productId, destinationId) quantity →
        ((sortedByStr (mapping sourceId) (mapping destinationId)).1 = mapping sourceId ↔
          (sortedByStr sourceId destinationId).1 = sourceId)) := by
  rw [clash_iff valid, ← errors_agree_iff, errors_mapped injective, errorOf_transferred]
  by_cases leads : (sortedByStr sourceId destinationId).1 = sourceId <;>
    by_cases leadsToo : (sortedByStr (mapping sourceId) (mapping destinationId)).1 =
      mapping sourceId
  · simp [leads, leadsToo]
  · simp [leads, leadsToo]
  · simp [leads, leadsToo, eq_comm]
  · simp [leads, leadsToo]

/-- A transfer's outcome depends neither on the order of its legs nor on the names of its
warehouses, except for which exception it raises where both legs fail. -/
theorem transfer_outcome_iff (world : World) (valid : world.Valid) (data : MovementCreate)
    (transfer : data.movementType = .TRANSFER) (sourceId destinationId : UUID)
    (source : data.sourceWarehouseId = some sourceId)
    (destination : data.destinationWarehouseId = some destinationId)
    (product : world.tables.hasProduct data.productId = true)
    (answers others : Nat → Answer) (healthy : ∀ n, (answers n).fails = false)
    (healthyToo : ∀ n, (others n).fails = false) :
    (SameOutcome world
        (runAlone answers world
          (sourceFirst data.productId sourceId destinationId data.quantity))
        (runAlone others world
          (destinationFirst data.productId sourceId destinationId data.quantity)) ↔
      ¬ world.tables.Clash (data.productId, sourceId) (data.productId, destinationId)
        data.quantity) ∧
    ∀ (settings : Settings) (performedBy : Option UUID) (mapping : UUID → UUID)
      (renamed : MovementCreate), Function.Injective mapping →
      renamed.toMovementPayload = data.toMovementPayload.rename mapping →
      (RecordedAlike mapping data renamed performedBy world
          (runAlone answers world (recordMovement settings data performedBy))
          (runAlone others (world.rename mapping) (recordMovement settings renamed performedBy)) ↔
        (world.tables.Clash (data.productId, sourceId) (data.productId, destinationId)
            data.quantity →
          ((sortedByStr (mapping sourceId) (mapping destinationId)).1 = mapping sourceId ↔
            (sortedByStr sourceId destinationId).1 = sourceId))) := by
  have different : sourceId ≠ destinationId := by
    rcases data.warehouses_cases with ⟨type, _⟩ | ⟨type, _⟩ | ⟨_, left, right, named, namedToo, apart⟩
    · rw [type] at transfer
      cases transfer
    · rw [type] at transfer
      cases transfer
    · rw [source] at named
      rw [destination] at namedToo
      cases named
      cases namedToo
      exact apart
  refine ⟨transferLegs_iff healthy healthyToo valid product different data.quantity_positive, ?_⟩
  intro settings performedBy mapping renamed injective same
  have productId : renamed.productId = data.productId := by rw [same, MovementPayload.rename]
  have quantity : renamed.quantity = data.quantity := by rw [same, MovementPayload.rename]
  rw [recordedAlike_iff injective valid healthy healthyToo same transfer source destination
    different product, productId, quantity, transferred_mapped_iff injective valid]

namespace Sample

abbrev transferBack3 : MovementCreate :=
  transfer branch.id main.id 3 three_positive main_ne_branch.symm

theorem stocked_no_clash :
    ¬ stocked.tables.Clash (product.id, main.id) (product.id, branch.id) 3 := by
  intro clash
  cases clash with
  | unknown _ _ _ _ _ missing => exact absurd missing (by decide)
  | full _ _ overflow => exact absurd overflow (by decide)

end Sample

theorem transfer_outcome_iff_exchanged :
    SameOutcome Sample.stocked
        (runAlone (fun _ => {}) Sample.stocked
          (sourceFirst Sample.product.id Sample.main.id Sample.branch.id 3))
        (runAlone (fun _ => {}) Sample.stocked
          (destinationFirst Sample.product.id Sample.main.id Sample.branch.id 3)) ∧
      RecordedAlike (Equiv.swap Sample.main.id Sample.branch.id) Sample.transfer3
        Sample.transferBack3 none Sample.stocked
        (runAlone (fun _ => {}) Sample.stocked (recordMovement {} Sample.transfer3 none))
        (runAlone (fun _ => {})
          (Sample.stocked.rename (Equiv.swap Sample.main.id Sample.branch.id))
          (recordMovement {} Sample.transferBack3 none)) := by
  obtain ⟨legs, names⟩ := transfer_outcome_iff Sample.stocked Sample.stocked_valid
    Sample.transfer3 rfl Sample.main.id Sample.branch.id rfl rfl (by decide) (fun _ => {})
    (fun _ => {}) (fun _ => rfl) (fun _ => rfl)
  refine ⟨legs.mpr Sample.stocked_no_clash, ?_⟩
  exact (names {} none (Equiv.swap Sample.main.id Sample.branch.id) Sample.transferBack3
    (Equiv.injective _) (by decide)).mpr (fun clash => absurd clash Sample.stocked_no_clash)

/-- Six pieces out of five, to a warehouse that does not exist. -/
theorem transfer_order_shows :
    ¬ ∀ (world : World) (productId sourceId destinationId : UUID) (quantity : Int), world.Valid →
      world.tables.hasProduct productId = true → sourceId ≠ destinationId → 0 < quantity →
        SameOutcome world
          (runAlone (fun _ => {}) world (sourceFirst productId sourceId destinationId quantity))
          (runAlone (fun _ => {}) world
            (destinationFirst productId sourceId destinationId quantity)) := by
  intro always
  have same := always Sample.stocked Sample.product.id Sample.main.id ⟨9⟩ 6 Sample.stocked_valid
    (by decide) (by decide) (by decide)
  have conflict : ∃ error, (runAlone (fun _ => {}) Sample.stocked
      (sourceFirst Sample.product.id Sample.main.id ⟨9⟩ 6)).outcome = some (.error error) ∧
        error.statusCode = 409 := ⟨_, rfl, rfl⟩
  have missing : ∃ error, (runAlone (fun _ => {}) Sample.stocked
      (destinationFirst Sample.product.id Sample.main.id ⟨9⟩ 6)).outcome = some (.error error) ∧
        error.statusCode = 404 := ⟨_, rfl, rfl⟩
  obtain ⟨_, raised, conflict⟩ := conflict
  obtain ⟨_, raisedToo, missing⟩ := missing
  cases same with
  | both_return _ returned =>
      rw [raised] at returned
      cases returned
  | both_raise _ _ first second class_eq =>
      rw [raised] at first
      rw [raisedToo] at second
      cases first
      cases second
      rw [Exception.statusCode, class_eq, ← Exception.statusCode, missing] at conflict
      cases conflict

end InventoryManagement
