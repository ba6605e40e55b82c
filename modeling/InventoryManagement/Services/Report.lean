import InventoryManagement.Decimal
import InventoryManagement.Sql
import InventoryManagement.Services.Alert
import InventoryManagement.Database.TablesProperties

/-! `ReportService`: stock and its value per warehouse, aggregated by the database. -/

set_option autoImplicit false

namespace InventoryManagement

structure WarehouseStockSummary where
  warehouseId : UUID
  warehouseName : String
  distinctProducts : Nat
  totalQuantity : Int
  lowStockCount : Nat
  outOfStockCount : Nat

structure InventorySummaryReport where
  totalWarehouses : Nat
  totalStockQuantity : Int
  lowStockCount : Nat
  outOfStockCount : Nat
  byWarehouse : List WarehouseStockSummary

/-- A joined row; the inventory columns are NULL for a warehouse without stock. -/
abbrev SummaryRow := Warehouse × Option Inventory

def SummaryRow.quantity (row : SummaryRow) : Option Int := row.2.map (·.quantity)

/-- `func.coalesce(Inventory.low_stock_threshold, default_threshold)`. -/
def SummaryRow.threshold (settings : Settings) (row : SummaryRow) : Option Int :=
  Sql.coalesce (row.2.bind (·.lowStockThreshold)) settings.lowStockAlertThresholdDefault

def SummaryRow.lowStock (settings : Settings) (row : SummaryRow) : Option Nat :=
  Sql.caseOne (Sql.le row.quantity (row.threshold settings))

def SummaryRow.outOfStock (row : SummaryRow) : Option Nat :=
  Sql.caseOne (Sql.eq row.quantity (some 0))

def summaryRows (tables : Tables) : List SummaryRow :=
  Sql.leftJoin tables.warehouses tables.inventories
    (fun warehouse inventory => decide (inventory.warehouseId = warehouse.id))

def summarizeWarehouse (settings : Settings) (group : (UUID × String) × List SummaryRow) :
    WarehouseStockSummary where
  warehouseId := group.1.1
  warehouseName := group.1.2
  distinctProducts := Sql.count (fun row : SummaryRow => row.2) group.2
  totalQuantity := (Sql.sum SummaryRow.quantity group.2).getD 0
  lowStockCount := Sql.count (SummaryRow.lowStock settings) group.2
  outOfStockCount := Sql.count SummaryRow.outOfStock group.2

/-- `generate_inventory_summary`; `collation` is how the database orders names. -/
def generateInventorySummary (settings : Settings) (collation : String → String → Bool)
    (tables : Tables) : InventorySummaryReport :=
  let groups := Sql.groupBy (fun row : SummaryRow => (row.1.id, row.1.name)) (summaryRows tables)
  let ordered := groups.mergeSort (fun left right => collation left.1.2 right.1.2)
  let byWarehouse := ordered.map (summarizeWarehouse settings)
  { totalWarehouses := byWarehouse.length
    totalStockQuantity := (byWarehouse.map (·.totalQuantity)).sum
    lowStockCount := (byWarehouse.map (·.lowStockCount)).sum
    outOfStockCount := (byWarehouse.map (·.outOfStockCount)).sum
    byWarehouse }

def Inventory.isLow (settings : Settings) (inventory : Inventory) : Bool :=
  decide (inventory.quantity ≤ effectiveThreshold settings inventory)

structure WarehouseValuation where
  warehouseId : UUID
  warehouseName : String
  totalValue : Int

/-- Values are counted in hundredths, as prices are. -/
structure InventoryValuationReport where
  totalValue : Int
  byWarehouse : List WarehouseValuation

/-- A summary row next to the product of its inventory row. -/
abbrev ValuationRow := SummaryRow × Option Product

/-- `Inventory.quantity * Product.price`. -/
def ValuationRow.value (row : ValuationRow) : Option Int :=
  Sql.strict (fun quantity price => quantity * price) row.1.quantity (row.2.map (·.price))

def valuationRows (tables : Tables) : List ValuationRow :=
  Sql.leftJoin (summaryRows tables) tables.products (fun row product =>
    Sql.isTrue (Sql.strict (fun id productId => decide (id = productId)) (some product.id)
      (row.2.map (·.productId))))

def valueWarehouse (group : (UUID × String) × List ValuationRow) : WarehouseValuation where
  warehouseId := group.1.1
  warehouseName := group.1.2
  totalValue := (Sql.sum ValuationRow.value group.2).getD 0

/-- The precision of Python's default decimal context. -/
def decimalPrecision : Nat := 28

/-- `generate_valuation_report`. The warehouses' values are added up in Python. -/
def generateValuationReport (collation : String → String → Bool) (tables : Tables) :
    InventoryValuationReport :=
  let groups := Sql.groupBy (fun row : ValuationRow => (row.1.1.id, row.1.1.name))
    (valuationRows tables)
  let ordered := groups.mergeSort (fun left right => collation left.1.2 right.1.2)
  let byWarehouse := ordered.map valueWarehouse
  { totalValue := Decimal.sum decimalPrecision (byWarehouse.map (·.totalValue))
    byWarehouse }

/-! The same figures, row by row. -/

def Tables.stockOf (tables : Tables) (warehouseId : UUID) : List Inventory :=
  tables.inventories.filter (fun row => row.warehouseId = warehouseId)

def Tables.price (tables : Tables) (productId : UUID) : Int :=
  ((tables.product? productId).map (·.price)).getD 0

def Tables.value (tables : Tables) (inventory : Inventory) : Int :=
  inventory.quantity * tables.price inventory.productId

def Tables.stockSummary (settings : Settings) (tables : Tables) (warehouse : Warehouse) :
    WarehouseStockSummary where
  warehouseId := warehouse.id
  warehouseName := warehouse.name
  distinctProducts := (tables.stockOf warehouse.id).length
  totalQuantity := ((tables.stockOf warehouse.id).map (·.quantity)).sum
  lowStockCount := (tables.stockOf warehouse.id).countP (Inventory.isLow settings)
  outOfStockCount := (tables.stockOf warehouse.id).countP (fun row => decide (row.quantity = 0))

def Tables.stockValuation (tables : Tables) (warehouse : Warehouse) : WarehouseValuation where
  warehouseId := warehouse.id
  warehouseName := warehouse.name
  totalValue := ((tables.stockOf warehouse.id).map tables.value).sum

section Figures

variable {settings : Settings} {world : World} {tables : Tables}

theorem refers_warehouse (valid : world.Valid) :
    ∀ row ∈ world.tables.inventories, row.warehouseId ∈ world.tables.warehouses.map (·.id) := by
  intro row stored
  have known := valid.inventories_refer row stored
  simp only [Tables.hasPair, Bool.and_eq_true, Tables.hasWarehouse, Tables.warehouse?,
    List.find?_isSome] at known
  obtain ⟨warehouse, member, same⟩ := known.2
  exact List.mem_map.mpr ⟨warehouse, member, of_decide_eq_true same⟩

/-- The warehouses' rows are all the rows. -/
theorem stockOf_perm (valid : world.Valid) :
    (world.tables.warehouses.flatMap (fun warehouse => world.tables.stockOf warehouse.id)).Perm
      world.tables.inventories :=
  Sql.partition_perm valid.warehouses_unique (refers_warehouse valid)

theorem named_unique (valid : world.Valid) :
    (world.tables.warehouses.map (fun warehouse => (warehouse.id, warehouse.name))).Nodup := by
  apply List.Nodup.of_map Prod.fst
  rw [List.map_map]
  exact valid.warehouses_unique

/-- The rows of the summary's group of a warehouse. -/
abbrev summaryGroup (tables : Tables) (warehouse : Warehouse) : List SummaryRow :=
  Sql.joinedRows (fun warehouse inventory => decide (inventory.warehouseId = warehouse.id))
    tables.inventories warehouse

theorem summaryGroups (valid : world.Valid) :
    Sql.groupBy (fun row : SummaryRow => (row.1.id, row.1.name)) (summaryRows world.tables) =
      world.tables.warehouses.map (fun warehouse =>
        ((warehouse.id, warehouse.name), summaryGroup world.tables warehouse)) := by
  rw [summaryRows, Sql.leftJoin_eq]
  apply Sql.groupBy_flatMap (named_unique valid)
  · exact fun warehouse _ => Sql.joinedRows_ne_nil _ _ warehouse
  · intro warehouse _ row member
    rw [Sql.joinedRows_left member]

theorem count_summaryGroup {Value : Type} (tables : Tables) (warehouse : Warehouse)
    (expression : SummaryRow → Option Value) (condition : Inventory → Bool)
    (null : expression (warehouse, none) = none)
    (counted : ∀ row, (expression (warehouse, some row)).isSome = condition row) :
    Sql.count expression (summaryGroup tables warehouse) =
      (tables.stockOf warehouse.id).countP condition := by
  rw [Sql.count_joinedRows expression null, Tables.stockOf]
  congr 1
  funext row
  exact counted row

theorem summarizeWarehouse_eq (warehouse : Warehouse) :
    summarizeWarehouse settings ((warehouse.id, warehouse.name), summaryGroup tables warehouse) =
      tables.stockSummary settings warehouse := by
  have rows : Sql.count (fun row : SummaryRow => row.2) (summaryGroup tables warehouse) =
      (tables.stockOf warehouse.id).length := by
    rw [count_summaryGroup tables warehouse (fun row : SummaryRow => row.2) (fun _ => true) rfl
      (fun _ => rfl), List.countP_true]
  have low := count_summaryGroup tables warehouse (SummaryRow.lowStock settings)
    (Inventory.isLow settings) rfl
    (fun row => by rw [SummaryRow.lowStock, Sql.caseOne_isSome]; rfl)
  have out := count_summaryGroup tables warehouse SummaryRow.outOfStock
    (fun row => decide (row.quantity = 0)) rfl
    (fun row => by rw [SummaryRow.outOfStock, Sql.caseOne_isSome]; rfl)
  have quantity : (Sql.sum SummaryRow.quantity (summaryGroup tables warehouse)).getD 0 =
      ((tables.stockOf warehouse.id).map (·.quantity)).sum := by
    rw [Sql.sum_getD, Sql.filterMap_joinedRows SummaryRow.quantity rfl, ← List.filterMap_eq_map]
    rfl
  simp only [summarizeWarehouse, rows, low, out, quantity, Tables.stockSummary]

/-- Every warehouse is listed once, with its figures. -/
theorem summary_byWarehouse (settings : Settings) (valid : world.Valid) (collation : String → String → Bool) :
    (generateInventorySummary settings collation world.tables).byWarehouse.Perm
      (world.tables.warehouses.map (world.tables.stockSummary settings)) := by
  have listed := (List.mergeSort_perm (Sql.groupBy (fun row : SummaryRow => (row.1.id, row.1.name))
    (summaryRows world.tables)) (fun left right => collation left.1.2 right.1.2)).map
      (summarizeWarehouse settings)
  refine listed.trans ?_
  rw [summaryGroups valid, List.map_map]
  apply List.Perm.of_eq
  apply List.map_congr_left
  intro warehouse _
  exact summarizeWarehouse_eq warehouse

/-! The valuation joins the products to the rows of the summary. -/

abbrev productRows (tables : Tables) (row : SummaryRow) : List ValuationRow :=
  Sql.joinedRows (fun row product =>
    Sql.isTrue (Sql.strict (fun id productId => decide (id = productId)) (some product.id)
      (row.2.map (·.productId)))) tables.products row

theorem valuationGroups (valid : world.Valid) :
    Sql.groupBy (fun row : ValuationRow => (row.1.1.id, row.1.1.name))
        (valuationRows world.tables) =
      world.tables.warehouses.map (fun warehouse => ((warehouse.id, warehouse.name),
        (summaryGroup world.tables warehouse).flatMap (productRows world.tables))) := by
  rw [valuationRows, Sql.leftJoin_eq, summaryRows, Sql.leftJoin_eq, List.flatMap_assoc]
  apply Sql.groupBy_flatMap (named_unique valid)
  · intro warehouse _ none
    obtain ⟨row, listed⟩ := List.exists_mem_of_ne_nil _ (Sql.joinedRows_ne_nil
      (fun (warehouse : Warehouse) (inventory : Inventory) =>
        decide (inventory.warehouseId = warehouse.id)) world.tables.inventories warehouse)
    exact Sql.joinedRows_ne_nil _ _ row (List.flatMap_eq_nil_iff.mp none row listed)
  · intro warehouse _ row member
    obtain ⟨summary, listed, joined⟩ := List.mem_flatMap.mp member
    rw [Sql.joinedRows_left joined, Sql.joinedRows_left listed]

/-- A joined row's value is that of its inventory row, NULL without one. -/
theorem value_productRows (valid : world.Valid) (warehouse : Warehouse) (row : Option Inventory)
    (stored : ∀ inventory ∈ row, inventory ∈ world.tables.inventories) :
    (productRows world.tables (warehouse, row)).filterMap ValuationRow.value =
      (row.map world.tables.value).toList := by
  cases row with
  | none =>
      have padded : productRows world.tables (warehouse, none) = [((warehouse, none), none)] := by
        simp [productRows, Sql.joinedRows, Sql.strict, Sql.isTrue]
      rw [padded]
      rfl
  | some inventory =>
      have refers := valid.inventories_refer inventory (stored inventory rfl)
      simp only [Tables.hasPair, Tables.hasProduct, Bool.and_eq_true] at refers
      obtain ⟨product, found⟩ : ∃ product, world.tables.product? inventory.productId = some product :=
        Option.isSome_iff_exists.mp refers.1
      have matching := KeyedRows.filter_eq_find valid.products_unique inventory.productId
      rw [show world.tables.products.find? _ = some product from found] at matching
      have joined : productRows world.tables (warehouse, some inventory) =
          [((warehouse, some inventory), some product)] := by
        simp [productRows, Sql.joinedRows, Sql.strict, Sql.isTrue, matching]
      have price : world.tables.price inventory.productId = product.price := by
        rw [Tables.price, show world.tables.product? _ = some product from found]
        rfl
      rw [joined, Option.map_some, Tables.value, price]
      rfl

theorem valueWarehouse_eq (valid : world.Valid) (warehouse : Warehouse) :
    valueWarehouse ((warehouse.id, warehouse.name),
        (summaryGroup world.tables warehouse).flatMap (productRows world.tables)) =
      world.tables.stockValuation warehouse := by
  have values : ((summaryGroup world.tables warehouse).flatMap
      (productRows world.tables)).filterMap ValuationRow.value =
        (world.tables.stockOf warehouse.id).map world.tables.value := by
    have each : ∀ row ∈ summaryGroup world.tables warehouse,
        (productRows world.tables row).filterMap ValuationRow.value =
          (row.2.map world.tables.value).toList := by
      intro row listed
      apply value_productRows valid row.1 row.2
      exact fun inventory some => Sql.joinedRows_right listed some
    rw [List.filterMap_flatMap, List.flatMap_congr each, ← List.filterMap_eq_flatMap_toList,
      Sql.filterMap_joinedRows (fun row : SummaryRow => row.2.map world.tables.value) rfl,
      ← List.filterMap_eq_map]
    rfl
  simp only [valueWarehouse, Sql.sum_getD, values, Tables.stockValuation]

theorem valuation_byWarehouse (valid : world.Valid) (collation : String → String → Bool) :
    (generateValuationReport collation world.tables).byWarehouse.Perm
      (world.tables.warehouses.map world.tables.stockValuation) := by
  have listed := (List.mergeSort_perm (Sql.groupBy
    (fun row : ValuationRow => (row.1.1.id, row.1.1.name)) (valuationRows world.tables))
    (fun left right => collation left.1.2 right.1.2)).map valueWarehouse
  refine listed.trans ?_
  rw [valuationGroups valid, List.map_map]
  apply List.Perm.of_eq
  apply List.map_congr_left
  intro warehouse _
  exact valueWarehouse_eq valid warehouse

/-! Totals over the warehouses are totals over the rows. -/

theorem sum_stockOf (valid : world.Valid) (figure : Inventory → Int) :
    (world.tables.warehouses.map (fun warehouse =>
      ((world.tables.stockOf warehouse.id).map figure).sum)).sum =
        (world.tables.inventories.map figure).sum := by
  rw [← ((stockOf_perm valid).map figure).sum_eq, List.map_flatMap, List.flatMap_def,
    List.sum_flatten, List.map_map]
  rfl

theorem countP_stockOf (valid : world.Valid) (condition : Inventory → Bool) :
    (world.tables.warehouses.map (fun warehouse =>
      (world.tables.stockOf warehouse.id).countP condition)).sum =
        world.tables.inventories.countP condition := by
  rw [← (stockOf_perm valid).countP_eq condition, List.countP_flatMap]
  rfl

theorem totalStockQuantity_eq (valid : world.Valid) (collation : String → String → Bool) :
    (generateInventorySummary settings collation world.tables).totalStockQuantity =
      (world.tables.inventories.map (·.quantity)).sum := by
  rw [← sum_stockOf valid]
  refine ((summary_byWarehouse settings valid collation).map (·.totalQuantity)).sum_eq.trans ?_
  rw [List.map_map]
  rfl

theorem lowStockCount_eq (valid : world.Valid) (collation : String → String → Bool) :
    (generateInventorySummary settings collation world.tables).lowStockCount =
      world.tables.inventories.countP (Inventory.isLow settings) := by
  rw [← countP_stockOf valid]
  refine ((summary_byWarehouse settings valid collation).map (·.lowStockCount)).sum_eq.trans ?_
  rw [List.map_map]
  rfl

theorem outOfStockCount_eq (valid : world.Valid) (collation : String → String → Bool) :
    (generateInventorySummary settings collation world.tables).outOfStockCount =
      world.tables.inventories.countP (fun row => decide (row.quantity = 0)) := by
  rw [← countP_stockOf valid]
  refine ((summary_byWarehouse settings valid collation).map (·.outOfStockCount)).sum_eq.trans ?_
  rw [List.map_map]
  rfl

/-- The value of all the stock. -/
def Tables.stockValue (tables : Tables) : Int := (tables.inventories.map tables.value).sum

theorem valuation_sum (valid : world.Valid) (collation : String → String → Bool) :
    ((generateValuationReport collation world.tables).byWarehouse.map (·.totalValue)).sum =
      world.tables.stockValue := by
  rw [Tables.stockValue, ← sum_stockOf valid]
  refine ((valuation_byWarehouse valid collation).map (·.totalValue)).sum_eq.trans ?_
  rw [List.map_map]
  rfl

/-- The total is exact as long as the running total fits the decimal context. -/
theorem totalValue_eq (valid : world.Valid) (collation : String → String → Bool)
    (roomy : Decimal.Roomy decimalPrecision
      ((generateValuationReport collation world.tables).byWarehouse.map (·.totalValue))) :
    (generateValuationReport collation world.tables).totalValue = world.tables.stockValue :=
  (Decimal.sum_of_roomy roomy).trans (valuation_sum valid collation)

end Figures

end InventoryManagement
