import InventoryManagement.Services.Books
import InventoryManagement.Services.Report
import Mathlib.Algebra.BigOperators.Ring.List

/-! The reports against the rows they are about, and what transfers leave of them. -/

set_option autoImplicit false

namespace InventoryManagement

open Interleaving (Guard Reachable System)

/-- A sum over distinct items of a figure that only one of them has. -/
theorem sum_at {Item : Type} [DecidableEq Item] {items : List Item} (unique : items.Nodup)
    {target : Item} (member : target ∈ items) (figure : Item → Int) :
    (items.map (fun item => if item = target then figure item else 0)).sum = figure target := by
  rw [List.sum_map_ite_eq, List.count_eq_one_of_mem unique member]
  simp

variable {places : List Pair} {tables : Tables}

/-- The stock of all pairs, each unit weighed by its product. -/
def Tables.weighed (tables : Tables) (weight : UUID → Int) : Int :=
  (tables.inventories.map (fun row => row.quantity * weight row.productId)).sum

theorem weighed_eq (weight : UUID → Int) (unique : places.Nodup)
    (covers : ∀ row ∈ tables.inventories, row.pair ∈ places) :
    tables.weighed weight =
      (places.map (fun pair => tables.quantity pair * weight pair.1)).sum := by
  have perm : (places.flatMap tables.inventoriesOf).Perm tables.inventories := by
    change (places.flatMap (fun pair => tables.inventories.filter
      (fun row => row.pair = pair))).Perm tables.inventories
    apply Sql.partition_perm
    · rwa [List.map_id']
    · simpa using covers
  rw [Tables.weighed, ← (perm.map _).sum_eq, List.map_flatMap, List.flatMap_def, List.sum_flatten,
    List.map_map]
  congr 1
  apply List.map_congr_left
  intro pair _
  rw [Function.comp_apply, Tables.quantity, ← List.sum_map_mul_right]
  congr 1
  apply List.map_congr_left
  intro row listed
  rw [← (Tables.mem_inventoriesOf.mp listed).2]
  rfl

/-- A movement from one warehouse to another. -/
def MovementValues.IsTransfer (values : MovementValues) : Prop :=
  ∃ source destination, values.sourceWarehouseId = some source ∧
    values.destinationWarehouseId = some destination

def MovementValues.pairs (values : MovementValues) : List Pair :=
  (values.sourceWarehouseId.toList ++ values.destinationWarehouseId.toList).map (values.productId, ·)

/-- What leaves one warehouse arrives in the other. -/
theorem change_conserved (weight : UUID → Int) (unique : places.Nodup) {values : MovementValues}
    (transfer : values.IsTransfer) (covers : ∀ pair ∈ values.pairs, pair ∈ places) :
    (places.map (fun pair => values.change pair * weight pair.1)).sum = 0 := by
  obtain ⟨source, destination, leaves, arrives⟩ := transfer
  have there : ∀ (pair : Pair) (warehouse : UUID),
      (values.productId = pair.1 ∧ some warehouse = some pair.2) ↔
        pair = (values.productId, warehouse) := by
    intro pair warehouse
    rw [Prod.ext_iff, Option.some.injEq, eq_comm, @eq_comm _ warehouse]
  have split : ∀ pair : Pair, values.change pair * weight pair.1 =
      (if pair = (values.productId, destination) then values.quantity * weight pair.1 else 0) +
        (if pair = (values.productId, source) then -(values.quantity * weight pair.1) else 0) := by
    intro pair
    simp only [MovementValues.change, leaves, arrives, there, sub_mul, ite_mul, zero_mul]
    by_cases first : pair = (values.productId, source) <;> simp [first, sub_eq_add_neg]
  simp only [split]
  rw [List.sum_map_add, sum_at unique (covers _ (by simp [MovementValues.pairs, arrives])),
    sum_at unique (covers _ (by simp [MovementValues.pairs, leaves]))]
  simp

theorem changes_conserved (weight : UUID → Int) (unique : places.Nodup) {added : List Movement}
    (transfers : ∀ movement ∈ added, movement.IsTransfer)
    (covers : ∀ movement ∈ added, ∀ pair ∈ movement.pairs, pair ∈ places) :
    (places.map (fun pair => changes added pair * weight pair.1)).sum = 0 := by
  induction added with
  | nil => simp
  | cons movement rest ih =>
      have here := change_conserved weight unique (transfers movement (by simp))
        (covers movement (by simp))
      have later := ih (fun other listed => transfers other (List.mem_cons_of_mem _ listed))
        (fun other listed => covers other (List.mem_cons_of_mem _ listed))
      simp only [changes, List.map_cons, List.sum_cons, add_mul] at later ⊢
      rw [List.sum_map_add, here, later, add_zero]

/-- Transfers leave the stock of every product as it was. -/
theorem Grown.weighed {before after : World} {added : List Movement} (grown : Grown before after added)
    (transfers : ∀ movement ∈ added, movement.IsTransfer) (weight : UUID → Int) :
    after.tables.weighed weight = before.tables.weighed weight := by
  let places := (before.tables.inventories.map Inventory.pair ++
    after.tables.inventories.map Inventory.pair ++
    added.flatMap (fun movement => movement.pairs)).dedup
  have unique : places.Nodup := List.nodup_dedup _
  have moved : (places.map (fun pair => changes added pair * weight pair.1)).sum = 0 := by
    apply changes_conserved weight unique transfers
    intro movement listed pair named
    exact List.mem_dedup.mpr
      (List.mem_append_right _ (List.mem_flatMap.mpr ⟨movement, listed, named⟩))
  rw [weighed_eq weight unique, weighed_eq weight unique]
  · simp only [grown.quantity, add_mul]
    rw [List.sum_map_add, moved, add_zero]
  · intro row stored
    exact List.mem_dedup.mpr
      (List.mem_append_left _ (List.mem_append_left _ (List.mem_map_of_mem stored)))
  · intro row stored
    exact List.mem_dedup.mpr
      (List.mem_append_left _ (List.mem_append_right _ (List.mem_map_of_mem stored)))

section Runs

variable {settings : Settings} {world : World} {requests : List Request} {system : Application}

theorem isTransfer_values {data : MovementCreate} (transfer : data.movementType = .TRANSFER)
    (performedBy : Option UUID) : (data.values performedBy).IsTransfer := by
  rcases data.warehouses_cases with ⟨type, _⟩ | ⟨type, _⟩ | ⟨_, source, destination, leaves, arrives, _⟩
  · rw [type] at transfer
    cases transfer
  · rw [type] at transfer
    cases transfer
  · exact ⟨source, destination, leaves, arrives⟩

/-- While every movement is a transfer, the weighed stock stays as it was. -/
theorem transfers_weighed (valid : world.Valid) (transfers : ∀ data performedBy,
      Request.movement data performedBy ∈ requests → data.movementType = .TRANSFER)
    (reached : Reachable environment Guard.unrestricted
      (Application.start settings world requests) system) :
    system.shared.tables.products = world.tables.products ∧
      ∀ weight, system.shared.tables.weighed weight = world.tables.weighed weight := by
  have booked := Application.booked valid reached
  have labels := reached.labels.trans (Application.start_labels settings world requests)
  refine ⟨booked.grown.products, booked.grown.weighed ?_⟩
  intro movement member
  obtain ⟨thread, listed, recorded⟩ := List.mem_flatMap.mp member
  rcases booked.records thread listed with nothing | ⟨data, performedBy, last, label, only, values⟩
  · rw [nothing] at recorded
    cases recorded
  · have requested : Request.movement data performedBy ∈ requests := by
      rw [← label, ← labels]
      exact List.mem_map_of_mem listed
    rw [only, List.mem_singleton] at recorded
    have transfer := isTransfer_values (transfers data performedBy requested) performedBy
    rw [recorded]
    exact values ▸ transfer

end Runs

theorem stockValue_weighed (tables : Tables) :
    tables.stockValue = tables.weighed tables.price := rfl

theorem price_products {tables other : Tables} (same : tables.products = other.products) :
    tables.price = other.price := by
  funext productId
  rw [Tables.price, Tables.product?, same]
  rfl

/-- The reports say what the rows say, and transfers leave their totals as they were. -/
theorem reports_row_by_row (settings : Settings) (collation : String → String → Bool)
    (world : World) (valid : world.Valid) :
    let summary := generateInventorySummary settings collation world.tables
    let valuation := generateValuationReport collation world.tables
    (summary.byWarehouse.Perm (world.tables.warehouses.map (world.tables.stockSummary settings)) ∧
      summary.totalWarehouses = world.tables.warehouses.length ∧
      summary.totalStockQuantity = (world.tables.inventories.map (·.quantity)).sum ∧
      summary.lowStockCount = world.tables.inventories.countP (Inventory.isLow settings) ∧
      summary.outOfStockCount =
        world.tables.inventories.countP (fun row => decide (row.quantity = 0))) ∧
    (valuation.byWarehouse.Perm (world.tables.warehouses.map world.tables.stockValuation) ∧
      (Decimal.Roomy decimalPrecision (valuation.byWarehouse.map (·.totalValue)) →
        valuation.totalValue = world.tables.stockValue)) ∧
    ∀ (requests : List Request) (system : Application), (∀ data performedBy,
        Request.movement data performedBy ∈ requests → data.movementType = .TRANSFER) →
      Reachable environment Guard.unrestricted (Application.start settings world requests) system →
      let after := generateValuationReport collation system.shared.tables
      (generateInventorySummary settings collation system.shared.tables).totalStockQuantity =
          summary.totalStockQuantity ∧
        (Decimal.Roomy decimalPrecision (valuation.byWarehouse.map (·.totalValue)) →
          Decimal.Roomy decimalPrecision (after.byWarehouse.map (·.totalValue)) →
          after.totalValue = valuation.totalValue) := by
  intro summary valuation
  have listed := summary_byWarehouse settings valid collation
  refine ⟨⟨listed, ?_, totalStockQuantity_eq valid collation, lowStockCount_eq valid collation,
    outOfStockCount_eq valid collation⟩,
    ⟨valuation_byWarehouse valid collation, totalValue_eq valid collation⟩, ?_⟩
  · have length := listed.length_eq
    rwa [List.length_map] at length
  · intro requests system transfers reached after
    have validAfter := ((Application.start_verified settings permits_unrestricted valid
      requests).reachable reached).valid
    obtain ⟨products, weighed⟩ := transfers_weighed valid transfers reached
    constructor
    · have quantities := weighed (fun _ => 1)
      simp only [Tables.weighed, mul_one] at quantities
      exact (totalStockQuantity_eq validAfter collation).trans
        (quantities.trans (totalStockQuantity_eq valid collation).symm)
    · intro before later
      rw [totalValue_eq validAfter collation later, totalValue_eq valid collation before,
        stockValue_weighed, stockValue_weighed, price_products products, weighed]

/-- Values that are not negative and make no more than 28 digits together. -/
theorem valuation_roomy {world : World} (valid : world.Valid) (collation : String → String → Bool)
    (nonnegative : ∀ warehouse ∈ world.tables.warehouses,
      0 ≤ (world.tables.stockValuation warehouse).totalValue)
    (fits : world.tables.stockValue.natAbs < 10 ^ decimalPrecision) :
    Decimal.Roomy decimalPrecision
      ((generateValuationReport collation world.tables).byWarehouse.map (·.totalValue)) := by
  apply Decimal.roomy_of_nonneg
  · intro value reported
    have figures := ((valuation_byWarehouse valid collation).map (·.totalValue)).mem_iff.mp reported
    obtain ⟨valuation, figure, rfl⟩ := List.mem_map.mp figures
    obtain ⟨warehouse, member, rfl⟩ := List.mem_map.mp figure
    exact nonnegative warehouse member
  · rwa [valuation_sum valid]

/-- Stock of 5 in one warehouse, and a transfer of 3 of it. -/
theorem reports_row_by_row_stocked :
    let collation := fun left right : String => decide (left ≤ right)
    (generateInventorySummary {} collation Sample.stocked.tables).totalStockQuantity = 5 ∧
      (generateValuationReport collation Sample.stocked.tables).totalValue = 5 * 1999 ∧
      ∃ system : Application, (Application.start {} Sample.stocked
          [.movement Sample.transfer3 none]).schedule environment (List.replicate 23 (0, {})) =
            some system ∧
        system.shared.tables.quantity (Sample.product.id, Sample.branch.id) = 3 ∧
        (generateInventorySummary {} collation system.shared.tables).totalStockQuantity = 5 ∧
        (generateValuationReport collation system.shared.tables).totalValue = 5 * 1999 := by
  intro collation
  obtain ⟨⟨_, _, quantity, _⟩, ⟨_, total⟩, transfers⟩ :=
    reports_row_by_row {} collation Sample.stocked Sample.stocked_valid
  have roomy := valuation_roomy Sample.stocked_valid collation (by decide) (by decide)
  refine ⟨quantity, total roomy, ?_⟩
  have decided : ((Application.start {} Sample.stocked [.movement Sample.transfer3 none]).schedule
      environment (List.replicate 23 (0, {}))).any (fun system =>
        decide (system.shared.tables.quantity (Sample.product.id, Sample.branch.id) = 3 ∧
          (∀ warehouse ∈ system.shared.tables.warehouses,
            0 ≤ (system.shared.tables.stockValuation warehouse).totalValue) ∧
          system.shared.tables.stockValue.natAbs < 10 ^ decimalPrecision)) = true := by
    decide +kernel
  obtain ⟨system, ran, checked⟩ := (Option.any_eq_true _ _).mp decided
  obtain ⟨moved, nonnegative, fits⟩ := of_decide_eq_true checked
  have reached := System.schedule_reachable .refl ran
  have valid := ((Application.start_verified {} permits_unrestricted Sample.stocked_valid
    _).reachable reached).valid
  obtain ⟨kept, worth⟩ := transfers [.movement Sample.transfer3 none] system
    (by
      intro data performedBy requested
      cases List.mem_singleton.mp requested
      rfl) reached
  exact ⟨system, ran, moved, kept.trans quantity,
    (worth roomy (valuation_roomy valid collation nonnegative fits)).trans (total roomy)⟩

/-! Products as many and as dear as the columns can hold. -/

namespace Sample

def precious (index : Nat) : Product where
  id := ⟨Fin.ofNat (2 ^ 128) index⟩
  sku := toString index
  name := toString index
  price := 999999999999

def full (product : Product) : Inventory where
  productId := product.id
  warehouseId := main.id
  quantity := 2147483647

def hoard (count : Nat) : World where
  tables := {
    products := (List.range count).map precious
    warehouses := [main]
    inventories := ((List.range count).map precious).map full }

variable {count : Nat}

theorem precious_unique (few : count ≤ 2 ^ 128) :
    (((List.range count).map precious).map (·.id)).Nodup := by
  rw [List.map_map]
  apply List.nodup_range.map_on
  intro left listed right listedToo same
  rw [List.mem_range] at listed listedToo
  have equal : left % 2 ^ 128 = right % 2 ^ 128 := congrArg (fun id : UUID => id.int.val) same
  rwa [Nat.mod_eq_of_lt (by omega), Nat.mod_eq_of_lt (by omega)] at equal

theorem hoard_product (few : count ≤ 2 ^ 128) {product : Product}
    (stored : product ∈ (List.range count).map precious) :
    (hoard count).tables.product? product.id = some product :=
  KeyedRows.find_of_mem (precious_unique few) stored

theorem hoard_valid (few : count ≤ 2 ^ 128) : (hoard count).Valid where
  products_unique := precious_unique few
  warehouses_unique := List.nodup_singleton _
  inventories_unique := by
    apply List.Nodup.of_map Prod.fst
    rw [List.map_map, hoard, List.map_map]
    exact precious_unique few
  inventories_refer := by
    intro row stored
    obtain ⟨product, listed, rfl⟩ := List.mem_map.mp stored
    have known : (hoard count).tables.hasProduct product.id = true := by
      rw [Tables.hasProduct, hoard_product few listed]
      rfl
    exact (Bool.and_eq_true _ _).mpr ⟨known, rfl⟩
  inventories_fit := by
    intro row stored
    obtain ⟨product, _, rfl⟩ := List.mem_map.mp stored
    constructor
    · rfl
    · intro threshold none
      cases none
  movements_refer := by simp [hoard]
  reasons_sendable := by simp [hoard]
  alerts_unique := List.nodup_nil
  alerts_fresh := by simp [hoard]
  alerts_refer := by simp [hoard]

theorem hoard_stockValue (few : count ≤ 2 ^ 128) :
    (hoard count).tables.stockValue = count * (2147483647 * 999999999999) := by
  have each : ∀ row ∈ (hoard count).tables.inventories,
      (hoard count).tables.value row = 2147483647 * 999999999999 := by
    intro row stored
    obtain ⟨product, listed, rfl⟩ := List.mem_map.mp stored
    rw [Tables.value, Tables.price, full, hoard_product few listed]
    obtain ⟨index, _, rfl⟩ := List.mem_map.mp listed
    rfl
  rw [Tables.stockValue, List.map_congr_left each, List.map_const', List.sum_replicate,
    nsmul_eq_mul]
  simp [hoard]

theorem hoard_totalValue (few : count ≤ 2 ^ 128) (collation : String → String → Bool) :
    (generateValuationReport collation (hoard count).tables).totalValue =
      Decimal.round decimalPrecision (count * (2147483647 * 999999999999)) := by
  have valid := hoard_valid few
  have single : (generateValuationReport collation (hoard count).tables).byWarehouse =
      [(hoard count).tables.stockValuation main] :=
    (valuation_byWarehouse valid collation).eq_singleton
  have value := valuation_sum valid collation
  rw [single, List.map_singleton, List.sum_singleton, hoard_stockValue few] at value
  change Decimal.sum decimalPrecision (List.map _ (generateValuationReport _ _).byWarehouse) = _
  rw [single, List.map_singleton, value, Decimal.sum, List.foldl_cons, List.foldl_nil, zero_add]

end Sample

/-- In five million rows the total outgrows the 28 digits it is added up with. -/
theorem totalValue_rounded :
    ¬ ∀ (collation : String → String → Bool) (world : World), world.Valid →
      (generateValuationReport collation world.tables).totalValue = world.tables.stockValue := by
  intro always
  have few : 5000001 ≤ 2 ^ 128 := by decide
  have exact := always (fun left right => decide (left ≤ right)) (Sample.hoard 5000001)
    (Sample.hoard_valid few)
  rw [Sample.hoard_totalValue few, Sample.hoard_stockValue few, Decimal.round_eq_iff] at exact
  exact Decimal.not_representable_of_long (by decide) (by decide) exact

end InventoryManagement
