import InventoryManagement.Paging
import InventoryManagement.Services.InventoryQuery
import InventoryManagement.Services.Report
import InventoryManagement.Services.Sequential
import Mathlib.Data.Set.Card

/-! The low-stock rule in its three places: the listing, the alert service and the
report. -/

set_option autoImplicit false

namespace InventoryManagement

open Interleaving (Program)

variable {settings : Settings} {collation : String → String → Bool}
variable {orders : Nat → RowOrder} {limit : Nat} {start world : World} {row : Inventory}

/-- `UPDATE inventories SET low_stock_threshold = ...` for one pair. -/
def World.setThreshold (world : World) (pair : Pair) (threshold : Option Int) : World :=
  { world with tables := { world.tables with
      inventories := world.tables.inventories.map (fun row =>
        if row.pair = pair then { row with lowStockThreshold := threshold } else row) } }

/-- The states that movements and threshold edits reach. -/
inductive Edited (settings : Settings) (start : World) : World → Prop where
  | start : Edited settings start start
  | movement {world : World} (earlier : Edited settings start world) (data : MovementCreate)
      (performedBy : Option UUID) (answers : Nat → Answer) :
      Edited settings start (runAlone answers world (recordMovement settings data performedBy)).shared
  | threshold {world : World} (earlier : Edited settings start world) (pair : Pair)
      (threshold : Option Int) (fits : ∀ value ∈ threshold, Integer.fits value = true) :
      Edited settings start (world.setThreshold pair threshold)

/-- What `list_inventory(low_stock_only=True)` returns over all its pages. -/
def listedLowStock (orders : Nat → RowOrder) (limit : Nat) (tables : Tables) : Set Inventory :=
  {row | ∃ number, row ∈ listInventory (orders (number * limit)) (number * limit) limit none true
    tables}

/-- The stored rows for which `evaluate_stock_level` returns an alert. -/
def alertedStock (settings : Settings) (world : World) : Set Inventory :=
  {row | row ∈ world.tables.inventories ∧ ∀ answers : Nat → Answer,
    (∀ n, (answers n).fails = false) → ∃ alert,
      (runAlone answers world (evaluateStockLevel settings row)).outcome = some (.ok (some alert))}

structure ListingAgrees (settings : Settings) (collation : String → String → Bool)
    (orders : Nat → RowOrder) (limit : Nat) (world : World) : Prop where
  alerted : listedLowStock orders limit world.tables = alertedStock settings world
  low : listedLowStock orders limit world.tables = {row | row ∈ world.tables.inventories ∧
    row.quantity ≤ row.lowStockThreshold.getD settings.lowStockAlertThresholdDefault}
  counted : (listedLowStock orders limit world.tables).ncard =
    (generateInventorySummary settings collation world.tables).lowStockCount

section Edits

theorem World.setThreshold_pairs (pair : Pair) (threshold : Option Int) :
    (world.setThreshold pair threshold).tables.inventories.map Inventory.pair =
      world.tables.inventories.map Inventory.pair := by
  rw [World.setThreshold, List.map_map]
  apply List.map_congr_left
  intro row _
  simp only [Function.comp_apply]
  split <;> rfl

theorem World.Valid.setThreshold (valid : world.Valid) (pair : Pair) {threshold : Option Int}
    (fits : ∀ value ∈ threshold, Integer.fits value = true) :
    (world.setThreshold pair threshold).Valid := by
  have edited : ∀ after ∈ (world.setThreshold pair threshold).tables.inventories,
      ∃ row ∈ world.tables.inventories, row.pair = after.pair ∧ after.Fits := by
    intro after member
    obtain ⟨row, stored, rfl⟩ := List.mem_map.mp member
    have before := valid.inventories_fit row stored
    by_cases here : row.pair = pair
    · rw [if_pos here]
      exact ⟨row, stored, rfl, before.quantity, fits⟩
    · rw [if_neg here]
      exact ⟨row, stored, rfl, before⟩
  constructor
  case inventories_unique =>
    rw [World.setThreshold_pairs]
    exact valid.inventories_unique
  case inventories_refer =>
    intro after member
    obtain ⟨row, stored, same, _⟩ := edited after member
    rw [← same]
    exact valid.inventories_refer row stored
  case inventories_fit =>
    intro after member
    obtain ⟨_, _, _, fits⟩ := edited after member
    exact fits
  case products_unique => exact valid.products_unique
  case warehouses_unique => exact valid.warehouses_unique
  case movements_refer => exact valid.movements_refer
  case reasons_sendable => exact valid.reasons_sendable
  case alerts_unique => exact valid.alerts_unique
  case alerts_fresh => exact valid.alerts_fresh
  case alerts_refer => exact valid.alerts_refer

theorem Edited.invariant (reached : Edited settings start world) (valid : start.Valid)
    (atMostOne : AtMostOneActive start.tables) :
    world.Valid ∧ AtMostOneActive world.tables := by
  induction reached with
  | start => exact ⟨valid, atMostOne⟩
  | movement _ data performedBy answers ih =>
      rw [← (movement_alone settings answers _ data performedBy).1]
      exact request_alone settings answers (.movement data performedBy) ih.1 ih.2
  | threshold _ pair threshold fits ih => exact ⟨ih.1.setThreshold pair fits, ih.2⟩

end Edits

section Rule

theorem evaluated_alert_iff {before after : World} {session updated : Session}
    {result : Option Alert}
    (evaluated : Evaluated settings row before session result after updated) :
    (∃ alert, result = some alert) ↔ row.isLow settings = true := by
  have agrees := (agrees_iff.mp evaluated.agrees).1
  rw [Inventory.isLow, decide_eq_true_iff, ← agrees]
  cases result <;> simp

theorem alertedStock_eq (valid : world.Valid) (atMostOne : AtMostOneActive world.tables) :
    alertedStock settings world =
      {row | row ∈ world.tables.inventories.filter (Inventory.isLow settings)} := by
  ext row
  simp only [alertedStock, Set.mem_ofPred_eq, List.mem_filter]
  refine and_congr_right (fun stored => ?_)
  have evaluates : ∀ answers : Nat → Answer, (∀ n, (answers n).fails = false) →
      ((∃ alert, (runAlone answers world (evaluateStockLevel settings row)).outcome =
        some (.ok (some alert))) ↔ row.isLow settings = true) := by
    intro answers healthy
    have returns : (evaluateStockLevel settings row).Returns environment answers world {}
        (Evaluated settings row world {}) :=
      evaluateStockLevel_alone healthy valid ⟨⟨rfl, rfl, rfl⟩, rfl⟩
        (valid.inventories_fit row stored) (valid.inventories_refer row stored) (atMostOne row.pair)
    obtain ⟨result, after, updated, later, ran, evaluated⟩ := returns 0
    rw [runAlone, ran, ← evaluated_alert_iff evaluated]
    simp
  constructor
  · intro alerted
    exact (evaluates (fun _ => {}) (fun _ => rfl)).mp (alerted (fun _ => {}) (fun _ => rfl))
  · intro low answers healthy
    exact (evaluates answers healthy).mpr low

theorem lowStockCondition_iff : InventoryRepository.lowStockCondition row = true ↔
    ∃ threshold, row.lowStockThreshold = some threshold ∧ row.quantity ≤ threshold := by
  cases threshold : row.lowStockThreshold <;>
    simp [InventoryRepository.lowStockCondition, threshold, Sql.isTrue, Sql.le, Sql.strict]

/-- The two rules differ on rows without a threshold of their own. -/
theorem lowStockCondition_eq_isLow_iff :
    InventoryRepository.lowStockCondition row = row.isLow settings ↔
      (row.lowStockThreshold = none → settings.lowStockAlertThresholdDefault < row.quantity) := by
  rw [Bool.eq_iff_iff, lowStockCondition_iff, Inventory.isLow, decide_eq_true_iff,
    effectiveThreshold]
  cases row.lowStockThreshold <;> simp

end Rule

section Pages

/-- The matching rows, as the page query at an offset sees them. -/
def lowStockRows (orders : Nat → RowOrder) (tables : Tables) (skip : Nat) : List Inventory :=
  (orders skip).arrange (tables.inventories.filter InventoryRepository.lowStockCondition)

/-- No two page queries of the low-stock listing put the same row on their page. -/
def LowStockPagesDisjoint (orders : Nat → RowOrder) (limit : Nat) (tables : Tables) : Prop :=
  ∀ first second, first < second →
    List.Disjoint (Paging.page limit (lowStockRows orders tables) (first * limit))
      (Paging.page limit (lowStockRows orders tables) (second * limit))

theorem mem_listedLowStock {tables : Tables} : row ∈ listedLowStock orders limit tables ↔
    ∃ number, row ∈ Paging.page limit (lowStockRows orders tables) (number * limit) := Iff.rfl

theorem lowStockRows_perm (orders : Nat → RowOrder) (tables : Tables) (skip : Nat) :
    (lowStockRows orders tables skip).Perm
      (tables.inventories.filter InventoryRepository.lowStockCondition) :=
  (orders skip).perm _

theorem listedLowStock_subset {tables : Tables} (listed : row ∈ listedLowStock orders limit tables) :
    row ∈ tables.inventories ∧ InventoryRepository.lowStockCondition row = true := by
  obtain ⟨number, shown⟩ := mem_listedLowStock.mp listed
  exact List.mem_filter.mp ((lowStockRows_perm _ _ _).mem_iff.mp (Paging.mem_page shown))

theorem listedLowStock_complete_iff (valid : world.Valid) (positive : 0 < limit) :
    (∀ row ∈ world.tables.inventories, InventoryRepository.lowStockCondition row = true →
      row ∈ listedLowStock orders limit world.tables) ↔
      LowStockPagesDisjoint orders limit world.tables := by
  rw [LowStockPagesDisjoint, ← Paging.covered_iff_disjoint (lowStockRows_perm orders world.tables)
    (valid.inventories_unique.of_map.filter _) positive]
  simp only [List.mem_filter, and_imp, mem_listedLowStock]

end Pages

section Agreement

theorem isLow_of_lowStockCondition (matching : InventoryRepository.lowStockCondition row = true) :
    row.isLow settings = true := by
  obtain ⟨threshold, own, below⟩ := lowStockCondition_iff.mp matching
  simp [Inventory.isLow, effectiveThreshold, own, below]

/-- Every low row is listed if and only if the listing's rule misses none and its
pages show all rows that match. -/
theorem listedLowStock_eq_iff (valid : world.Valid) (positive : 0 < limit) :
    listedLowStock orders limit world.tables =
        {row | row ∈ world.tables.inventories.filter (Inventory.isLow settings)} ↔
      (∀ row ∈ world.tables.inventories, row.lowStockThreshold = none →
        settings.lowStockAlertThresholdDefault < row.quantity) ∧
      LowStockPagesDisjoint orders limit world.tables := by
  rw [← listedLowStock_complete_iff valid positive]
  constructor
  · intro same
    have listed : ∀ row ∈ world.tables.inventories, row.isLow settings = true →
        row ∈ listedLowStock orders limit world.tables := by
      intro row stored low
      rw [same]
      exact List.mem_filter.mpr ⟨stored, low⟩
    constructor
    · intro row stored
      apply lowStockCondition_eq_isLow_iff.mp
      rw [Bool.eq_iff_iff]
      constructor
      · exact isLow_of_lowStockCondition
      · intro low
        exact (listedLowStock_subset (listed row stored low)).2
    · intro row stored matching
      exact listed row stored (isLow_of_lowStockCondition matching)
  · intro holds
    obtain ⟨enough, complete⟩ := holds
    ext row
    constructor
    · intro listed
      obtain ⟨stored, matching⟩ := listedLowStock_subset listed
      exact List.mem_filter.mpr ⟨stored, isLow_of_lowStockCondition matching⟩
    · intro low
      obtain ⟨stored, low⟩ := List.mem_filter.mp low
      apply complete row stored
      rw [lowStockCondition_eq_isLow_iff.mpr (enough row stored)]
      exact low

theorem ncard_low (valid : world.Valid) :
    ({row | row ∈ world.tables.inventories.filter (Inventory.isLow settings)} : Set Inventory).ncard =
      (generateInventorySummary settings collation world.tables).lowStockCount := by
  have unique : (world.tables.inventories.filter (Inventory.isLow settings)).Nodup :=
    valid.inventories_unique.of_map.filter _
  rw [lowStockCount_eq valid, List.countP_eq_length_filter, ← List.toFinset_card_of_nodup unique,
    ← Set.ncard_coe_finset, List.coe_toFinset]

theorem listingAgrees_iff (valid : world.Valid) (atMostOne : AtMostOneActive world.tables) :
    ListingAgrees settings collation orders limit world ↔
      listedLowStock orders limit world.tables =
        {row | row ∈ world.tables.inventories.filter (Inventory.isLow settings)} := by
  constructor
  · intro agrees
    rw [agrees.alerted, alertedStock_eq valid atMostOne]
  · intro same
    constructor
    · rw [same, alertedStock_eq valid atMostOne]
    · rw [same]
      ext row
      rw [Set.mem_ofPred_eq, List.mem_filter, Inventory.isLow, decide_eq_true_iff]
      rfl
    · rw [same, ncard_low valid]

end Agreement

section Orders

theorem LowStockPagesDisjoint.fixed (valid : world.Valid) (order : RowOrder) (limit : Nat) :
    LowStockPagesDisjoint (fun _ => order) limit world.tables :=
  Paging.disjoint_fixed ((order.perm _).nodup_iff.mpr (valid.inventories_unique.of_map.filter _))

end Orders

/-- In every reachable state, the listing agrees with the alert rule and the report
if and only if no row without a threshold is low and the pages do not overlap. -/
theorem lowStock_listing_agrees_iff (settings : Settings) (collation : String → String → Bool)
    (start : World) (valid : start.Valid) (atMostOne : AtMostOneActive start.tables)
    (world : World) (reached : Edited settings start world) (orders : Nat → RowOrder)
    (limit : Nat) (positive : 0 < limit) :
    ListingAgrees settings collation orders limit world ↔
      (∀ row ∈ world.tables.inventories, row.lowStockThreshold = none →
        settings.lowStockAlertThresholdDefault < row.quantity) ∧
      LowStockPagesDisjoint orders limit world.tables := by
  obtain ⟨validNow, uniqueNow⟩ := reached.invariant valid atMostOne
  rw [listingAgrees_iff validNow uniqueNow]
  exact listedLowStock_eq_iff validNow positive

/-- A receipt whose row gets a threshold afterwards. -/
def Sample.received (quantity : Int) (positive : 0 < quantity) : World :=
  (runAlone (fun _ => {}) Sample.world
    (recordMovement {} (Sample.receive Sample.main quantity positive) none)).shared

theorem lowStock_listing_agrees_iff_threshold :
    ListingAgrees {} (fun left right => decide (left ≤ right)) (fun _ => .stored) 100
      ((Sample.received 25 (by decide)).setThreshold (Sample.product.id, Sample.main.id)
        (some 30)) := by
  have reached : Edited {} Sample.world ((Sample.received 25 (by decide)).setThreshold
      (Sample.product.id, Sample.main.id) (some 30)) :=
    .threshold (.movement .start _ _ _) _ _ (by decide)
  apply (lowStock_listing_agrees_iff {} (fun left right => decide (left ≤ right)) Sample.world
    Sample.world_valid Sample.world_atMostOne _ reached (fun _ => .stored) 100 (by decide)).mpr
  constructor
  · decide +kernel
  · exact .fixed (reached.invariant Sample.world_valid Sample.world_atMostOne).1 .stored 100

/-- Five pieces without a threshold: alerted, not listed. -/
theorem default_threshold_not_listed :
    ¬ ∀ (settings : Settings) (collation : String → String → Bool) (start : World), start.Valid →
      AtMostOneActive start.tables → ∀ world, Edited settings start world →
        ∀ (orders : Nat → RowOrder) (limit : Nat), 0 < limit →
          ListingAgrees settings collation orders limit world := by
  intro agree
  have reached : Edited {} Sample.world (Sample.received 5 (by decide)) := .movement .start _ _ _
  have agrees := agree {} (fun left right => decide (left ≤ right)) Sample.world Sample.world_valid
    Sample.world_atMostOne _ reached (fun _ => .stored) 100 (by decide)
  have stored : (Sample.received 5 (by decide)).tables.inventories = [{
      productId := Sample.product.id, warehouseId := Sample.main.id, quantity := 5 }] := by
    decide +kernel
  have listed : { productId := Sample.product.id, warehouseId := Sample.main.id, quantity := 5 } ∈
      listedLowStock (fun _ => RowOrder.stored) 100 (Sample.received 5 (by decide)).tables := by
    rw [agrees.low, stored]
    simp
  have matching := (listedLowStock_subset listed).2
  cases matching

end InventoryManagement
