import InventoryManagement.Tasks.PageOrder

/-! The sweep over an alerts table that holds several active alerts for one pair:
the lookup of that pair raises, and the loop has nothing that catches it. -/

set_option autoImplicit false

namespace InventoryManagement

open Interleaving (Completion Program)

variable {settings : Settings} {answers : Nat → Answer} {world : World}

/-- The active alerts of a row's pair say what its stock is. -/
def RowReconciled (settings : Settings) (tables : Tables) (row : Inventory) : Prop :=
  (row.quantity ≤ effectiveThreshold settings row → ∃ alert,
    tables.activeAlerts row.pair = [alert] ∧
      (alert.alertType = .OUT_OF_STOCK ↔ row.quantity = 0)) ∧
  (effectiveThreshold settings row < row.quantity → tables.activeAlerts row.pair = [])

theorem alertsReconciled_iff {tables : Tables} :
    AlertsReconciled settings tables ↔ ∀ row ∈ tables.inventories, RowReconciled settings tables row :=
  Iff.rfl

/-- A sweep that completes and reconciles every row whose alerts were unambiguous. -/
structure SweepHeals (settings : Settings) (before : World)
    (done : Completion World Session Exception SweepSummary) : Prop where
  completes : ∃ summary, done.outcome = some (.ok summary)
  reconciles : ∀ row ∈ before.tables.inventories,
    (before.tables.activeAlerts row.pair).length ≤ 1 →
      RowReconciled settings done.shared.tables row

/-- Every order of the rows reaches the ambiguous one. -/
theorem sweep_ambiguous (settings : Settings) (valid : world.Valid) {row : Inventory}
    (stored : row ∈ world.tables.inventories)
    (several : 2 ≤ (world.tables.activeAlerts row.pair).length) {fuel : Nat}
    (setting : SweepSetting answers world fuel) :
    (checkLowStockLevels settings fuel).Raises environment answers world {} (fun _ _ _ => True) := by
  obtain ⟨order, fixed⟩ := setting.fixed
  have ordered : ∀ n, (answers n).order = fun _ => order := fun n => funext (fixed n)
  obtain ⟨pages, rfl, enough⟩ := sweep_pages setting.enough
  have seen : row ∈ sweptRows (fun _ => order) world.tables pages 0 := by
    rw [sweptRows_fixed order world.tables enough]
    exact (order.perm world.tables.inventories).mem_iff.mpr stored
  exact sweepPages_ambiguous setting.healthy ordered valid (sweeping_start settings) (by simp)
    ⟨row, seen, several⟩

/-- The sweep heals the alerts exactly when no row's pair has several active ones. -/
theorem sweep_heals_iff (settings : Settings) (world : World) (valid : world.Valid)
    (answers : Nat → Answer) (fuel : Nat) (setting : SweepSetting answers world fuel) :
    SweepHeals settings world (runAlone answers world (checkLowStockLevels settings fuel)) ↔
      ∀ row ∈ world.tables.inventories, (world.tables.activeAlerts row.pair).length ≤ 1 := by
  constructor
  · intro heals row stored
    by_contra several
    obtain ⟨error, after, updated, later, ran, _⟩ :=
      sweep_ambiguous settings valid stored (by omega) setting 0
    obtain ⟨summary, returned⟩ := heals.completes
    rw [runAlone, ran] at returned
    cases returned
  · intro unambiguous
    obtain ⟨rows, all, returns⟩ := sweep_alone settings valid unambiguous setting
    obtain ⟨summary, after, updated, later, ran, _, swept⟩ := returns 0
    rw [runAlone, ran]
    constructor
    · exact ⟨summary, rfl⟩
    · intro row stored _
      have reconciled := alertsReconciled_iff.mp (swept.reconciles all)
      exact reconciled row (swept.reconciled.inventories ▸ stored)

theorem sweep_heals_iff_stocked :
    SweepHeals {} Sample.stocked
      (runAlone (fun _ => {}) Sample.stocked (checkLowStockLevels {} 2)) :=
  (sweep_heals_iff {} Sample.stocked Sample.stocked_valid (fun _ => {}) 2
    ⟨fun _ => rfl, ⟨.stored, fun _ _ => rfl⟩, by decide⟩).mpr (by decide)

/-- Two concurrent evaluations have each raised an alert for the same pair. -/
def Sample.alertedTwice : World where
  tables := { Sample.stocked.tables with alerts := [
    { productId := Sample.product.id, warehouseId := Sample.main.id, alertType := .LOW_STOCK,
      threshold := 10, quantityAtTrigger := 5, id := 0, createdAt := 0 },
    { productId := Sample.product.id, warehouseId := Sample.main.id, alertType := .LOW_STOCK,
      threshold := 10, quantityAtTrigger := 5, id := 1, createdAt := 0 }] }
  nextId := 2

theorem Sample.alertedTwice_valid : Sample.alertedTwice.Valid := by
  have stocked := Sample.stocked_valid
  refine ⟨stocked.products_unique, stocked.warehouses_unique, stocked.inventories_unique,
    stocked.inventories_refer, stocked.inventories_fit, ?_, ?_, ?_, ?_, ?_⟩ <;> decide

/-- The first row stops the sweep, and the second one stays out of stock without an alert. -/
theorem ambiguous_pair_stops_sweep :
    let done := runAlone (fun _ => {}) Sample.alertedTwice (checkLowStockLevels {} 2)
    Sample.alertedTwice.Valid ∧ ¬ SweepHeals {} Sample.alertedTwice done ∧
      (Sample.alertedTwice.tables.activeAlerts (Sample.product.id, Sample.branch.id)).length ≤ 1 ∧
      ¬ RowReconciled {} done.shared.tables {
        productId := Sample.product.id, warehouseId := Sample.branch.id, quantity := 0,
        lowStockThreshold := some 3 } := by
  intro done
  have raised : done.outcome = some (.error .multipleResultsFound) := rfl
  have none : done.shared.tables.activeAlerts (Sample.product.id, Sample.branch.id) = [] := rfl
  refine ⟨Sample.alertedTwice_valid, ?_, by decide, ?_⟩
  · intro heals
    obtain ⟨summary, returned⟩ := heals.completes
    rw [raised] at returned
    cases returned
  · intro reconciled
    obtain ⟨alert, one, _⟩ := reconciled.1 (by decide)
    change done.shared.tables.activeAlerts (Sample.product.id, Sample.branch.id) = [alert] at one
    rw [none] at one
    cases one

end InventoryManagement
