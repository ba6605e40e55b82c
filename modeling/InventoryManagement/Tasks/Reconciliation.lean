import InventoryManagement.Tasks.SweepAlone

/-! The sweep under one fixed row order: it ends with every alert in line with the
stock, agrees with the report, and has nothing left to do the second time. -/

set_option autoImplicit false

namespace InventoryManagement

open Interleaving (Program)

variable {settings : Settings} {answers : Nat → Answer} {world : World}

/-- Exactly one active alert per low row, none for the others. -/
def AlertsReconciled (settings : Settings) (tables : Tables) : Prop :=
  ∀ row ∈ tables.inventories,
    (row.quantity ≤ effectiveThreshold settings row → ∃ alert,
      tables.activeAlerts row.pair = [alert] ∧
        (alert.alertType = .OUT_OF_STOCK ↔ row.quantity = 0)) ∧
    (effectiveThreshold settings row < row.quantity → tables.activeAlerts row.pair = [])

/-- The active alerts of the pairs that have an inventory row. -/
def Tables.stockAlerts (tables : Tables) : List Alert :=
  tables.inventories.flatMap (fun row => tables.activeAlerts row.pair)

/-- A sweep alone on a healthy database that keeps one row order. -/
structure SweepSetting (answers : Nat → Answer) (world : World) (fuel : Nat) : Prop where
  healthy : ∀ n, (answers n).fails = false
  fixed : ∃ order : RowOrder, ∀ n skip, (answers n).order skip = order
  enough : world.tables.inventories.length + batchSize ≤ fuel * batchSize

theorem length_flatMap_indicator {Row Item : Type} {rows : List Row} {items : Row → List Item}
    {condition : Row → Bool}
    (indicated : ∀ row ∈ rows, (items row).length = if condition row then 1 else 0) :
    (rows.flatMap items).length = (rows.filter condition).length := by
  induction rows with
  | nil => rfl
  | cons row rest ih =>
      rw [List.flatMap_cons, List.length_append, indicated row List.mem_cons_self,
        ih (fun other member => indicated other (List.mem_cons_of_mem _ member)), List.filter_cons]
      cases condition row <;> simp [Nat.add_comm]

section Counts

variable {tables : Tables}

theorem AlertsReconciled.length (reconciled : AlertsReconciled settings tables) :
    tables.stockAlerts.length = (tables.inventories.filter (Inventory.isLow settings)).length := by
  refine length_flatMap_indicator (fun row stored => ?_)
  obtain ⟨low, high⟩ := reconciled row stored
  by_cases few : row.quantity ≤ effectiveThreshold settings row
  · obtain ⟨alert, one, _⟩ := low few
    simp [one, Inventory.isLow, few]
  · simp [high (by omega), Inventory.isLow, few]

/-- A row without stock is low, as its threshold is not negative. -/
theorem AlertsReconciled.outOfStock (reconciled : AlertsReconciled settings tables)
    (thresholds : ∀ row ∈ tables.inventories, 0 ≤ effectiveThreshold settings row) :
    (tables.stockAlerts.filter (fun alert => decide (alert.alertType = .OUT_OF_STOCK))).length =
      (tables.inventories.filter (fun row => decide (row.quantity = 0))).length := by
  rw [Tables.stockAlerts, List.filter_flatMap]
  refine length_flatMap_indicator (fun row stored => ?_)
  obtain ⟨low, high⟩ := reconciled row stored
  have threshold := thresholds row stored
  by_cases few : row.quantity ≤ effectiveThreshold settings row
  · obtain ⟨alert, one, type⟩ := low few
    by_cases zero : row.quantity = 0
    · simp [one, zero, type.mpr zero]
    · have kind : alert.alertType ≠ .OUT_OF_STOCK := fun out => zero (type.mp out)
      simp [one, zero, kind]
  · have some : row.quantity ≠ 0 := by omega
    simp [high (by omega), some]

end Counts

theorem sweptRows_fixed (order : RowOrder) (tables : Tables) {pages : Nat}
    (enough : tables.inventories.length ≤ pages * batchSize) :
    sweptRows (fun _ => order) tables pages 0 = order.arrange tables.inventories := by
  have length := (order.perm tables.inventories).length_eq
  rw [sweptRows, show listing (fun _ => order) tables = fun _ =>
    order.arrange tables.inventories from rfl, Paging.pages_fixed, List.drop_zero]
  exact List.take_of_length_le (by omega)

theorem sweep_pages {fuel : Nat}
    (enough : world.tables.inventories.length + batchSize ≤ fuel * batchSize) :
    ∃ pages, fuel = pages + 1 ∧ world.tables.inventories.length ≤ pages * batchSize := by
  cases fuel with
  | zero => simp [batchSize] at enough
  | succ pages =>
      rw [Nat.succ_mul] at enough
      exact ⟨pages, rfl, by omega⟩

theorem sweep_alone (settings : Settings) (valid : world.Valid)
    (unambiguous : ∀ row ∈ world.tables.inventories,
      (world.tables.activeAlerts row.pair).length ≤ 1)
    {fuel : Nat} (setting : SweepSetting answers world fuel) :
    ∃ rows, rows.Perm world.tables.inventories ∧
      (checkLowStockLevels settings fuel).Returns environment answers world {}
        (fun summary after updated => summary = {
            evaluated := world.tables.inventories.length
            alertsActive :=
              (world.tables.inventories.filter (Inventory.isLow settings)).length } ∧
          Swept settings rows world {} after updated) := by
  obtain ⟨order, fixed⟩ := setting.fixed
  have ordered : ∀ n, (answers n).order = fun _ => order := fun n => funext (fixed n)
  obtain ⟨pages, rfl, enough⟩ := sweep_pages setting.enough
  have all := sweptRows_fixed order world.tables enough
  refine ⟨order.arrange world.tables.inventories, order.perm _, ?_⟩
  refine (sweepPages_alone setting.healthy ordered valid (sweeping_start settings) (by simp)
    (fun row seen => unambiguous row (mem_sweptRows seen)) (by omega)).mono ?_
  intro summary after updated ensured
  obtain ⟨rfl, swept⟩ := ensured
  rw [all] at swept ⊢
  refine ⟨?_, swept⟩
  simp only [Nat.zero_add, (order.perm world.tables.inventories).length_eq,
    ((order.perm world.tables.inventories).filter _).length_eq]

theorem Swept.reconciles {rows : List Inventory} {start updated : Session} {after : World}
    (swept : Swept settings rows world start after updated)
    (all : rows.Perm world.tables.inventories) : AlertsReconciled settings after.tables := by
  intro row stored
  rw [swept.reconciled.inventories] at stored
  obtain ⟨agrees, unique⟩ := swept.reconciled.agrees row (all.mem_iff.mpr stored)
  obtain ⟨present, types⟩ := agrees_iff.mp agrees
  match found : after.tables.activeAlerts row.pair with
  | [] =>
      refine ⟨fun low => ?_, fun _ => rfl⟩
      obtain ⟨alert, member⟩ := present.mpr low
      rw [found] at member
      cases member
  | [alert] =>
      refine ⟨fun _ => ⟨alert, rfl, types alert (by simp [found])⟩, fun high => ?_⟩
      have low := present.mp ⟨alert, by simp [found]⟩
      omega
  | _ :: _ :: _ =>
      rw [found] at unique
      simp at unique

/-- The sweep converges, agrees with the report, and is idempotent. -/
theorem sweep_converges (settings : Settings) (collation : String → String → Bool) (world : World)
    (valid : world.Valid) (atMostOne : AtMostOneActive world.tables)
    (thresholds : ∀ row ∈ world.tables.inventories, 0 ≤ effectiveThreshold settings row)
    (answers : Nat → Answer) (fuel : Nat) (setting : SweepSetting answers world fuel) :
    let done := runAlone answers world (checkLowStockLevels settings fuel)
    let report := generateInventorySummary settings collation done.shared.tables
    ∃ summary, done.outcome = some (.ok summary) ∧
      done.shared.tables.inventories = world.tables.inventories ∧
      AlertsReconciled settings done.shared.tables ∧
      summary.evaluated = world.tables.inventories.length ∧
      summary.alertsActive = done.shared.tables.stockAlerts.length ∧
      summary.alertsActive = report.lowStockCount ∧
      (done.shared.tables.stockAlerts.filter
        (fun alert => decide (alert.alertType = .OUT_OF_STOCK))).length = report.outOfStockCount ∧
      ∀ answers fuel, SweepSetting answers done.shared fuel →
        let again := runAlone answers done.shared (checkLowStockLevels settings fuel)
        again.outcome = some (.ok summary) ∧ again.shared = done.shared ∧
          again.session.commits = 0 := by
  intro done report
  obtain ⟨rows, all, returns⟩ := sweep_alone settings valid
    (fun row _ => atMostOne row.pair) setting
  obtain ⟨summary, after, updated, later, ran, rfl, swept⟩ := returns 0
  have ended : done = ⟨some (.ok _), after, updated, later⟩ := ran
  have inventories := swept.reconciled.inventories
  have reconciled := swept.reconciles all
  have low : report.lowStockCount =
      (after.tables.inventories.filter (Inventory.isLow settings)).length := by
    simp only [report, ended]
    exact (lowStockCount_eq swept.valid collation).trans List.countP_eq_length_filter
  have out : report.outOfStockCount =
      (after.tables.inventories.filter (fun row => decide (row.quantity = 0))).length := by
    simp only [report, ended]
    exact (outOfStockCount_eq swept.valid collation).trans List.countP_eq_length_filter
  rw [ended, low, out]
  refine ⟨_, rfl, inventories, reconciled, rfl, ?_, ?_, ?_, ?_⟩
  · rw [reconciled.length, inventories]
  · rw [inventories]
  · exact reconciled.outOfStock (inventories ▸ thresholds)
  · intro answers fuel setting again
    have unique : AtMostOneActive after.tables := by
      intro pair
      exact swept.reconciled.unambiguous (atMostOne pair)
    obtain ⟨others, allAgain, returnsAgain⟩ := sweep_alone settings swept.valid
      (fun row _ => unique row.pair) setting
    obtain ⟨_, last, finished, steps, ranAgain, rfl, sweptAgain⟩ := returnsAgain 0
    have endedAgain : again = ⟨some (.ok _), last, finished, steps⟩ := ranAgain
    obtain ⟨rfl, commits⟩ := sweptAgain.settled (fun row member =>
      (swept.reconciled.agrees row (all.mem_iff.mpr
        (inventories ▸ allAgain.mem_iff.mp member))).1)
    rw [endedAgain, inventories]
    exact ⟨rfl, rfl, commits⟩

theorem sweep_converges_edited : ∃ summary,
    (runAlone (fun _ => {}) Sample.stocked (checkLowStockLevels {} 2)).outcome = some (.ok summary) ∧
      summary.evaluated = 2 ∧ AlertsReconciled {}
        (runAlone (fun _ => {}) Sample.stocked (checkLowStockLevels {} 2)).shared.tables := by
  obtain ⟨summary, returned, _, reconciled, evaluated, _⟩ := sweep_converges {}
    (fun left right => decide (left ≤ right)) Sample.stocked Sample.stocked_valid
    Sample.stocked_atMostOne
    (by decide) (fun _ => {}) 2 ⟨fun _ => rfl, ⟨.stored, fun _ _ => rfl⟩, by decide⟩
  exact ⟨summary, returned, evaluated, reconciled⟩

end InventoryManagement
