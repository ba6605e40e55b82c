import InventoryManagement.Services.Alert

/-! The periodic low-stock sweep of `app.tasks.alerts`. -/

set_option autoImplicit false

namespace InventoryManagement

open Interleaving (Program)

def batchSize : Nat := 200

structure SweepSummary where
  evaluated : Nat := 0
  alertsActive : Nat := 0
deriving DecidableEq

/-- `for inventory in batch`. -/
def sweepBatch (settings : Settings) : List Inventory → SweepSummary → Transaction SweepSummary
  | [], summary => pure summary
  | inventory :: rest, summary => do
      let alert ← evaluateStockLevel settings inventory
      sweepBatch settings rest {
        evaluated := summary.evaluated + 1
        alertsActive := summary.alertsActive + (if alert.isSome then 1 else 0) }

/-- `while True`, with an allowance of page queries. -/
def sweepPages (settings : Settings) : Nat → Nat → SweepSummary → Transaction SweepSummary
  | 0, _, _ => Program.raise .outOfFuel
  | fuel + 1, skip, summary => do
      let batch ← send (.selectInventories skip batchSize)
      if batch = [] then pure summary
      else do
        let summary ← sweepBatch settings batch summary
        sweepPages settings fuel (skip + batchSize) summary

def checkLowStockLevels (settings : Settings) (fuel : Nat) : Transaction SweepSummary :=
  sweepPages settings fuel 0 {}

end InventoryManagement
